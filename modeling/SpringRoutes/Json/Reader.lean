import SpringRoutes.Json.Basic
import SpringRoutes.Text.Search

/-!
# `SpringRoutes.Json.Reader` — reading JSON text

The reader accepts JSON and the three words `NaN`, `Infinity` and `-Infinity`. It stops at the
first fault and says where it noticed it. It has room for so many open brackets, and stops at an
opening bracket for which there is no room left.

Strings are texts of Unicode characters. The escape of a surrogate that is not half of a pair stands
for no such text and is read as the replacement character, so two strings that differ in such escapes
only are read as one.

## Contents
- `Json.Fault`, `Json.ReadError`: what can be wrong, and where.
- `Json.number?`: the number at the start of a text.
- `Json.scanString`: the rest of a string literal.
- `Json.parse`: the value of a whole text.
-/

namespace SpringRoutes

open Text

namespace Json

/-- What can be wrong with a JSON text. -/
inductive Fault
  | value
  | name
  | colon
  | comma
  | extra
  | unterminated
  | control
  | badEscape
  | badUnicode
  | byteOrderMark
  deriving Repr, DecidableEq

/-- The wording of a fault. -/
def Fault.message : Fault → String
  | .value => "Expecting value"
  | .name => "Expecting property name enclosed in double quotes"
  | .colon => "Expecting ':' delimiter"
  | .comma => "Expecting ',' delimiter"
  | .extra => "Extra data"
  | .unterminated => "Unterminated string starting at"
  | .control => "Invalid control character at"
  | .badEscape => "Invalid \\escape"
  | .badUnicode => "Invalid \\uXXXX escape"
  | .byteOrderMark => "Unexpected UTF-8 BOM (decode using utf-8-sig)"

/-- The two kinds of values in brackets. -/
inductive Bracket
  | array
  | object
  deriving Repr, DecidableEq

/-- The name of a kind of values in brackets. -/
def Bracket.name : Bracket → String
  | .array => "array"
  | .object => "object"

/-- Why a text was refused: a fault noticed where `rest` starts, an integer with more digits than
    are read, or a bracket inside too many others. -/
inductive ReadError
  | fault (what : Fault) (rest : List Char)
  | digits (count : Nat)
  | nested (bracket : Bracket)
  deriving Repr, DecidableEq

/-- What a reader gives back: a value and the text after it. -/
abbrev Read (α : Type) := Except ReadError (α × List Char)

/-! ## Blanks and numbers -/

/-- Whether `c` may stand between the parts of a JSON text. -/
def isSpace (c : Char) : Bool :=
  c == ' ' || c == '\t' || c == '\n' || c == '\r'

/-- The text after the blanks at its start. -/
def skip (s : List Char) : List Char :=
  s.dropWhile isSpace

/-- The number that a list of decimal digits denotes. -/
def digitsValue (ds : List Char) : Nat :=
  ds.foldl (fun n d => 10 * n + (d.toNat - 48)) 0

/-- The digits before the point: a zero, or digits that do not start with zero. -/
def whole? (s : List Char) : Option (List Char × List Char) :=
  match s with
  | '0' :: r => some (['0'], r)
  | c :: _ => if c.isDigit then some (s.takeWhile Char.isDigit, s.dropWhile Char.isDigit) else none
  | [] => none

/-- The digits after a point; none when no digit follows the point. -/
def decimals (s : List Char) : List Char × List Char :=
  match s with
  | '.' :: r =>
    match r.takeWhile Char.isDigit with
    | [] => ([], s)
    | ds => (ds, r.dropWhile Char.isDigit)
  | _ => ([], s)

/-- The exponent after an `e`; none when no digit follows it. -/
def exponent? (s : List Char) : Option (Int × List Char) :=
  match s with
  | c :: r =>
    if c = 'e' ∨ c = 'E' then
      let (negative, r) := match r with
        | '-' :: r => (true, r)
        | '+' :: r => (false, r)
        | r => (false, r)
      match r.takeWhile Char.isDigit with
      | [] => none
      | ds =>
        let n : Int := digitsValue ds
        some (if negative then -n else n, r.dropWhile Char.isDigit)
    else none
  | [] => none

/-- The number at the start of `s` after its sign. -/
def unsigned? (negative : Bool) (s : List Char) : Option (Except ReadError (Json × List Char)) :=
  (whole? s).map fun (ds, r) =>
    let (ps, r) := decimals r
    match ps, exponent? r with
    | [], none =>
      if maxDigits < ds.length then .error (.digits ds.length)
      else
        let n : Int := digitsValue ds
        .ok (.int (if negative then -n else n), r)
    | ps, e =>
      let (e, r) := e.getD (0, r)
      .ok (.float (.ofDecimal negative (digitsValue (ds ++ ps)) (e - ps.length)), r)

/-- The number at the start of `s`. -/
def number? (s : List Char) : Option (Except ReadError (Json × List Char)) :=
  match s with
  | '-' :: r => unsigned? true r
  | _ => unsigned? false s

/-! ## Strings -/

/-- The value of a hexadecimal digit. -/
def hexValue? (c : Char) : Option Nat :=
  if c.isDigit then some (c.toNat - 48)
  else if 'a' ≤ c ∧ c ≤ 'f' then some (c.toNat - 87)
  else if 'A' ≤ c ∧ c ≤ 'F' then some (c.toNat - 55)
  else none

/-- Four hexadecimal digits, which may not end the text. -/
def unit? : List Char → Option (Nat × List Char)
  | a :: b :: c :: d :: e :: r => do
    let a ← hexValue? a
    let b ← hexValue? b
    let c ← hexValue? c
    let d ← hexValue? d
    some (a * 4096 + b * 256 + c * 16 + d, e :: r)
  | _ => none

/-- The character of an escape with one letter. -/
def shortEscape? : Char → Option Char
  | '"' => some '"'
  | '\\' => some '\\'
  | '/' => some '/'
  | 'b' => some '\x08'
  | 'f' => some '\x0c'
  | 'n' => some '\n'
  | 'r' => some '\r'
  | 't' => some '\t'
  | _ => none

/-- The character of a UTF-16 unit that stands alone. A surrogate is no character and is read as the
    replacement character. -/
def loneUnit (n : Nat) : Char :=
  if 0xd800 ≤ n ∧ n < 0xe000 then Char.ofNat 0xfffd else Char.ofNat n

/-- The character of two UTF-16 units that form a pair, when `n` is the first of them and the
    escape of the second follows. -/
def pairAfter? (n : Nat) (s : List Char) : Option (Char × List Char) :=
  if 0xd800 ≤ n ∧ n < 0xdc00 then
    match s with
    | '\\' :: 'u' :: t =>
      match unit? t with
      | some (m, t) =>
        if 0xdc00 ≤ m ∧ m < 0xe000 then
          some (Char.ofNat (0x10000 + (n - 0xd800) * 1024 + (m - 0xdc00)), t)
        else none
      | none => none
    | _ => none
  else none

/-- Put a character in front of what was read. -/
def readCons (c : Char) (r : Read (List Char)) : Read (List Char) :=
  r.map fun p => (c :: p.1, p.2)

/-- The rest of a string literal after its opening quote. `start` is the text from that quote
    on. -/
def scanString (start : List Char) : Nat → List Char → Read (List Char)
  | 0, _ => .error (.fault .unterminated start)
  | fuel + 1, s =>
    match s with
    | [] => .error (.fault .unterminated start)
    | '"' :: r => .ok ([], r)
    | '\\' :: r =>
      match r with
      | [] => .error (.fault .unterminated start)
      | 'u' :: t =>
        match unit? t with
        | none => .error (.fault .badUnicode r)
        | some (n, t) =>
          match pairAfter? n t with
          | some (c, t) => readCons c (scanString start fuel t)
          | none => readCons (loneUnit n) (scanString start fuel t)
      | c :: t =>
        match shortEscape? c with
        | some c => readCons c (scanString start fuel t)
        | none => .error (.fault .badEscape s)
    | c :: r =>
      if c.toNat < 32 then .error (.fault .control s)
      else readCons c (scanString start fuel r)

/-- The string literal whose opening quote is at the start of `s`. -/
def stringLiteral (s : List Char) : Read String :=
  (scanString s (s.length + 1) (s.drop 1)).map fun p => (String.ofList p.1, p.2)

/-! ## Values -/

/-- The words that stand for values. -/
def words : List (List Char × Json) :=
  [("null".toList, .null), ("true".toList, .bool true), ("false".toList, .bool false),
   ("NaN".toList, .float .nan), ("Infinity".toList, .float (.infinite false)),
   ("-Infinity".toList, .float (.infinite true))]

/-- The word at the start of `s`. -/
def word? (s : List Char) : Option (Json × List Char) :=
  words.findSome? fun w => (afterLiteral w.1 s).map fun r => (w.2, r)

mutual

/-- The value at the start of `s`, with room for so many open brackets. -/
def value : Nat → Nat → List Char → Read Json
  | 0, _, s => .error (.fault .value s)
  | fuel + 1, room, s =>
    match s with
    | '"' :: _ => (stringLiteral s).map fun p => (.string p.1, p.2)
    | '[' :: r =>
      match room with
      | 0 => .error (.nested .array)
      | room + 1 =>
        match skip r with
        | ']' :: t => .ok (.array [], t)
        | t => (items fuel room t).map fun p => (.array p.1, p.2)
    | '\x7b' :: r =>
      match room with
      | 0 => .error (.nested .object)
      | room + 1 =>
        match skip r with
        | '\x7d' :: t => .ok (.object [], t)
        | t => (members fuel room [] t).map fun p => (.object p.1, p.2)
    | s =>
      match word? s with
      | some r => .ok r
      | none => (number? s).getD (.error (.fault .value s))

/-- The items of an array up to its closing bracket, each with the same room. -/
def items : Nat → Nat → List Char → Read (List Json)
  | 0, _, s => .error (.fault .value s)
  | fuel + 1, room, s =>
    match value fuel room s with
    | .error e => .error e
    | .ok (j, r) =>
      match skip r with
      | ']' :: t => .ok ([j], t)
      | ',' :: t => (items fuel room (skip t)).map fun p => (j :: p.1, p.2)
      | t => .error (.fault .comma t)

/-- The fields of an object up to its closing brace, added to those before them. -/
def members : Nat → Nat → List (String × Json) → List Char → Read (List (String × Json))
  | 0, _, _, s => .error (.fault .name s)
  | fuel + 1, room, before, s =>
    match s with
    | '"' :: _ =>
      match stringLiteral s with
      | .error e => .error e
      | .ok (key, r) =>
        match skip r with
        | ':' :: r =>
          match value fuel room (skip r) with
          | .error e => .error e
          | .ok (j, r) =>
            let fields := Entries.put before key j
            match skip r with
            | '\x7d' :: t => .ok (fields, t)
            | ',' :: t => members fuel room fields (skip t)
            | t => .error (.fault .comma t)
        | t => .error (.fault .colon t)
    | s => .error (.fault .name s)

end

/-- The value of a whole text, with room for so many open brackets. -/
def parse (room : Nat) (s : List Char) : Except ReadError Json :=
  if s.head? = some '\ufeff' then .error (.fault .byteOrderMark s)
  else
    match value (2 * s.length + 2) room (skip s) with
    | .error e => .error e
    | .ok (j, r) =>
      match skip r with
      | [] => .ok j
      | t => .error (.fault .extra t)

/-! ## Where a fault was noticed -/

/-- How many characters of `text` precede its part `rest`. -/
def position (text rest : List Char) : Nat :=
  text.length - rest.length

/-- The wording of a refusal of `text`. -/
def ReadError.message (text : List Char) : ReadError → String
  | .fault what rest =>
    let pos := position text rest
    let before := text.take pos
    let line := before.count '\n' + 1
    let column := (before.reverse.takeWhile (· ≠ '\n')).length + 1
    what.message ++ ": line " ++ toString line ++ " column " ++ toString column ++ " (char "
      ++ toString pos ++ ")"
  | .digits n =>
    "Exceeds the limit (4300 digits) for integer string conversion: value has " ++ toString n
      ++ " digits; use sys.set_int_max_str_digits() to increase the limit"
  | .nested b =>
    "maximum recursion depth exceeded while decoding a JSON " ++ b.name
      ++ " from a unicode string"

end Json

end SpringRoutes
