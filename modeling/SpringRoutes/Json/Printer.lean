import SpringRoutes.Json.Basic
import SpringRoutes.Number.Shortest

/-!
# `SpringRoutes.Json.Printer` — JSON text

Only ASCII is written: other characters are escaped by UTF-16 units.

## Contents
- `Json.escape`: the characters of a string literal.
- `Json.render`: the text of a value on several lines, two spaces deeper at each level.
- `Json.compact`: the text of a value on one line.
- `Json.isWritable`: whether a value has a text.
-/

namespace SpringRoutes

namespace Json

/-- The hexadecimal digit of a number below sixteen. -/
def hexDigit (n : Nat) : Char :=
  if n < 10 then Char.ofNat (48 + n) else Char.ofNat (87 + n)

/-- The last four hexadecimal digits of a number. -/
def hex4 (n : Nat) : List Char :=
  [hexDigit (n / 4096 % 16), hexDigit (n / 256 % 16), hexDigit (n / 16 % 16), hexDigit (n % 16)]

/-- The escape of one UTF-16 unit. -/
def unitEscape (n : Nat) : List Char :=
  '\\' :: 'u' :: hex4 n

/-- One character of a string literal. -/
def escapeChar (c : Char) : List Char :=
  if c = '"' then ['\\', '"']
  else if c = '\\' then ['\\', '\\']
  else if c = '\n' then ['\\', 'n']
  else if c = '\r' then ['\\', 'r']
  else if c = '\t' then ['\\', 't']
  else if c.toNat = 12 then ['\\', 'f']
  else if c.toNat = 8 then ['\\', 'b']
  else if 32 ≤ c.toNat ∧ c.toNat < 127 then [c]
  else if c.toNat < 0x10000 then unitEscape c.toNat
  else
    let n := c.toNat - 0x10000
    unitEscape (0xd800 + n / 1024) ++ unitEscape (0xdc00 + n % 1024)

/-- The characters of a string literal, without its quotes. -/
def escape (s : List Char) : List Char :=
  s.flatMap escapeChar

/-- A string literal. -/
def literal (s : String) : List Char :=
  '"' :: escape s.toList ++ ['"']

/-- The digits of an integer. -/
def intText (n : Int) : List Char :=
  (if n < 0 then ['-'] else []) ++ Nat.toDigits 10 n.natAbs

/-- How the parts of arrays and objects are set apart at a given depth. -/
structure Layout where
  /-- What precedes the first part and follows each comma. -/
  lead : Nat → List Char
  /-- What follows the last part. -/
  close : Nat → List Char
  /-- What stands between a key and its value. -/
  colon : List Char

/-- A line break and the indentation of a depth. -/
def newline (depth : Nat) : List Char :=
  '\n' :: List.replicate (2 * depth) ' '

/-- Each part on a line of its own. -/
def Layout.indented : Layout where
  lead depth := newline (depth + 1)
  close depth := newline depth
  colon := [':', ' ']

/-- Everything on one line. -/
def Layout.oneLine : Layout where
  lead _ := []
  close _ := []
  colon := [':']

mutual

/-- The text of a value that stands at a given depth. -/
def write (l : Layout) (depth : Nat) : Json → List Char
  | .null => "null".toList
  | .bool true => "true".toList
  | .bool false => "false".toList
  | .int n => intText n
  | .float x => (x.textWith "Infinity" "NaN").toList
  | .string s => literal s
  | .array [] => ['[', ']']
  | .array (j :: js) =>
    '[' :: l.lead depth ++ write l (depth + 1) j ++ writeItems l depth js ++ l.close depth ++ [']']
  | .object [] => ['\x7b', '\x7d']
  | .object ((k, j) :: fs) =>
    '\x7b' :: l.lead depth ++ literal k ++ l.colon ++ write l (depth + 1) j ++
      writeFields l depth fs ++ l.close depth ++ ['\x7d']

/-- The items after the first one. -/
def writeItems (l : Layout) (depth : Nat) : List Json → List Char
  | [] => []
  | j :: js => ',' :: l.lead depth ++ write l (depth + 1) j ++ writeItems l depth js

/-- The fields after the first one. -/
def writeFields (l : Layout) (depth : Nat) : List (String × Json) → List Char
  | [] => []
  | (k, j) :: fs =>
    ',' :: l.lead depth ++ literal k ++ l.colon ++ write l (depth + 1) j ++ writeFields l depth fs

end

/-- The text of a value on several lines. -/
def render (j : Json) : String :=
  String.ofList (write .indented 0 j)

/-- The text of a value on one line. -/
def compact (j : Json) : String :=
  String.ofList (write .oneLine 0 j)

/-- Whether a value is no integer of too many digits. -/
def isShort : Json → Bool
  | .int n => (Nat.toDigits 10 n.natAbs).length ≤ maxDigits
  | _ => true

/-- Whether a value can be written: integers of too many digits cannot. -/
def isWritable (j : Json) : Bool :=
  j.every isShort

end Json

end SpringRoutes
