import SpringRoutes.Number.Binary64
import SpringRoutes.Text.Casing
import SpringRoutes.Text.Integer
import SpringRoutes.Text.Search
import SpringRoutes.Yaml.Fault

/-!
# `SpringRoutes.Yaml.Number` — numbers of settings files

Underscores are not counted. Integers may be written to the bases two, eight, ten, sixteen and
sixty, floating-point numbers to the bases ten and sixty.

## Contents
- `Yaml.integerValue`: the integer that a text denotes.
- `Yaml.floatValue`: the floating-point number that a text denotes.
-/

namespace SpringRoutes

open Text

namespace Yaml

/-- A text without the padding around it. -/
def withoutPadding (s : List Char) : List Char :=
  ((s.dropWhile Integer.isPadding).reverse.dropWhile Integer.isPadding).reverse

/-- The value of a digit to some base up to sixteen. -/
def radixDigit? (base : Nat) (c : Char) : Option Nat :=
  let v := match digitValue? c with
    | some d => some d
    | none =>
      if 'a' ≤ c ∧ c ≤ 'f' then some (c.toNat - 87)
      else if 'A' ≤ c ∧ c ≤ 'F' then some (c.toNat - 55)
      else none
  v.filter (· < base)

/-- What follows a mark of the base that may stand before the digits. -/
def afterRadixMark (base : Nat) : List Char → List Char
  | '0' :: m :: r =>
    let marks := match base with
      | 2 => ['b', 'B']
      | 8 => ['o', 'O']
      | _ => ['x', 'X']
    if marks.contains m then r else '0' :: m :: r
  | s => s

/-- The integer that a text without underscores denotes to the base two, eight or sixteen. -/
def radixInteger (base : Nat) (s : List Char) : Except Fault Int :=
  let (negative, body) := Integer.sign (withoutPadding s)
  match (afterRadixMark base body).mapM (radixDigit? base) with
  | none | some [] => .error (.notInteger base (String.ofList s))
  | some ds =>
    let n := ds.foldl (fun n d => base * n + d) 0
    .ok (if negative then -(n : Int) else n)

/-- The integer that a text denotes to the base ten. -/
def decimalInteger (s : List Char) : Except Fault Int :=
  match Integer.parse s with
  | .ok n => .ok n
  | .error .malformed => .error (.notInteger 10 (String.ofList s))
  | .error (.tooLong n) => .error (.longInteger n)

/-- The sign of a number, and the text after it. An empty text has none. -/
def numberSign : List Char → Except Fault (Bool × List Char)
  | [] => .error .emptyNumber
  | s => .ok (Integer.sign s)

/-- The integer that a text without underscores and sign denotes. -/
def naturalValue (s : List Char) : Except Fault Int :=
  match s with
  | [] => .error .emptyNumber
  | ['0'] => .ok 0
  | '0' :: 'b' :: r => radixInteger 2 r
  | '0' :: 'x' :: r => radixInteger 16 r
  | '0' :: _ => radixInteger 8 s
  | s =>
    if s.contains ':' then do
      let digits ← (splitOn ':' s).mapM decimalInteger
      .ok (digits.foldl (fun n d => 60 * n + d) 0)
    else decimalInteger s

/-- The integer that a text denotes. -/
def integerValue (text : List Char) : Except Fault Int := do
  let (negative, s) ← numberSign (text.filter (· != '_'))
  let n ← naturalValue s
  .ok (if negative then -n else n)

/-! ## Floating-point numbers -/

/-- The exponent that is all of `s`: none, or a mark, a sign and digits. -/
def exponent? (s : List Char) : Option Int :=
  match s with
  | [] => some 0
  | m :: r =>
    if m == 'e' || m == 'E' then
      let (negative, ds) := Integer.sign r
      match ds.mapM digitValue? with
      | none | some [] => none
      | some ds => some (if negative then -(Integer.ofDigits ds : Int) else Integer.ofDigits ds)
    else none

/-- The number that a text without sign denotes in decimal notation. -/
def unsignedDecimal? (negative : Bool) (s : List Char) : Option Binary64 := do
  let isDigit (c : Char) : Bool := (digitValue? c).isSome
  let whole := s.takeWhile isDigit
  let rest := s.drop whole.length
  let (part, rest) := match rest with
    | '.' :: r => (r.takeWhile isDigit, r.dropWhile isDigit)
    | r => ([], r)
  let e ← exponent? rest
  let ds := (whole ++ part).filterMap digitValue?
  if ds.isEmpty then none
  else some (Binary64.ofDecimal negative (Integer.ofDigits ds) (e - part.length))

/-- The number that a text denotes in decimal notation, or by the words for infinity and for no
    number. -/
def decimalFloat (s : List Char) : Except Fault Binary64 :=
  let (negative, body) := Integer.sign (withoutPadding s)
  let word := String.ofList (body.map Char.toLower)
  if word = "inf" ∨ word = "infinity" then .ok (.infinite negative)
  else if word = "nan" then .ok .nan
  else match unsignedDecimal? negative body with
    | some x => .ok x
    | none => .error (.notNumber (String.ofList s))

/-- The number that digits to the base sixty denote, the last digit first: each digit is weighted
    and added with rounding. The first weight is given, and none may be too large for a number. -/
def sexagesimal (weight : Nat) (sum : Binary64) : List Binary64 → Except Fault Binary64
  | [] => .ok sum
  | d :: ds =>
    match Binary64.ofInt weight with
    | .infinite _ => .error .placeValue
    | x => sexagesimal (weight * 60) (sum.add (d.mul x)) ds

/-- The floating-point number that a text denotes. -/
def floatValue (text : List Char) : Except Fault Binary64 := do
  let (negative, s) ← numberSign (lower (text.filter (· != '_')))
  let x ←
    if s = ".inf".toList then .ok (.infinite false)
    else if s = ".nan".toList then .ok .nan
    else if s.contains ':' then do
      let digits ← (splitOn ':' s).mapM decimalFloat
      sexagesimal 1 (.zero false) digits.reverse
    else decimalFloat s
  .ok (if negative then x.neg else x)

end Yaml

end SpringRoutes
