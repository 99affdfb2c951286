import SpringRoutes.Text.Blank
import SpringRoutes.Text.Digit

/-!
# `SpringRoutes.Text.Integer` — integers as people write them

An integer may have blanks around it, a sign, single underscores between its digits, and digits of
any script; it has at most 4300 digits.

## Contents
- `Integer.parse`: the integer that a text denotes, or why it denotes none.
-/

namespace SpringRoutes

open Text

namespace Integer

/-- Why a text denotes no integer. -/
inductive Fault
  | malformed
  | tooLong (digits : Nat)
  deriving Repr, DecidableEq

/-- The greatest number of digits. -/
def maxDigits : Nat := 4300

/-- Whether `c` may surround an integer: white space other than the ASCII separators. -/
def isPadding (c : Char) : Bool :=
  isBlank c && !(decide (0x1c ≤ c.toNat) && decide (c.toNat ≤ 0x1f))

/-- The digits of a text that has at most one underscore between any two of them. -/
def digits? : List Char → Option (List Nat)
  | [] => none
  | c :: cs =>
    match digitValue? c with
    | none => none
    | some d =>
      match cs with
      | [] => some [d]
      | '_' :: r => (digits? r).map (d :: ·)
      | r => (digits? r).map (d :: ·)

/-- The sign at the start of a text, and the text after it. -/
def sign : List Char → Bool × List Char
  | '-' :: r => (true, r)
  | '+' :: r => (false, r)
  | s => (false, s)

/-- The number that decimal digits denote. -/
def ofDigits (ds : List Nat) : Nat :=
  ds.foldl (fun n d => 10 * n + d) 0

/-- The integer that a text denotes. -/
def parse (s : List Char) : Except Fault Int :=
  let core := ((s.dropWhile isPadding).reverse.dropWhile isPadding).reverse
  let (negative, body) := sign core
  match digits? body with
  | none => .error .malformed
  | some ds =>
    if maxDigits < ds.length then .error (.tooLong ds.length)
    else .ok (if negative then -(ofDigits ds : Int) else ofDigits ds)

/-- The integer that a text denotes, if it denotes one. -/
def parse? (s : String) : Option Int :=
  match parse s.toList with
  | .ok n => some n
  | .error _ => none

end Integer

end SpringRoutes
