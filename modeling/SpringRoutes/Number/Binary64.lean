/-!
# `SpringRoutes.Number.Binary64` — double-precision numbers by exact arithmetic

A finite number is a sign, a mantissa below `2^53` and a binary exponent; every operation works on
natural numbers and rounds once, to nearest with ties to even.

## Contents
- `Binary64.ofQuotient`, `Binary64.ofDecimal`: the nearest double of a fraction or a decimal.
- `Binary64.add`, `Binary64.mul`: rounded sums and products.
- `Binary64.toInt?`: the value as an integer, when it is one.
-/

namespace SpringRoutes

/-- A double-precision number. A finite one has the value `mantissa * 2 ^ exponent`. -/
inductive Binary64
  | nan
  | infinite (negative : Bool)
  | finite (negative : Bool) (mantissa : Nat) (exponent : Int)
  deriving Repr, DecidableEq

namespace Binary64

/-- The least binary exponent. -/
def minExponent : Int := -1074

/-- The greatest binary exponent of a finite number. -/
def maxExponent : Int := 971

/-- Zero with a sign. -/
def zero (negative : Bool) : Binary64 :=
  .finite negative 0 minExponent

/-- `num / den` rounded to the nearest integer, a tie to the even one. -/
def roundDiv (num den : Nat) : Nat :=
  let q := num / den
  let r := num % den
  if 2 * r < den then q
  else if den < 2 * r then q + 1
  else if q % 2 = 0 then q else q + 1

/-- The fraction `num / den` divided by `2 ^ e`, as numerator and denominator. -/
def scaled (num den : Nat) (e : Int) : Nat × Nat :=
  if 0 ≤ e then (num, den * Nat.pow 2 e.toNat) else (num * Nat.pow 2 (-e).toNat, den)

/-- The double with this mantissa and exponent, where the mantissa may be `2 ^ 53` after rounding
    and the exponent too large. -/
def pack (negative : Bool) (mantissa : Nat) (exponent : Int) : Binary64 :=
  let (m, e) :=
    if mantissa = Nat.pow 2 53 then (Nat.pow 2 52, exponent + 1) else (mantissa, exponent)
  if maxExponent < e then .infinite negative else .finite negative m e

/-- The double nearest to `num / den`. -/
def ofQuotient (negative : Bool) (num den : Nat) : Binary64 :=
  if num = 0 then zero negative
  else
    let guess : Int := max ((num.log2 : Int) - den.log2 - 53) minExponent
    let (n, d) := scaled num den guess
    if n / d < Nat.pow 2 53 then pack negative (roundDiv n d) guess
    else
      let (n, d) := scaled num den (guess + 1)
      pack negative (roundDiv n d) (guess + 1)

/-- The double nearest to `digits * 10 ^ exponent`. Exponents beyond all doubles are decided by the
    number of digits alone. -/
def ofDecimal (negative : Bool) (digits : Nat) (exponent : Int) : Binary64 :=
  if digits = 0 then zero negative
  else
    let size : Int := (Nat.toDigits 10 digits).length
    if 310 < size + exponent then .infinite negative
    else if size + exponent < -330 then zero negative
    else if 0 ≤ exponent then ofQuotient negative (digits * Nat.pow 10 exponent.toNat) 1
    else ofQuotient negative digits (Nat.pow 10 (-exponent).toNat)

/-- The double nearest to an integer. -/
def ofInt (n : Int) : Binary64 :=
  ofQuotient (n < 0) n.natAbs 1

/-- The number with the other sign. -/
def neg : Binary64 → Binary64
  | .nan => .nan
  | .infinite s => .infinite (!s)
  | .finite s m e => .finite (!s) m e

/-- The double nearest to `n * 2 ^ e`; a zero gets the sign given. -/
def ofDyadic (n : Int) (e : Int) (zeroSign : Bool) : Binary64 :=
  if n = 0 then zero zeroSign
  else if 0 ≤ e then ofQuotient (n < 0) (n.natAbs * Nat.pow 2 e.toNat) 1
  else ofQuotient (n < 0) n.natAbs (Nat.pow 2 (-e).toNat)

/-- The signed mantissa. -/
def signed (negative : Bool) (m : Nat) : Int :=
  if negative then -(m : Int) else m

/-- The rounded sum. -/
def add : Binary64 → Binary64 → Binary64
  | .nan, _ => .nan
  | _, .nan => .nan
  | .infinite s, .infinite t => if s = t then .infinite s else .nan
  | .infinite s, _ => .infinite s
  | _, .infinite t => .infinite t
  | .finite s m e, .finite t n f =>
    let low := min e f
    let left := signed s (m * Nat.pow 2 (e - low).toNat)
    let right := signed t (n * Nat.pow 2 (f - low).toNat)
    ofDyadic (left + right) low (s && t)

/-- The rounded product. -/
def mul : Binary64 → Binary64 → Binary64
  | .nan, _ => .nan
  | _, .nan => .nan
  | .infinite s, .infinite t => .infinite (s != t)
  | .infinite s, .finite t n _ => if n = 0 then .nan else .infinite (s != t)
  | .finite s m _, .infinite t => if m = 0 then .nan else .infinite (s != t)
  | .finite s m e, .finite t n f => ofDyadic (signed s m * signed t n) (e + f) (s != t)

/-- The value as an integer, when it is one. -/
def toInt? : Binary64 → Option Int
  | .finite s m e =>
    if 0 ≤ e then some (signed s (m * Nat.pow 2 e.toNat))
    else if m % Nat.pow 2 (-e).toNat = 0 then some (signed s (m / Nat.pow 2 (-e).toNat))
    else none
  | _ => none

end Binary64

end SpringRoutes
