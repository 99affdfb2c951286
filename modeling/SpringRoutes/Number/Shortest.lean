import SpringRoutes.Number.Binary64

/-!
# `SpringRoutes.Number.Shortest` — the shortest decimal that reads back

## Contents
- `Binary64.shortest`: the decimal with the fewest digits that reads back as the number; of several
  the nearest one.
- `Binary64.text`: its text. Exponents of the leading digit from -4 to 15 are written positionally,
  and a whole number keeps one decimal place.
-/

namespace SpringRoutes

namespace Binary64

/-- A positive decimal: `digits * 10 ^ exponent`. -/
structure Decimal where
  digits : Nat
  exponent : Int
  deriving Repr, DecidableEq

/-- The value `m * 2 ^ e` as numerator and denominator. -/
def fraction (m : Nat) (e : Int) : Nat × Nat :=
  if 0 ≤ e then (m * Nat.pow 2 e.toNat, 1) else (m, Nat.pow 2 (-e).toNat)

/-- The fraction `num / den` divided by `10 ^ e`, as numerator and denominator. -/
def scaledTen (num den : Nat) (e : Int) : Nat × Nat :=
  if 0 ≤ e then (num, den * Nat.pow 10 e.toNat) else (num * Nat.pow 10 (-e).toNat, den)

/-- The exponent of the leading decimal digit of `num / den`. -/
def leadingExponent (num den : Nat) : Int :=
  let bits : Int := (num.log2 : Int) - den.log2
  let guess : Int := (bits * 30103).fdiv 100000
  let atLeast (e : Int) : Bool := let (n, d) := scaledTen num den e; decide (d ≤ n)
  if atLeast (guess + 1) then guess + 1
  else if atLeast guess then guess
  else guess - 1

/-- The better of the two neighbours of the value on the grid of `count` digits, when one of them
    reads back. -/
def onGrid? (m : Nat) (e : Int) (lead : Int) (count : Nat) : Option Decimal :=
  let (num, den) := fraction m e
  let step := lead - (count : Int) + 1
  let (n, d) := scaledTen num den step
  let below := n / d
  let readsBack (k : Nat) : Bool := ofDecimal false k step == .finite false m e
  match readsBack below, readsBack (below + 1) with
  | true, true => some ⟨roundDiv n d, step⟩
  | true, false => some ⟨below, step⟩
  | false, true => some ⟨below + 1, step⟩
  | false, false => none

/-- The decimal with the fewest digits that reads back as `m * 2 ^ e`. -/
def shortest (m : Nat) (e : Int) : Decimal :=
  let (num, den) := fraction m e
  let lead := leadingExponent num den
  ((List.range 17).findSome? fun k => onGrid? m e lead (k + 1)).getD ⟨m, e⟩

/-- The digits of a decimal without zeros at the end, and the exponent of the first one. -/
def Decimal.leading (d : Decimal) : List Char × Int :=
  let ds := Nat.toDigits 10 d.digits
  (((ds.reverse.dropWhile (· == '0')).reverse), d.exponent + (ds.length : Int) - 1)

/-- An exponent with its sign and at least two digits. -/
def exponentText (e : Int) : List Char :=
  let ds := Nat.toDigits 10 e.natAbs
  (if e < 0 then '-' else '+') :: (if ds.length < 2 then '0' :: ds else ds)

/-- The text of `0.d₁d₂… * 10 ^ (lead + 1)`. -/
def layout (ds : List Char) (lead : Int) : List Char :=
  if -4 ≤ lead ∧ lead < 16 then
    if lead < 0 then
      ['0', '.'] ++ List.replicate (-lead - 1).toNat '0' ++ ds
    else
      let whole := lead.toNat + 1
      let padded := ds ++ List.replicate (whole - ds.length) '0'
      let rest := padded.drop whole
      padded.take whole ++ '.' :: (if rest.isEmpty then ['0'] else rest)
  else
    let tail := ds.drop 1
    ds.take 1 ++ (if tail.isEmpty then [] else '.' :: tail) ++ 'e' :: exponentText lead

/-- The text of a finite number without its sign. -/
def finiteText (m : Nat) (e : Int) : List Char :=
  if m = 0 then ['0', '.', '0']
  else
    let (ds, lead) := (shortest m e).leading
    layout ds lead

/-- The text of a number, given the words for infinity and for what is not a number. -/
def textWith (infinity notANumber : String) : Binary64 → String
  | .nan => notANumber
  | .infinite s => (if s then "-" else "") ++ infinity
  | .finite s m e => (if s then "-" else "") ++ String.ofList (finiteText m e)

/-- The plain text of a number. -/
def text : Binary64 → String :=
  textWith "inf" "nan"

end Binary64

end SpringRoutes
