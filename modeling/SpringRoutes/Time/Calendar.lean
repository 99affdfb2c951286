/-!
# `SpringRoutes.Time.Calendar` — days of the Gregorian calendar

The calendar is extended to all years from 1 on. Days are numbered from the first of January of the
year 1, which is day 1 and a Monday.

## Contents
- `Calendar.isLeap`, `Calendar.daysInMonth`: the lengths of years and months.
- `Calendar.ordinal`, `Calendar.ofOrdinal`: the number of a day, and the day of a number.
- `Calendar.ofWeekDate?`: the day that a year, a week of it and a weekday name.
-/

namespace SpringRoutes

namespace Calendar

/-- Whether a year has 366 days. -/
def isLeap (y : Nat) : Bool :=
  y % 4 == 0 && (y % 100 != 0 || y % 400 == 0)

/-- The number of days of a month. -/
def daysInMonth (y m : Nat) : Nat :=
  if m = 2 then (if isLeap y then 29 else 28)
  else if m = 4 ∨ m = 6 ∨ m = 9 ∨ m = 11 then 30
  else 31

/-- The number of days before the first of January of a year. -/
def daysBeforeYear (y : Nat) : Nat :=
  let n := y - 1
  n * 365 + n / 4 - n / 100 + n / 400

/-- The number of days of a year before a month. -/
def daysBeforeMonth (y : Nat) : Nat → Nat
  | 0 => 0
  | 1 => 0
  | m + 1 => daysBeforeMonth y m + daysInMonth y m

/-- The number of a day. -/
def ordinal (y m d : Nat) : Nat :=
  daysBeforeYear y + daysBeforeMonth y m + d

/-- The month and day of the `n`-th day of a year, counted from zero, looked for from the month `m`
    on, with at most `fuel` months to go. -/
def monthDay (y : Nat) : Nat → Nat → Nat → Nat × Nat
  | 0, m, n => (m, n + 1)
  | fuel + 1, m, n =>
    if n < daysInMonth y m then (m, n + 1) else monthDay y fuel (m + 1) (n - daysInMonth y m)

/-- The year, month and day of a number. -/
def ofOrdinal (k : Nat) : Nat × Nat × Nat :=
  let n := k - 1
  let n400 := n / 146097
  let n := n % 146097
  let n100 := n / 36524
  let n := n % 36524
  let n4 := n / 1461
  let n := n % 1461
  let n1 := n / 365
  let n := n % 365
  let y := n400 * 400 + n100 * 100 + n4 * 4 + n1 + 1
  if n1 = 4 ∨ n100 = 4 then (y - 1, 12, 31)
  else
    let (m, d) := monthDay y 11 1 n
    (y, m, d)

/-- The weekday of a numbered day; Monday is zero. -/
def weekday (k : Nat) : Nat :=
  (k + 6) % 7

/-- The number of the Monday of the first week of a year: the week of its first Thursday. The first
    week may start in the year before. -/
def firstMonday (y : Nat) : Int :=
  let first := ordinal y 1 1
  let w := weekday first
  if 3 < w then (first : Int) - w + 7 else (first : Int) - w

/-- Whether a year has a week 53. -/
def hasLongYear (y : Nat) : Bool :=
  let w := weekday (ordinal y 1 1)
  w == 3 || (w == 2 && isLeap y)

/-- The number of the day that a year, a week of it and a weekday from one to seven name. -/
def ofWeekDate? (y week day : Nat) : Option Nat :=
  if 1 ≤ y ∧ 1 ≤ week ∧ (week ≤ 52 ∨ (week = 53 ∧ hasLongYear y)) ∧ 1 ≤ day ∧ day ≤ 7 then
    let k := firstMonday y + ((week : Int) - 1) * 7 + day - 1
    if 1 ≤ k then some k.toNat else none
  else none

end Calendar

end SpringRoutes
