import SpringRoutes.Number.Binary64
import SpringRoutes.Time.Calendar

/-!
# `SpringRoutes.Time.Moment` — moments with an offset from universal time

## Contents
- `Moment`, `Moment.isValid`: a local date and time to the microsecond, with its offset.
- `Moment.micros`, `Moment.ofMicros`: the place of a moment on the universal time line.
- `Moment.secondsSince`: the age of a moment in whole seconds.
-/

namespace SpringRoutes

/-- A date, a time and the offset of that time from universal time, in microseconds. -/
structure Moment where
  year : Nat
  month : Nat
  day : Nat
  hour : Nat := 0
  minute : Nat := 0
  second : Nat := 0
  micro : Nat := 0
  offset : Int := 0
  deriving Repr, DecidableEq

namespace Moment

/-- The number of microseconds of a day. -/
def dayMicros : Int := 86400000000

/-- Whether date and time exist and the offset is less than a day. -/
def isValid (t : Moment) : Bool :=
  decide (1 ≤ t.year) && decide (t.year ≤ 9999) && decide (1 ≤ t.month) && decide (t.month ≤ 12)
    && decide (1 ≤ t.day) && decide (t.day ≤ Calendar.daysInMonth t.year t.month)
    && decide (t.hour < 24) && decide (t.minute < 60) && decide (t.second < 60)
    && decide (t.micro < 1000000) && decide (-dayMicros < t.offset) && decide (t.offset < dayMicros)

/-- Microseconds of universal time since the start of day zero of the calendar. -/
def micros (t : Moment) : Int :=
  (Calendar.ordinal t.year t.month t.day : Int) * dayMicros
    + ((t.hour * 3600 + t.minute * 60 + t.second : Nat) : Int) * 1000000 + t.micro - t.offset

/-- The moment of universal time at a number of microseconds. -/
def ofMicros (n : Int) : Moment :=
  let days := (n / dayMicros).toNat
  let rest := (n % dayMicros).toNat
  let (y, m, d) := Calendar.ofOrdinal days
  { year := y
    month := m
    day := d
    hour := rest / 3600000000
    minute := rest / 60000000 % 60
    second := rest / 1000000 % 60
    micro := rest % 1000000 }

/-- The moment of universal time so many microseconds later. -/
def shift (t : Moment) (n : Int) : Moment :=
  ofMicros (t.micros + n)

/-- The whole seconds from `t` to `now`, none when `t` is later. The seconds are counted in double
    precision and then cut off. -/
def secondsSince (now t : Moment) : Nat :=
  match Binary64.ofQuotient false (now.micros - t.micros).toNat 1000000 with
  | .finite _ m e => if 0 ≤ e then m * Nat.pow 2 e.toNat else m / Nat.pow 2 (-e).toNat
  | _ => 0

end Moment

end SpringRoutes
