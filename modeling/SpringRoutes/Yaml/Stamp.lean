import SpringRoutes.Time.Calendar
import SpringRoutes.Yaml.Fault

/-!
# `SpringRoutes.Yaml.Stamp` — dates and time stamps

## Contents
- `Yaml.StampParts`, `Yaml.stampParts?`: the numbers of a time stamp as written.
- `Yaml.StampParts.fault?`, `Yaml.checkStamp`: whether the date, the time and the offset exist.
-/

namespace SpringRoutes

namespace Yaml

/-- A text without the line break that may end it. -/
def withoutFinalBreak (s : List Char) : List Char :=
  if s.getLast? = some '\n' then s.dropLast else s

/-! ## The written form -/

/-- The parts of a time stamp. -/
structure StampParts where
  year : Nat
  month : Nat
  day : Nat
  /-- Hour, minute and second, when there is a time. -/
  time : Option (Nat × Nat × Nat) := none
  /-- Sign, hours and minutes of the offset, when there is one. -/
  offset : Option (Bool × Nat × Nat) := none
  /-- Whether month and day have two digits each. -/
  isPadded : Bool := true
  deriving Repr, DecidableEq

/-- A number of `least` to `most` digits at the start of a text: its digits and what follows. -/
def digitRun? (least most : Nat) (s : List Char) : Option (List Char × List Char) :=
  let ds := (s.take most).takeWhile Char.isDigit
  if ds.length < least then none else some (ds, s.drop ds.length)

/-- The number that digits denote. -/
def number (ds : List Char) : Nat :=
  ds.foldl (fun n d => 10 * n + (d.toNat - 48)) 0

/-- What follows the character `c`. -/
def after? (c : Char) : List Char → Option (List Char)
  | d :: r => if d == c then some r else none
  | [] => none

/-- An offset that is all of `s`; `Z` is universal time. -/
def stampOffset? (s : List Char) : Option (Option (Bool × Nat × Nat)) :=
  match s with
  | [] => some none
  | ['Z'] => some none
  | sign :: r =>
    if sign == '+' || sign == '-' then do
      let (h, r) ← digitRun? 1 2 r
      match r with
      | [] => some (some (sign == '-', number h, 0))
      | r => do
        let r ← after? ':' r
        let (m, r) ← digitRun? 2 2 r
        if r.isEmpty then some (some (sign == '-', number h, number m)) else none
    else none

/-- A time with an optional fraction and an optional offset that is all of `s`. -/
def stampTime? (s : List Char) : Option ((Nat × Nat × Nat) × Option (Bool × Nat × Nat)) := do
  let (h, r) ← digitRun? 1 2 s
  let r ← after? ':' r
  let (m, r) ← digitRun? 2 2 r
  let r ← after? ':' r
  let (sec, r) ← digitRun? 2 2 r
  let r := match r with
    | '.' :: t => t.dropWhile Char.isDigit
    | t => t
  let blanks := r.takeWhile fun c => c == ' ' || c == '\t'
  let rest := r.drop blanks.length
  if rest.isEmpty && !blanks.isEmpty then none
  else
    let offset ← stampOffset? rest
    some ((number h, number m, number sec), offset)

/-- The parts of a time stamp. -/
def stampParts? (s : List Char) : Option StampParts := do
  let (y, r) ← digitRun? 4 4 s
  let r ← after? '-' r
  let (m, r) ← digitRun? 1 2 r
  let r ← after? '-' r
  let (d, r) ← digitRun? 1 2 r
  let date : StampParts :=
    { year := number y, month := number m, day := number d
      isPadded := m.length == 2 && d.length == 2 }
  match r with
  | [] => some date
  | c :: t =>
    let t ←
      if c == 'T' || c == 't' then some t
      else if c == ' ' || c == '\t' then some (t.dropWhile fun c => c == ' ' || c == '\t')
      else none
    let (time, offset) ← stampTime? t
    some { date with time := some time, offset := offset }

/-! ## Existence -/

/-- The fault of an offset of a day or more. -/
def offsetFault? (negative : Bool) (hours minutes : Nat) : Option DateFault :=
  let seconds : Int := ((hours * 3600 + minutes * 60 : Nat) : Int)
  let signed := if negative then -seconds else seconds
  if 86400 ≤ seconds then some (.offset (signed / 86400) (signed % 86400).toNat) else none

/-- The first fault of a time stamp: its offset, then its date, then its time. -/
def StampParts.fault? (p : StampParts) : Option DateFault :=
  let offset := p.offset.bind fun o => offsetFault? o.1 o.2.1 o.2.2
  let (hour, minute, second) := p.time.getD (0, 0, 0)
  offset.or <|
    if p.year = 0 then some (.year p.year)
    else if p.month = 0 ∨ 12 < p.month then some .month
    else if p.day = 0 ∨ Calendar.daysInMonth p.year p.month < p.day then some .day
    else if 24 ≤ hour then some .hour
    else if 60 ≤ minute then some .minute
    else if 60 ≤ second then some .second
    else none

/-- Whether a text is a time stamp that exists. -/
def checkStamp (s : List Char) : Except Fault Unit :=
  match stampParts? (withoutFinalBreak s) with
  | none => .error .notStamp
  | some p =>
    match p.fault? with
    | some why => .error (.date why)
    | none => .ok ()

end Yaml

end SpringRoutes
