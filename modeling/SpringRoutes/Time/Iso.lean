import SpringRoutes.Text.Search
import SpringRoutes.Time.Moment

/-!
# `SpringRoutes.Time.Iso` — time stamps

Time stamps are read in the basic and the extended form, with calendar or week dates, and written
in the extended form; `Z` stands for a zero offset.

## Contents
- `Moment.text`: the written form of a moment.
- `Iso.date?`: the date at the start of a time stamp.
- `Iso.clock?`: hours, minutes, seconds and a fraction, used for times and for offsets.
- `Moment.parse?`: the moment that a time stamp denotes.
-/

namespace SpringRoutes

open Text

namespace Iso

/-! ## Writing -/

/-- The decimal digits of `n`, filled up with zeros to the given width. -/
def padded (width n : Nat) : List Char :=
  let ds := Nat.toDigits 10 n
  List.replicate (width - ds.length) '0' ++ ds

/-- A fraction of a second; nothing when it is zero. -/
def fractionText (micro : Nat) : List Char :=
  if micro = 0 then [] else '.' :: padded 6 micro

/-- An offset. Seconds and their fraction are written only where they count, and a zero offset of
    hours and minutes is `Z`. -/
def offsetText (offset : Int) : List Char :=
  let n := offset.natAbs
  let seconds := n / 1000000
  let hm := padded 2 (seconds / 3600) ++ ':' :: padded 2 (seconds / 60 % 60)
  let head := if 0 ≤ offset ∧ seconds / 60 = 0 then ['Z']
    else (if offset < 0 then '-' else '+') :: hm
  let s := seconds % 60
  let tail :=
    if s = 0 ∧ n % 1000000 = 0 then [] else ':' :: padded 2 s ++ fractionText (n % 1000000)
  head ++ tail

/-! ## Digits and dates -/

/-- A number of exactly `count` ASCII digits at the start of `s`. -/
def digits? (count : Nat) (s : List Char) : Option (Nat × List Char) :=
  let ds := s.take count
  if ds.length = count ∧ ds.all Char.isDigit then
    some (ds.foldl (fun n d => 10 * n + (d.toNat - 48)) 0, s.drop count)
  else none

/-- Where the date ends and the separator stands. A week date in extended form whose third hyphen
    is followed by two digits ends before that hyphen. -/
def dateEnd? (s : List Char) : Option Nat :=
  let at? (i : Nat) : Option Char := s[i]?
  let isDigitAt (i : Nat) : Bool := (at? i).any Char.isDigit
  if s.length < 7 then none
  else if s.length = 7 then some 7
  else if at? 4 = some '-' then
    if at? 5 = some 'W' then
      if at? 8 = some '-' then
        if s.length = 9 then none
        else if isDigitAt 10 then some 8 else some 10
      else some 8
    else some 10
  else if at? 4 = some 'W' then
    let run := 7 + ((s.drop 7).takeWhile Char.isDigit).length
    if run < 9 then some run
    else if run % 2 = 0 then some 7 else some 8
  else some 8

/-- The year, month and day of a calendar date or a week date that is all of `s`. -/
def date? (s : List Char) : Option (Nat × Nat × Nat) := do
  let (year, r) ← digits? 4 s
  let (hyphen, r) := match r with
    | '-' :: r => (true, r)
    | r => (false, r)
  match r with
  | 'W' :: r =>
    let (week, r) ← digits? 2 r
    let day ← match r with
      | [] => some 1
      | r => do
        let r ← if hyphen then afterLiteral ['-'] r else some r
        let (day, _) ← digits? 1 r
        some day
    let k ← Calendar.ofWeekDate? year week day
    some (Calendar.ofOrdinal k)
  | r =>
    let (month, r) ← digits? 2 r
    let r ← if hyphen then afterLiteral ['-'] r else some r
    let (day, r) ← digits? 2 r
    if r.isEmpty then some (year, month, day) else none

/-! ## Clock times -/

/-- Hours, minutes, seconds and microseconds. -/
structure Clock where
  hour : Nat := 0
  minute : Nat := 0
  second : Nat := 0
  micro : Nat := 0
  deriving Repr, DecidableEq

/-- The character at the start of `s`; the end of the text counts as the character zero. -/
def headOrNul (s : List Char) : Char :=
  s.headD '\x00'

/-- A fraction of a second that fills the remaining `room`; digits after the sixth are dropped. The
    flag says whether something follows. -/
def fraction? (room : Nat) (s : List Char) : Option (Nat × Bool) := do
  let count := min room 6
  let (n, r) ← digits? count s
  let r := r.dropWhile Char.isDigit
  some (n * Nat.pow 10 (6 - count), headOrNul r ≠ '\x00')

/-- A two-digit field of a clock time after those of `done`, where `room` characters are left for
    the whole time and `colon` says whether fields are set apart by colons. After the seconds a
    fraction may follow a point, a comma, a colon, or nothing when there are no colons. The flag of
    the result says whether something follows. -/
def fields? (colon : Option Bool) :
    Nat → List Nat → Nat → List Char → Option (List Nat × Nat × Bool)
  | 0, done, room, s => (fraction? room s).map fun f => (done, f.1, f.2)
  | left + 1, done, room, s => do
    let (n, r) ← digits? 2 s
    let done := done ++ [n]
    let c := headOrNul r
    let colon := colon.getD (c = ':')
    if room ≤ 3 then some (done, 0, c ≠ '\x00')
    else if colon && c = ':' then fields? (some colon) left done (room - 3) (r.drop 1)
    else if c = '.' ∨ c = ',' then
      (fraction? (room - 3) (r.drop 1)).map fun f => (done, f.1, f.2)
    else if colon then none
    else fields? (some colon) left done (room - 2) r

/-- The clock time in the first `room` characters of `s`, and whether something follows it. -/
def clock? (room : Nat) (s : List Char) : Option (Clock × Bool) :=
  (fields? none 3 [] room s).map fun (fs, micro, more) =>
    (⟨fs.getD 0 0, fs.getD 1 0, fs.getD 2 0, micro⟩, more)

/-- The microseconds of an offset; a whole number of seconds that is zero is no offset at all. -/
def offsetMicros (negative : Bool) (c : Clock) : Int :=
  let seconds : Nat := c.hour * 3600 + c.minute * 60 + c.second
  if seconds = 0 then 0
  else
    let n : Int := (seconds : Int) * 1000000 + c.micro
    if negative then -n else n

/-- The time after the separator, and its offset. -/
def timeOffset? (s : List Char) : Option (Clock × Int) :=
  let room := (s.takeWhile fun c => c ≠ '+' ∧ c ≠ '-').length
  match s with
  | [] => none
  | _ =>
    match clock? room s, s.drop room with
    | none, _ => none
    | some (c, more), [] => if more then none else some (c, 0)
    | some (c, _), sign :: zone =>
      match clock? zone.length zone with
      | some (o, false) => some (c, offsetMicros (sign == '-') o)
      | _ => none

/-- The text with every character as often as it has bytes in UTF-8. Widths are counted in bytes,
    and no character of several bytes has a place in a time stamp but that of the separator. -/
def byteWise (s : List Char) : List Char :=
  s.flatMap fun c => List.replicate c.utf8Size c

/-- The moment that a text without the letter `Z` denotes. -/
def moment? (text : List Char) : Option Moment := do
  let s := byteWise text
  let stop ← dateEnd? s
  let (year, month, day) ← date? (s.take stop)
  let (c, offset) ← match s.drop stop with
    | [] => some ({}, 0)
    | separator :: time => timeOffset? (time.drop (separator.utf8Size - 1))
  let t : Moment := ⟨year, month, day, c.hour, c.minute, c.second, c.micro, offset⟩
  if t.isValid then some t else none

/-- Every `Z` written out as a zero offset. -/
def expandZulu (s : List Char) : List Char :=
  s.flatMap fun c => if c = 'Z' then ['+', '0', '0', ':', '0', '0'] else [c]

end Iso

namespace Moment

/-- The written form of a moment. -/
def text (t : Moment) : String :=
  String.ofList (Iso.padded 4 t.year ++ '-' :: Iso.padded 2 t.month ++ '-' :: Iso.padded 2 t.day
    ++ 'T' :: Iso.padded 2 t.hour ++ ':' :: Iso.padded 2 t.minute ++ ':' :: Iso.padded 2 t.second
    ++ Iso.fractionText t.micro ++ Iso.offsetText t.offset)

/-- The moment that a time stamp denotes; without an offset it is one of universal time. -/
def parse? (s : String) : Option Moment :=
  Iso.moment? (Iso.expandZulu s.toList)

end Moment

end SpringRoutes
