import Mathlib.Algebra.Group.Nat.Defs
import SpringRoutes.Time.Iso

/-!
# `SpringRoutes.Proofs.TimeStamps` — written moments are read back

Time stamps are read in many forms and written in one. A moment of the clock, or one that was read
from any time stamp, is written in such a way that reading gives the same moment: date, time,
fraction and offset (`Moment.text_survives`). So writing what was read gives a normal form of the time
stamp (`Moment.normalText?`), which is its own normal form.

The letter `Z` needs care, since it is written for the hours and minutes of an offset and not for the
whole of it: an offset of half a minute is `Z:30`. Reading writes every `Z` out first, wherever it
stands. What is then left of a written moment is a date, a time, a sign and the time of the offset
(`Moment.expandZulu_text`), and the parts are read back one by one: digits of a fixed width
(`Iso.digits?_padded`), clock times (`Iso.clock?_clockText`), offsets (`Iso.timeOffset?_text`) and
dates (`Iso.date?_dateText`).

Not every moment is read back: an offset below a second is taken for none. Neither the clock nor a
time stamp gives one (`Iso.IsOffset`, `Moment.of_parse?`).
-/

namespace SpringRoutes

open Text

namespace Iso

/-! ## Digits -/

theorem isDigit_padded {width n : Nat} {c : Char} (hc : c ∈ padded width n) :
    c.isDigit = true := by
  rcases List.mem_append.mp hc with hzero | hdigit
  · rw [List.eq_of_mem_replicate hzero]
    rfl
  · exact Nat.isDigit_of_mem_toDigits (by decide) (by decide) hdigit

theorem length_padded {width n : Nat} (hwidth : 0 < width) (h : n < 10 ^ width) :
    (padded width n).length = width := by
  have hlength : (Nat.toDigits 10 n).length ≤ width :=
    (Nat.length_toDigits_le_iff (by decide) hwidth).mpr h
  simp only [padded, List.length_append, List.length_replicate]
  omega

/-- Zeros in front do not count. -/
theorem foldl_replicate_zero (k : Nat) :
    (List.replicate k '0').foldl (fun n d => 10 * n + (d.toNat - 48)) 0 = 0 := by
  induction k with
  | zero => rfl
  | succ k ih => exact ih

/-- **A number in a field of fixed width is read back.** -/
theorem digits?_padded {width n : Nat} (hwidth : 0 < width) (h : n < 10 ^ width)
    (r : List Char) : digits? width (padded width n ++ r) = some (n, r) := by
  have hlength := length_padded hwidth h
  have htake : (padded width n ++ r).take width = padded width n := List.take_left' hlength
  have hdrop : (padded width n ++ r).drop width = r := List.drop_left' hlength
  have hvalue : (padded width n).foldl (fun n d => 10 * n + (d.toNat - 48)) 0 = n := by
    rw [padded, List.foldl_append, foldl_replicate_zero]
    exact Nat.ofDigitChars_ten_toDigits
  unfold digits?
  simp only [htake, hdrop, hvalue]
  rw [if_pos ⟨hlength, List.all_eq_true.mpr fun c hc => isDigit_padded hc⟩]

theorem length_two {n : Nat} (h : n < 100) : (padded 2 n).length = 2 :=
  length_padded (by decide) h

theorem digits?_two {n : Nat} (h : n < 100) (r : List Char) :
    digits? 2 (padded 2 n ++ r) = some (n, r) :=
  digits?_padded (by decide) h r

/-! ## Clock times -/

/-- Hours, minutes and seconds have two digits, and the fraction has six. -/
structure Clock.Fits (c : Clock) : Prop where
  hour : c.hour < 100
  minute : c.minute < 100
  second : c.second < 100
  micro : c.micro < 1000000

/-- A clock time as it is written. -/
def clockText (c : Clock) : List Char :=
  padded 2 c.hour ++ ':' :: (padded 2 c.minute ++ ':' :: (padded 2 c.second ++ fractionText c.micro))

/-- What follows does not go on with a digit. -/
def Ends (r : List Char) : Prop :=
  ∀ c ∈ r.head?, c.isDigit = false

section Fields

-- The room counts down with what is read: what is left of it says whether another field can follow,
-- so each of these lemmas is about the room that there is at its place.

variable {n left room : Nat} {done : List Nat} {r : List Char} (hn : n < 100)

include hn

/-- A field before a colon. -/
theorem fields?_colon (colon : Option Bool) (hcolon : colon.getD true = true) :
    fields? colon (left + 1) done (room + 4) (padded 2 n ++ ':' :: r)
      = fields? (some true) left (done ++ [n]) (room + 1) r := by
  have hgetD : colon.getD (decide (headOrNul (':' :: r) = ':')) = true := by
    cases colon with
    | none => rfl
    | some b => exact hcolon
  have hroom : ¬ room + 4 ≤ 3 := by omega
  rw [fields?, digits?_two hn]
  simp only [Option.bind_eq_bind, Option.bind_some, hgetD]
  rw [if_neg hroom]
  rfl

/-- The field at the end. -/
theorem fields?_last {colon : Option Bool} :
    fields? colon (left + 1) done 2 (padded 2 n ++ r)
      = some (done ++ [n], 0, decide (headOrNul r ≠ '\x00')) := by
  rw [fields?, digits?_two hn]
  rfl

/-- The seconds before a fraction. -/
theorem fields?_point :
    fields? (some true) (left + 1) done 9 (padded 2 n ++ '.' :: r)
      = (fraction? 6 r).map fun f => (done ++ [n], f.1, f.2) := by
  rw [fields?, digits?_two hn]
  rfl

end Fields

theorem fraction?_padded {micro : Nat} (h : micro < 1000000) {r : List Char} (hr : Ends r) :
    fraction? 6 (padded 6 micro ++ r) = some (micro, decide (headOrNul r ≠ '\x00')) := by
  have hstop : r.dropWhile Char.isDigit = r := dropWhile_of_head? hr
  have hdigits : digits? 6 (padded 6 micro ++ r) = some (micro, r) := digits?_padded (by decide) h r
  simp [fraction?, hdigits, hstop]

theorem length_fractionText {micro : Nat} (h : micro < 1000000) :
    (fractionText micro).length = if micro = 0 then 0 else 7 := by
  unfold fractionText
  split
  · rfl
  · rw [List.length_cons, length_padded (by decide) h]

theorem length_clockText {c : Clock} (h : c.Fits) :
    (clockText c).length = if c.micro = 0 then 8 else 15 := by
  simp only [clockText, List.length_append, List.length_cons, length_fractionText h.micro,
    length_two h.hour, length_two h.minute, length_two h.second]
  split <;> rfl

theorem fields?_clockText {c : Clock} (h : c.Fits) {r : List Char} (hr : Ends r) :
    fields? none 3 [] (clockText c).length (clockText c ++ r)
      = some ([c.hour, c.minute, c.second], c.micro, decide (headOrNul r ≠ '\x00')) := by
  rw [length_clockText h, clockText, fractionText]
  simp only [List.append_assoc, List.cons_append]
  by_cases hmicro : c.micro = 0
  · rw [if_pos hmicro, if_pos hmicro, List.nil_append, fields?_colon h.hour none rfl,
      fields?_colon h.minute (some true) rfl, fields?_last h.second, hmicro]
    rfl
  · rw [if_neg hmicro, if_neg hmicro, List.cons_append, fields?_colon h.hour none rfl,
      fields?_colon h.minute (some true) rfl, fields?_point h.second, fraction?_padded h.micro hr]
    rfl

/-- **A clock time is read back**, whatever follows it. -/
theorem clock?_clockText {c : Clock} (h : c.Fits) {r : List Char} (hr : Ends r) :
    clock? (clockText c).length (clockText c ++ r)
      = some (c, decide (headOrNul r ≠ '\x00')) := by
  rw [clock?, fields?_clockText h hr]
  rfl

/-! ## Offsets -/

/-- The clock time that an offset amounts to. -/
def offsetClock (offset : Int) : Clock :=
  let n := offset.natAbs
  ⟨n / 1000000 / 3600, n / 1000000 / 60 % 60, n / 1000000 % 60, n % 1000000⟩

/-- The sign of an offset. -/
def signOf (offset : Int) : Char :=
  if offset < 0 then '-' else '+'

/-- Hours and minutes of an offset as they are written. -/
def minutesText (c : Clock) : List Char :=
  padded 2 c.hour ++ ':' :: padded 2 c.minute

/-- Seconds of an offset and their fraction as they are written, where they count. -/
def secondsText (c : Clock) : List Char :=
  if c.second = 0 ∧ c.micro = 0 then [] else ':' :: padded 2 c.second ++ fractionText c.micro

/-- The clock time of an offset as it is written, with all its zeros. -/
def zoneText (c : Clock) : List Char :=
  minutesText c ++ secondsText c

theorem fits_offsetClock {offset : Int} (h : offset.natAbs < 86400000000) :
    (offsetClock offset).Fits where
  hour := by dsimp only [offsetClock]; omega
  minute := by dsimp only [offsetClock]; omega
  second := by dsimp only [offsetClock]; omega
  micro := by dsimp only [offsetClock]; omega

theorem clock?_zoneText {c : Clock} (h : c.Fits) :
    clock? (zoneText c).length (zoneText c) = some (c, false) := by
  -- without seconds the text ends after the minutes; otherwise it is that of a clock time
  by_cases hshort : c.second = 0 ∧ c.micro = 0
  · obtain ⟨hour, minute, second, micro⟩ := c
    obtain ⟨rfl, rfl⟩ : second = 0 ∧ micro = 0 := hshort
    have htext : zoneText ⟨hour, minute, 0, 0⟩
        = padded 2 hour ++ ':' :: (padded 2 minute ++ []) := by
      simp [zoneText, minutesText, secondsText]
    have hlength : (padded 2 hour ++ ':' :: (padded 2 minute ++ [])).length = 5 := by
      rw [List.append_nil, List.length_append, List.length_cons, length_two h.hour,
        length_two h.minute]
    rw [clock?, htext, hlength, fields?_colon h.hour none rfl, fields?_last h.minute]
    rfl
  · have htext : zoneText c = clockText c := by
      rw [zoneText, minutesText, secondsText, if_neg hshort, clockText]
      simp
    have hclock := clock?_clockText h (r := []) nofun
    rw [List.append_nil] at hclock
    rw [htext]
    exact hclock

/-- An offset is zero, or at least a second. -/
def IsOffset (offset : Int) : Prop :=
  offset = 0 ∨ 1000000 ≤ offset.natAbs

/-- An offset is what its clock time amounts to, with the sign. -/
theorem offsetMicros_offsetClock {offset : Int} (h : IsOffset offset) :
    offsetMicros (signOf offset == '-') (offsetClock offset) = offset := by
  have hsign : (signOf offset == '-') = decide (offset < 0) := by
    unfold signOf
    by_cases hneg : offset < 0
    · rw [if_pos hneg, decide_eq_true hneg]
      rfl
    · rw [if_neg hneg, decide_eq_false hneg]
      rfl
  have hseconds : offset.natAbs / 1000000 / 3600 * 3600 + offset.natAbs / 1000000 / 60 % 60 * 60
      + offset.natAbs / 1000000 % 60 = offset.natAbs / 1000000 := by omega
  -- an offset below a second would be taken for none here
  unfold IsOffset at h
  simp only [offsetMicros, offsetClock, hsign, hseconds, decide_eq_true_eq]
  split
  · omega
  · split <;> omega

/-! ## Characters of written moments -/

/-- Whether a character stands in clock times. -/
def isClockChar (c : Char) : Bool :=
  c.isDigit || c == ':' || c == '.'

theorem isClockChar_iff {c : Char} :
    isClockChar c = true ↔ c.isDigit = true ∨ c = ':' ∨ c = '.' := by
  simp [isClockChar, or_assoc]

theorem utf8Size_of_isDigit {c : Char} (h : c.isDigit = true) : c.utf8Size = 1 := by
  have hle : c.val ≤ '9'.val := of_decide_eq_true (Bool.and_eq_true_iff.mp h).2
  exact Char.utf8Size_eq_one_iff.mpr (UInt32.le_trans hle (by decide))

theorem utf8Size_of_isClockChar {c : Char} (h : isClockChar c = true) : c.utf8Size = 1 := by
  rcases isClockChar_iff.mp h with hdigit | rfl | rfl
  · exact utf8Size_of_isDigit hdigit
  · rfl
  · rfl

/-- A text of digits, colons and points. -/
def IsClockText (s : List Char) : Prop :=
  ∀ c ∈ s, isClockChar c = true

theorem IsClockText.append {s t : List Char} (hs : IsClockText s) (ht : IsClockText t) :
    IsClockText (s ++ t) :=
  List.forall_mem_append.mpr ⟨hs, ht⟩

theorem isClockText_padded (width n : Nat) : IsClockText (padded width n) :=
  fun _ hc => isClockChar_iff.mpr (.inl (isDigit_padded hc))

theorem IsClockText.colon {s : List Char} (h : IsClockText s) : IsClockText (':' :: s) :=
  List.forall_mem_cons.mpr ⟨rfl, h⟩

theorem isClockText_fractionText (micro : Nat) : IsClockText (fractionText micro) := by
  unfold fractionText
  split
  · exact nofun
  · exact List.forall_mem_cons.mpr ⟨rfl, isClockText_padded 6 micro⟩

theorem isClockText_clockText (c : Clock) : IsClockText (clockText c) :=
  (isClockText_padded _ _).append ((isClockText_padded _ _).append
    ((isClockText_padded _ _).append (isClockText_fractionText _)).colon).colon

theorem isClockText_minutesText (c : Clock) : IsClockText (minutesText c) :=
  (isClockText_padded _ _).append (isClockText_padded _ _).colon

theorem isClockText_secondsText (c : Clock) : IsClockText (secondsText c) := by
  unfold secondsText
  split
  · exact nofun
  · exact (isClockText_padded _ _).colon.append (isClockText_fractionText _)

/-! ## Writing `Z` out -/

theorem expandZulu_append (s t : List Char) : expandZulu (s ++ t) = expandZulu s ++ expandZulu t :=
  List.flatMap_append

theorem expandZulu_of_not_mem {s : List Char} (h : 'Z' ∉ s) : expandZulu s = s := by
  induction s with
  | nil => rfl
  | cons c s ih =>
    rw [List.mem_cons, not_or] at h
    rw [expandZulu, List.flatMap_cons, if_neg (Ne.symm h.1)]
    exact congrArg (c :: ·) (ih h.2)

theorem byteWise_of_forall {s : List Char} (h : ∀ c ∈ s, c.utf8Size = 1) : byteWise s = s := by
  induction s with
  | nil => rfl
  | cons c s ih =>
    obtain ⟨hc, hs⟩ := List.forall_mem_cons.mp h
    rw [byteWise, List.flatMap_cons, hc]
    exact congrArg (c :: ·) (ih hs)

theorem expandZulu_of_isClockText {s : List Char} (h : IsClockText s) : expandZulu s = s :=
  expandZulu_of_not_mem fun hmem => absurd (h _ hmem) (by decide)

/-- The letter `Z` stands for a sign, hours and minutes only; seconds may follow it. -/
theorem offsetText_eq (offset : Int) :
    offsetText offset =
      (if 0 ≤ offset ∧ offset.natAbs / 1000000 / 60 = 0 then ['Z']
        else signOf offset :: minutesText (offsetClock offset)) ++ secondsText (offsetClock offset) :=
  rfl

/-- **What is written is the sign and the clock time**, once `Z` is written out. -/
theorem expandZulu_offsetText (offset : Int) :
    expandZulu (offsetText offset) = signOf offset :: zoneText (offsetClock offset) := by
  rw [offsetText_eq, expandZulu_append, expandZulu_of_isClockText (isClockText_secondsText _), zoneText]
  split
  · next hzero =>
    have hsign : signOf offset = '+' := if_neg (Int.not_lt.mpr hzero.1)
    have hhour : (offsetClock offset).hour = 0 := by dsimp only [offsetClock]; omega
    have hminute : (offsetClock offset).minute = 0 := by dsimp only [offsetClock]; omega
    rw [minutesText, hsign, hhour, hminute]
    rfl
  · have hsign : 'Z' ≠ signOf offset := by
      unfold signOf
      split <;> decide
    have hminutes : 'Z' ∉ minutesText (offsetClock offset) := fun hmem =>
      absurd (isClockText_minutesText _ _ hmem) (by decide)
    rw [expandZulu_of_not_mem (List.not_mem_cons_of_ne_of_not_mem hsign hminutes)]
    rfl

/-! ## Times and dates -/

/-- **A time with its offset is read back.** -/
theorem timeOffset?_text {c : Clock} (hc : c.Fits) {offset : Int} (hoffset : IsOffset offset)
    (hday : offset.natAbs < 86400000000) :
    timeOffset? (clockText c ++ signOf offset :: zoneText (offsetClock offset))
      = some (c, offset) := by
  have hsign : signOf offset = '-' ∨ signOf offset = '+' := by
    unfold signOf
    split
    · exact .inl rfl
    · exact .inr rfl
  have hends : Ends (signOf offset :: zoneText (offsetClock offset)) := by
    rintro d hd
    cases hd
    rcases hsign with h | h <;> rw [h] <;> rfl
  have hroom : (clockText c ++ signOf offset :: zoneText (offsetClock offset)).takeWhile
      (fun d => d ≠ '+' ∧ d ≠ '-') = clockText c := by
    have hall : ∀ d ∈ clockText c, decide (d ≠ '+' ∧ d ≠ '-') = true := by
      intro d hd
      have hchar := isClockText_clockText c d hd
      refine decide_eq_true ⟨?_, ?_⟩ <;> rintro rfl <;> exact absurd hchar (by decide)
    rw [List.takeWhile_append_of_pos hall, List.takeWhile_cons_of_neg, List.append_nil]
    rcases hsign with h | h <;> rw [h] <;> decide
  -- the time has the room up to the sign, and the offset all that is left
  unfold timeOffset?
  simp only [hroom]
  split
  · next hnil => exact absurd hnil (List.append_ne_nil_of_right_ne_nil _ (List.cons_ne_nil _ _))
  · rw [clock?_clockText hc hends, List.drop_left]
    simp only
    rw [clock?_zoneText (fits_offsetClock hday)]
    simp only
    rw [offsetMicros_offsetClock hoffset]

/-- A date as it is written. -/
def dateText (year month day : Nat) : List Char :=
  padded 4 year ++ '-' :: (padded 2 month ++ '-' :: padded 2 day)

section Date

variable {year month day : Nat} (hyear : year < 10000) (hmonth : month < 100) (hday : day < 100)

include hyear hmonth hday

theorem length_dateText : (dateText year month day).length = 10 := by
  rw [dateText, List.length_append, List.length_cons, List.length_append, List.length_cons,
    length_two hmonth, length_two hday, length_padded (by decide) hyear]

omit hyear hday in
/-- What follows the hyphen after the year is no week. -/
theorem exists_month_eq_cons : ∃ d r, padded 2 month = d :: r ∧ d ≠ 'W' := by
  have hne : padded 2 month ≠ [] := List.ne_nil_of_length_pos (by rw [length_two hmonth]; decide)
  obtain ⟨d, r, hdigits⟩ := List.exists_cons_of_ne_nil hne
  refine ⟨d, r, hdigits, ?_⟩
  rintro rfl
  have hdigit : 'W'.isDigit = true := isDigit_padded (by rw [hdigits]; exact List.mem_cons_self ..)
  cases hdigit

theorem date?_dateText : date? (dateText year month day) = some (year, month, day) := by
  obtain ⟨d, r, hdigits, hweek⟩ := exists_month_eq_cons hmonth
  have hend : digits? 2 (padded 2 day) = some (day, []) := by
    simpa using digits?_two hday []
  unfold date? dateText
  rw [digits?_padded (by decide) hyear]
  simp only [Option.bind_eq_bind, Option.bind_some]
  split
  · next r' hr =>
    rw [hdigits] at hr
    exact absurd (List.cons.inj hr).1 hweek
  · rw [digits?_two hmonth]
    simp [afterLiteral, hend]

theorem dateEnd?_dateText (c : Char) (r : List Char) :
    dateEnd? (dateText year month day ++ c :: r) = some 10 := by
  obtain ⟨d, r', hdigits, hweek⟩ := exists_month_eq_cons hmonth
  have hlength : 11 ≤ (dateText year month day ++ c :: r).length := by
    rw [List.length_append, length_dateText hyear hmonth hday, List.length_cons]
    omega
  have hfour : (padded 4 year).length = 4 := length_padded (by decide) hyear
  have hhyphen : (dateText year month day ++ c :: r)[4]? = some '-' := by
    simp [dateText, hfour]
  have hmonth' : (dateText year month day ++ c :: r)[5]? = some d := by
    simp [dateText, hfour, List.getElem?_append, hdigits]
  unfold dateEnd?
  simp only [hhyphen, hmonth', Option.some.injEq, hweek]
  rw [if_neg (by omega), if_neg (by omega)]
  rfl

end Date

theorem mem_dateText {year month day : Nat} {c : Char} (hc : c ∈ dateText year month day) :
    c.isDigit = true ∨ c = '-' := by
  simp only [dateText, List.mem_append, List.mem_cons] at hc
  rcases hc with hc | hc | hc | hc | hc
  · exact .inl (isDigit_padded hc)
  · exact .inr hc
  · exact .inl (isDigit_padded hc)
  · exact .inr hc
  · exact .inl (isDigit_padded hc)

/-! ## Offsets that are read -/

theorem isOffset_offsetMicros (negative : Bool) (c : Clock) : IsOffset (offsetMicros negative c) := by
  unfold offsetMicros IsOffset
  simp only
  split
  · exact .inl rfl
  · next hseconds => split <;> omega

theorem isOffset_timeOffset? {s : List Char} {c : Clock} {offset : Int}
    (h : timeOffset? s = some (c, offset)) : IsOffset offset := by
  unfold timeOffset? at h
  simp only at h
  split at h
  · cases h
  · split at h
    · cases h
    · split at h
      · cases h
      · cases h
        exact .inl rfl
    · split at h
      · cases h
        exact isOffset_offsetMicros _ _
      · cases h

end Iso

/-! ## Moments -/

namespace Moment

open Iso

/-- The time of day. -/
def clock (t : Moment) : Clock :=
  ⟨t.hour, t.minute, t.second, t.micro⟩

/-- What is read is a moment that exists, with an offset of at least a second, or none. -/
theorem of_parse? {s : String} {t : Moment} (h : parse? s = some t) :
    t.isValid = true ∧ IsOffset t.offset := by
  unfold parse? moment? at h
  simp only [Option.bind_eq_bind, Option.bind_eq_some_iff] at h
  obtain ⟨stop, _, date, _, h⟩ := h
  split at h
  · -- a date alone is a moment of universal time
    rw [Option.bind_some, Option.ite_none_right_eq_some] at h
    obtain ⟨hvalid, heq⟩ := h
    cases heq
    exact ⟨hvalid, .inl rfl⟩
  · obtain ⟨⟨c, offset⟩, htime, h⟩ := Option.bind_eq_some_iff.mp h
    rw [Option.ite_none_right_eq_some] at h
    obtain ⟨hvalid, heq⟩ := h
    cases heq
    exact ⟨hvalid, isOffset_timeOffset? htime⟩

theorem toList_text (t : Moment) :
    t.text.toList = dateText t.year t.month t.day ++
      'T' :: (clockText t.clock ++ offsetText t.offset) := by
  simp [text, dateText, clockText, clock]

/-- The fields of a moment that exists fit into their widths. -/
structure Fits (t : Moment) : Prop where
  year : t.year < 10000
  month : t.month < 100
  day : t.day < 100
  clock : t.clock.Fits
  offset : t.offset.natAbs < 86400000000

theorem fits_of_isValid {t : Moment} (h : t.isValid = true) : t.Fits := by
  have hdays : Calendar.daysInMonth t.year t.month ≤ 31 := by
    unfold Calendar.daysInMonth
    repeat' split
    all_goals omega
  have hmicros : dayMicros = 86400000000 := rfl
  simp only [isValid, Bool.and_eq_true, decide_eq_true_eq] at h
  obtain ⟨⟨⟨⟨⟨⟨⟨⟨⟨⟨⟨_, hyear⟩, _⟩, hmonth⟩, _⟩, hday⟩, hhour⟩, hminute⟩, hsecond⟩, hmicro⟩, _⟩, _⟩ :=
    h
  exact
    { year := by omega
      month := by omega
      day := by omega
      clock := ⟨Nat.lt_trans hhour (by decide), Nat.lt_trans hminute (by decide),
        Nat.lt_trans hsecond (by decide), hmicro⟩
      offset := by omega }

/-- The written form with every `Z` written out: a date, a time, a sign and the time of the offset. -/
theorem expandZulu_text (t : Moment) :
    expandZulu t.text.toList = dateText t.year t.month t.day ++
      'T' :: (clockText t.clock ++ signOf t.offset :: zoneText (offsetClock t.offset)) := by
  have hdate : 'Z' ∉ dateText t.year t.month t.day := fun hmem =>
    absurd (mem_dateText hmem) (by decide)
  rw [toList_text, expandZulu_append, expandZulu_of_not_mem hdate, ← List.singleton_append,
    expandZulu_append, expandZulu_append, expandZulu_of_isClockText (isClockText_clockText _),
    expandZulu_offsetText]
  rfl

theorem byteWise_expandZulu_text (t : Moment) :
    byteWise (expandZulu t.text.toList) = expandZulu t.text.toList := by
  have hclock : ∀ {s : List Char}, IsClockText s → ∀ c ∈ s, c.utf8Size = 1 :=
    fun hs c hc => utf8Size_of_isClockChar (hs c hc)
  refine byteWise_of_forall ?_
  rw [expandZulu_text]
  simp only [List.forall_mem_append, List.forall_mem_cons]
  refine ⟨?_, rfl, hclock (isClockText_clockText _), ?_,
    hclock ((isClockText_minutesText _).append (isClockText_secondsText _))⟩
  · intro c hc
    rcases mem_dateText hc with hdigit | rfl
    · exact utf8Size_of_isDigit hdigit
    · rfl
  · unfold signOf
    split <;> rfl

/-- **A moment that exists is read back**, unless its offset is a fraction of a second. -/
theorem parse?_text_of_isOffset {t : Moment} (hvalid : t.isValid = true)
    (hoffset : IsOffset t.offset) : parse? t.text = some t := by
  obtain ⟨hyear, hmonth, hday, hclock, hsmall⟩ := fits_of_isValid hvalid
  have hlength := length_dateText hyear hmonth hday
  rw [parse?, moment?, byteWise_expandZulu_text, expandZulu_text]
  simp only [dateEnd?_dateText hyear hmonth hday, Option.bind_eq_bind, Option.bind_some,
    List.take_left' hlength, List.drop_left' hlength, date?_dateText hyear hmonth hday]
  rw [show 'T'.utf8Size - 1 = 0 from rfl, List.drop_zero, timeOffset?_text hclock hoffset hsmall,
    Option.bind_some]
  exact if_pos hvalid

/-- An offset of half a second is lost. -/
example :
    let t : Moment := { year := 2024, month := 2, day := 29, offset := 500000 }
    t.isValid = true ∧ parse? t.text = some { t with offset := 0 } := by
  decide +kernel

/-- The moments that are written: those of the clock, which have no offset, and those that were
    read. -/
inductive Stamped : Moment → Prop
  | now {t : Moment} (hvalid : t.isValid = true) (hoffset : t.offset = 0) : Stamped t
  | read {s : String} {t : Moment} (h : parse? s = some t) : Stamped t

/-- The written form of what a time stamp denotes. -/
def normalText? (s : String) : Option String :=
  (parse? s).map text

/-- **Moments survive being written.** A moment of the clock, at any date and time, and a moment read
    from any time stamp are both read back from their written form, with the same fields and offset.
    A normal form is therefore its own normal form. -/
theorem text_survives :
    (∀ t, Stamped t → parse? t.text = some t) ∧
      ∀ s, (normalText? s).bind normalText? = normalText? s := by
  have hback : ∀ t, Stamped t → parse? t.text = some t := by
    intro t ht
    cases ht with
    | now hvalid hoffset => exact parse?_text_of_isOffset hvalid (.inl hoffset)
    | read hread =>
      obtain ⟨hvalid, hoffset⟩ := of_parse? hread
      exact parse?_text_of_isOffset hvalid hoffset
  refine ⟨hback, fun s => ?_⟩
  unfold normalText?
  cases hread : parse? s with
  | none => rfl
  | some t =>
    rw [Option.map_some, Option.bind_some, hback t (.read hread), Option.map_some]

/-- The first year of the clock; a week date with a long fraction and a negative offset of fractions
    of a second; and an offset below a minute. -/
theorem text_survives_stamps :
    let early : Moment := { year := 1, month := 1, day := 1, micro := 7 }
    let week : Moment :=
      { year := 2021, month := 1, day := 1, hour := 23, minute := 59, second := 59
        micro := 123456, offset := -86399500000 }
    let leap : Moment :=
      { year := 2024, month := 2, day := 29, hour := 7, minute := 30, offset := 30000000 }
    (early.isValid = true ∧ early.offset = 0 ∧ early.text = "0001-01-01T00:00:00.000007Z" ∧
      parse? early.text = some early) ∧
    (parse? "2020W535T235959,1234567-23:59:59.5" = some week ∧
      week.text = "2021-01-01T23:59:59.123456-23:59:59.500000" ∧ parse? week.text = some week) ∧
    parse? "20240229 07:30:00+00:00:30" = some leap ∧
      leap.text = "2024-02-29T07:30:00Z:30" ∧ parse? leap.text = some leap := by
  intro early week leap
  have hearly : early.isValid = true := by decide +kernel
  have hweek : parse? "2020W535T235959,1234567-23:59:59.5" = some week := by decide +kernel
  have hleap : parse? "20240229 07:30:00+00:00:30" = some leap := by decide +kernel
  exact ⟨⟨hearly, rfl, by decide +kernel, text_survives.1 early (.now hearly rfl)⟩,
    ⟨hweek, by decide +kernel, text_survives.1 week (.read hweek)⟩,
    hleap, by decide +kernel, text_survives.1 leap (.read hleap)⟩

end Moment

end SpringRoutes
