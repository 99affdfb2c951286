import Mathlib.Data.List.DropRight
import SpringRoutes.Proofs.Recognisers
import SpringRoutes.Proofs.Utf8
import SpringRoutes.Text.Casing

/-!
# `SpringRoutes.Proofs.TextForms` — trimmed text and text in lower case

Two operations that bring a text into a form. Trimming the end stops at the last character that is no
blank (`trimEnd_append_cons`), and leaves a text as it is when that is the last one
(`trimEnd_eq_self_iff`).

Lower-casing leaves a text as it is when it leaves each of its characters (`lower_of_forall`), and it
gives characters of that kind only (`isLower_of_mem_lower`): a second time changes nothing, wherever
the text stands, although the lower case of a sigma depends on its place. Both rest on the table of
mappings, of which two facts are enough: **no run leads into a run** (`lowerRuns_apart`), and none leads
to a capital of ASCII, to a blank, or out of the characters (`lowerRuns_land`).
-/

namespace SpringRoutes.Text

/-! ## Trimming the end -/

theorem trimEnd_eq_rdropWhile (s : List Char) : trimEnd s = s.rdropWhile isBlank := rfl

/-- Trimming the end stops at a character that is no blank. -/
theorem trimEnd_append_cons {c : Char} (hc : isBlank c = false) (a s : List Char) :
    trimEnd (a ++ c :: s) = a ++ c :: trimEnd s := by
  induction s using List.reverseRecOn with
  | nil => exact List.rdropWhile_concat_neg _ _ _ (by simp [hc])
  | append_singleton s d ih =>
    have hsplit : a ++ c :: (s ++ [d]) = a ++ c :: s ++ [d] := by simp
    rw [trimEnd_eq_rdropWhile] at ih ⊢
    rw [hsplit, trimEnd_eq_rdropWhile, List.rdropWhile_concat, List.rdropWhile_concat, ih]
    split
    · rfl
    · exact hsplit.symm

theorem trimEnd_eq_self_iff {s : List Char} :
    trimEnd s = s ↔ s.getLast?.any isBlank = false := by
  rw [trimEnd_eq_rdropWhile, List.rdropWhile_eq_self_iff]
  rcases List.eq_nil_or_concat s with rfl | ⟨r, c, rfl⟩
  · simp
  · simp

theorem trimEnd_eq_nil_iff {s : List Char} : trimEnd s = [] ↔ AllBlank s :=
  List.rdropWhile_eq_nil_iff

/-- A trimmed text does not end with a blank. -/
theorem getLast?_trim (s : List Char) : (trim s).getLast?.any isBlank = false :=
  trimEnd_eq_self_iff.mp (List.rdropWhile_idempotent isBlank (trimStart s))

theorem trimEnd_isPrefix (s : List Char) : trimEnd s <+: s :=
  List.rdropWhile_prefix _ _

/-! ## The table of lower case -/

namespace CaseRun

/-- The first code point to which a run leads. -/
def lowest (r : CaseRun) : Nat := (r.first + r.shift).toNat

/-- The last code point to which a run leads. -/
def highest (r : CaseRun) : Nat := (r.last + r.shift).toNat

/-- Whether a run leads to no code point that another one covers. -/
def isApart (r q : CaseRun) : Bool :=
  decide (r.highest < q.first) || decide (q.last < r.lowest)
    || ((r.step == 2 || r.first == r.last) && q.step == 2 && (r.lowest + q.first) % 2 == 1)

/-- Whether a run leads to characters, and to none that is a capital of ASCII or a blank. -/
def isLanding (r : CaseRun) : Bool :=
  decide (0x5a < r.lowest) && (decide (r.highest < 0xd800) || decide (0xdfff < r.lowest))
    && decide (r.highest < 0x110000) && (decide (r.highest < 0x130) || decide (0x130 < r.lowest))
    && blankRanges.all fun b => decide (r.highest < b.1) || decide (b.2 < r.lowest)

theorem covers_iff {r : CaseRun} {n : Nat} :
    r.covers n = true ↔ r.first ≤ n ∧ n ≤ r.last ∧ (n - r.first) % r.step = 0 := by
  simp [covers, and_assoc]

/-- Where a run leads, if it leads to no negative number. -/
theorem shift_bounds {r : CaseRun} (h : 0 < r.lowest) {n : Nat} (hn : r.covers n = true) :
    r.lowest + (n - r.first) = (n + r.shift : Int).toNat ∧ (n + r.shift : Int).toNat ≤ r.highest := by
  obtain ⟨hfirst, hlast, _⟩ := covers_iff.mp hn
  unfold lowest highest at *
  omega

theorem not_covers_of_isApart {r q : CaseRun} (hr : 0 < r.lowest) (h : r.isApart q = true) {n : Nat}
    (hn : r.covers n = true) : q.covers (n + r.shift : Int).toNat = false := by
  rw [← Bool.not_eq_true, covers_iff]
  rintro ⟨hfirst, hlast, hstep⟩
  obtain ⟨hrfirst, hrlast, hrstep⟩ := covers_iff.mp hn
  obtain ⟨hlow, hhigh⟩ := shift_bounds hr hn
  simp only [isApart, Bool.or_eq_true, Bool.and_eq_true, decide_eq_true_eq, beq_iff_eq] at h
  rcases h with (hbelow | habove) | ⟨⟨hr, hq⟩, hodd⟩
  · omega
  · omega
  · -- both go in steps of two, so the parity tells them apart
    rw [hq] at hstep
    rcases hr with hr | hr
    · rw [hr] at hrstep
      omega
    · omega

end CaseRun

theorem lowerRuns_apart : lowerRuns.all (fun r => lowerRuns.all r.isApart) = true := by
  decide +kernel

theorem lowerRuns_land : lowerRuns.all CaseRun.isLanding = true := by
  decide +kernel

theorem shiftBy_cases (runs : List CaseRun) (n : Nat) :
    ((∀ r ∈ runs, r.covers n = false) ∧ shiftBy runs n = n) ∨
      ∃ r ∈ runs, r.covers n = true ∧ shiftBy runs n = (n + r.shift : Int).toNat := by
  unfold shiftBy
  cases h : runs.find? (·.covers n) with
  | none => exact .inl ⟨fun r hr => by simpa using List.find?_eq_none.mp h r hr, rfl⟩
  | some r =>
    have hcovers : r.covers n = true := List.find?_some (p := fun r : CaseRun => r.covers n) h
    exact .inr ⟨r, List.mem_of_find?_eq_some h, hcovers, rfl⟩

theorem shiftBy_of_forall {runs : List CaseRun} {n : Nat} (h : ∀ r ∈ runs, r.covers n = false) :
    shiftBy runs n = n := by
  rcases shiftBy_cases runs n with ⟨_, heq⟩ | ⟨r, hr, hcovers, _⟩
  · exact heq
  · rw [h r hr] at hcovers
    cases hcovers

/-! ## Lower case of a character -/

/-- Lower-casing leaves the character. -/
def IsLower (c : Char) : Prop :=
  lowerChar c = [c]

instance (c : Char) : Decidable (IsLower c) :=
  inferInstanceAs (Decidable (lowerChar c = [c]))

/-- A code point to which a run of the table leads is left, and it is no blank. -/
theorem isLower_of_covers {r : CaseRun} (hr : r ∈ lowerRuns) {n : Nat} (hn : r.covers n = true) :
    IsLower (Char.ofNat (n + r.shift : Int).toNat) ∧
      isBlank (Char.ofNat (n + r.shift : Int).toNat) = false := by
  have hland := List.all_eq_true.mp lowerRuns_land r hr
  simp only [CaseRun.isLanding, Bool.and_eq_true, Bool.or_eq_true, decide_eq_true_eq,
    List.all_eq_true] at hland
  obtain ⟨⟨⟨⟨hcapital, hsurrogate⟩, hlimit⟩, hdotted⟩, hblank⟩ := hland
  obtain ⟨hlow, hhigh⟩ := CaseRun.shift_bounds (by omega) hn
  have huncovered : ∀ q ∈ lowerRuns, q.covers (n + r.shift : Int).toNat = false := by
    intro q hq
    have hapart := List.all_eq_true.mp (List.all_eq_true.mp lowerRuns_apart r hr) q hq
    exact CaseRun.not_covers_of_isApart (by omega) hapart hn
  generalize (n + r.shift : Int).toNat = m at *
  have hnat : (Char.ofNat m).toNat = m := Utf8.toNat_ofNat (by omega)
  constructor
  · unfold IsLower lowerChar
    rw [hnat, shiftBy_of_forall huncovered]
    split
    · have hlower : (Char.ofNat m).toLower = Char.ofNat m := by
        refine dif_neg fun ⟨_, hz⟩ => ?_
        have hle : (Char.ofNat m).toNat ≤ 0x5a := hz
        omega
      rw [hlower]
    · rw [if_neg (by simp; omega)]
  · rw [← Bool.not_eq_true, isBlank, Ranges.contains_iff, hnat]
    rintro ⟨b, hb, hlo, hhi⟩
    have hb := hblank b hb
    omega

theorem ascii_lower :
    (0x130 :: List.range 128).all (fun n => (lowerChar (Char.ofNat n)).all fun d =>
      decide (IsLower d) && (isBlank (Char.ofNat n) || !isBlank d)) = true := by
  decide +kernel

/-- **The lower case of a character is left, and it is no blank unless the character was one.** -/
theorem isLower_of_mem_lowerChar {c d : Char} (h : d ∈ lowerChar c) :
    IsLower d ∧ (isBlank c = false → isBlank d = false) := by
  by_cases hspecial : c.toNat < 128 ∨ c.toNat = 0x130
  · have hmem : c.toNat ∈ 0x130 :: List.range 128 := by simpa [or_comm] using hspecial
    have hall := List.all_eq_true.mp ascii_lower c.toNat hmem
    rw [Char.ofNat_toNat] at hall
    have hd := List.all_eq_true.mp hall d h
    rw [Bool.and_eq_true, decide_eq_true_eq, Bool.or_eq_true, Bool.not_eq_true'] at hd
    refine ⟨hd.1, fun hc => hd.2.resolve_left ?_⟩
    simp [hc]
  · rw [not_or] at hspecial
    have hlower : lowerChar c = [Char.ofNat (shiftBy lowerRuns c.toNat)] := by
      unfold lowerChar
      rw [if_neg hspecial.1, if_neg (by simpa using hspecial.2)]
    rw [hlower, List.mem_singleton] at h
    rcases shiftBy_cases lowerRuns c.toNat with ⟨_, hshift⟩ | ⟨r, hr, hcovers, hshift⟩
    · rw [hshift, Char.ofNat_toNat] at h hlower
      subst h
      exact ⟨hlower, id⟩
    · obtain ⟨hd, hblank⟩ := isLower_of_covers hr hcovers
      rw [h, hshift]
      exact ⟨hd, fun _ => hblank⟩

/-! ## Lower case of a text -/

theorem lowerAfter_cons_of_isLower {c : Char} (hc : IsLower c) (before s : List Char) :
    lowerAfter before (c :: s) = c :: lowerAfter (c :: before) s := by
  have hsigma : c.toNat ≠ 0x3a3 := by
    intro h
    have hcapital : ¬ IsLower (Char.ofNat 0x3a3) := by decide +kernel
    rw [← h, Char.ofNat_toNat] at hcapital
    exact hcapital hc
  have hlow : lowerChar c = [c] := hc
  rw [lowerAfter, if_neg (by simpa using hsigma), hlow]
  rfl

/-- What a character becomes in its place. -/
theorem lowerAfter_cons (before : List Char) (c : Char) (s : List Char) :
    ∃ low, lowerAfter before (c :: s) = low ++ lowerAfter (c :: before) s ∧ low ≠ [] ∧
      ∀ d ∈ low, IsLower d ∧ (isBlank c = false → isBlank d = false) := by
  have hfinal : IsLower (Char.ofNat 0x3c2) := by decide +kernel
  have hinner : IsLower (Char.ofNat 0x3c3) := by decide +kernel
  have hsingle : ∀ {d}, IsLower d → isBlank d = false →
      ∀ e ∈ [d], IsLower e ∧ (isBlank c = false → isBlank e = false) := by
    intro d hd hblank e he
    rw [List.mem_singleton.mp he]
    exact ⟨hd, fun _ => hblank⟩
  refine ⟨_, rfl, ?_, ?_⟩
  · split
    · split <;> exact List.cons_ne_nil _ _
    · unfold lowerChar
      split
      · exact List.cons_ne_nil _ _
      · split <;> exact List.cons_ne_nil _ _
  · split
    · split
      · exact hsingle hfinal (by decide)
      · exact hsingle hinner (by decide)
    · exact fun d => isLower_of_mem_lowerChar

theorem lower_of_forall {s : List Char} (h : ∀ c ∈ s, IsLower c) : lower s = s := by
  have hafter : ∀ before, lowerAfter before s = s := by
    induction s with
    | nil => exact fun _ => rfl
    | cons c s ih =>
      intro before
      rw [List.forall_mem_cons] at h
      rw [lowerAfter_cons_of_isLower h.1, ih h.2]
  exact hafter []

theorem isLower_of_mem_lower {s : List Char} {d : Char} (h : d ∈ lower s) : IsLower d := by
  have hafter : ∀ before, d ∈ lowerAfter before s → IsLower d := by
    clear h
    induction s with
    | nil => exact fun _ h => absurd h List.not_mem_nil
    | cons c s ih =>
      intro before h
      obtain ⟨low, heq, _, hlow⟩ := lowerAfter_cons before c s
      rw [heq, List.mem_append] at h
      exact h.elim (fun hd => (hlow d hd).1) (ih _)
  exact hafter [] h

/-- A text that does not end with a blank does not do so in lower case either. -/
theorem getLast?_lower {s : List Char} (h : s.getLast?.any isBlank = false) :
    (lower s).getLast?.any isBlank = false := by
  have hafter : ∀ before, (lowerAfter before s).getLast?.any isBlank = false := by
    induction s with
    | nil => exact fun _ => rfl
    | cons c s ih =>
      intro before
      obtain ⟨low, heq, hne, hlow⟩ := lowerAfter_cons before c s
      rw [heq]
      cases s with
      | nil =>
        obtain ⟨a, d, rfl⟩ := (List.eq_nil_or_concat low).resolve_left hne
        simpa [lowerAfter] using (hlow d (by simp)).2 (by simpa using h)
      | cons e s =>
        obtain ⟨rest, hrest, hrestne, _⟩ := lowerAfter_cons (c :: before) e s
        have hafter := ih (by simpa using h) (c :: before)
        rw [List.getLast?_append_of_ne_nil]
        · exact hafter
        · simp [hrest, hrestne]
  exact hafter []

end SpringRoutes.Text
