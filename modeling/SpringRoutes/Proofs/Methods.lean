import Mathlib.Data.Nat.Find
import SpringRoutes.Proofs.Lines

/-!
# `SpringRoutes.Proofs.Methods` — which methods an outline lists

The reader stages annotations and hands them to the next method. Said by line numbers, nothing of
that staging is left: a line with a method name takes whatever stands **since the line with a method
name before it**. `IsEntry` says this without any state, and `methods_closed_form` shows that the
outline lists exactly these entries.

The invariant `Tracks` carries the proof. Its point is that nothing is staged right after a line
with a method name, whether or not that line has become an entry: either the method took what was
staged, or nothing was.
-/

namespace SpringRoutes

open Text

/-! ## Entries by line number -/

/-- The number of the first line that declares a type. -/
def typeLine? (text : String) : Option Nat :=
  (List.range (lineCount text + 1)).find? fun n => (headerAt? text n).isSome

/-- The last line from `d` to `n` with a method name; zero if there is none. -/
def lastNamed (text : String) (d n : Nat) : Nat :=
  Nat.findGreatest (fun m => d ≤ m ∧ (nameAt? text m).isSome = true) n

/-- The last line after `p` and from `d` to `n` with a routing annotation; zero if there is none. -/
def lastMapped (text : String) (d p n : Nat) : Nat :=
  Nat.findGreatest (fun m => p < m ∧ d ≤ m ∧ (mappingAt? text m).isSome = true) n

/-- Some line after `p` and up to `n` carries an override annotation. -/
def Overridden (text : String) (p n : Nat) : Prop :=
  ∃ m, p < m ∧ m ≤ n ∧ overridesAt text m = true

/-- The method `e` is listed for its line, in a source that declares its type on line `d`. With `p`
    the last line before it that has a method name, it takes the last routing annotation and any
    override annotation between `p` and itself, and there has to be one. -/
structure IsEntry (text : String) (d : Nat) (e : Method) : Prop where
  declared : d ≤ e.line
  named : nameAt? text e.line = some e.name
  /-- Override annotations count even before the type, routing annotations from the type on. -/
  waiting : ∃ m, lastNamed text d (e.line - 1) < m ∧ m ≤ e.line ∧
    (overridesAt text m = true ∨ d ≤ m ∧ (mappingAt? text m).isSome = true)
  mapping : e.mapping
    = mappingAt? text (lastMapped text d (lastNamed text d (e.line - 1)) e.line)
  isOverride : e.isOverride = true ↔ Overridden text (lastNamed text d (e.line - 1)) e.line

theorem mappingAt?_zero (text : String) : mappingAt? text 0 = none := rfl

theorem lastNamed_le (text : String) (d n : Nat) : lastNamed text d n ≤ n :=
  Nat.findGreatest_le n

theorem lastNamed_succ (text : String) (d n : Nat) :
    lastNamed text d (n + 1) =
      if d ≤ n + 1 ∧ (nameAt? text (n + 1)).isSome = true then n + 1 else lastNamed text d n :=
  Nat.findGreatest_succ n

/-- The routing annotation on the last mapped line is the newest one. -/
theorem mappingAt?_lastMapped_succ {text : String} {d p n : Nat} (hp : p ≤ n) (hd : d ≤ n + 1) :
    mappingAt? text (lastMapped text d p (n + 1))
      = (mappingAt? text (n + 1)).or (mappingAt? text (lastMapped text d p n)) := by
  unfold lastMapped
  rw [Nat.findGreatest_succ]
  cases hm : mappingAt? text (n + 1) with
  | none => simp
  | some a =>
    rw [if_pos ⟨Nat.lt_succ_of_le hp, hd, by simp⟩, hm]
    rfl

/-- Nothing is mapped after the last line. -/
theorem mappingAt?_lastMapped_self (text : String) (d n : Nat) :
    mappingAt? text (lastMapped text d n n) = none := by
  have h : lastMapped text d n n = 0 := by
    refine Nat.findGreatest_eq_zero_iff.mpr ?_
    intro m _ hle hm
    omega
  rw [h, mappingAt?_zero]

theorem mappingAt?_lastMapped_isSome {text : String} {d p n : Nat} :
    (mappingAt? text (lastMapped text d p n)).isSome = true ↔
      ∃ m, p < m ∧ m ≤ n ∧ d ≤ m ∧ (mappingAt? text m).isSome = true := by
  constructor
  · intro h
    have h0 : lastMapped text d p n ≠ 0 := by
      intro h0
      rw [h0, mappingAt?_zero] at h
      cases h
    obtain ⟨hp, hd, hm⟩ := Nat.findGreatest_of_ne_zero rfl h0
    exact ⟨_, hp, Nat.findGreatest_le n, hd, hm⟩
  · rintro ⟨m, hp, hn, hd, hm⟩
    exact (Nat.findGreatest_spec (P := fun m => p < m ∧ d ≤ m ∧ (mappingAt? text m).isSome = true)
      hn ⟨hp, hd, hm⟩).2.2

theorem overridden_succ {text : String} {p n : Nat} (hp : p ≤ n) :
    Overridden text p (n + 1) ↔ Overridden text p n ∨ overridesAt text (n + 1) = true := by
  constructor
  · rintro ⟨m, hpm, hmn, hm⟩
    by_cases heq : m = n + 1
    · subst heq
      exact Or.inr hm
    · exact Or.inl ⟨m, hpm, by omega, hm⟩
  · rintro (⟨m, hpm, hmn, hm⟩ | hm)
    · exact ⟨m, hpm, by omega, hm⟩
    · exact ⟨n + 1, by omega, le_refl _, hm⟩

theorem not_overridden_self (text : String) (n : Nat) : ¬ Overridden text n n := by
  rintro ⟨m, hlt, hle, _⟩
  omega

/-- Something waits for the method of a line exactly if there is a mapping or an override. -/
theorem waiting_iff {text : String} {d p n : Nat} :
    (∃ m, p < m ∧ m ≤ n ∧
        (overridesAt text m = true ∨ d ≤ m ∧ (mappingAt? text m).isSome = true)) ↔
      (mappingAt? text (lastMapped text d p n)).isSome = true ∨ Overridden text p n := by
  rw [mappingAt?_lastMapped_isSome]
  constructor
  · rintro ⟨m, hp, hn, ho | ⟨hd, hm⟩⟩
    · exact Or.inr ⟨m, hp, hn, ho⟩
    · exact Or.inl ⟨m, hp, hn, hd, hm⟩
  · rintro (⟨m, hp, hn, hd, hm⟩ | ⟨m, hp, hn, ho⟩)
    · exact ⟨m, hp, hn, Or.inr ⟨hd, hm⟩⟩
    · exact ⟨m, hp, hn, Or.inl ho⟩

/-! ## What one line does to the reading

Three kinds of lines: those before the type is known, those that name no method, and those that
name one. -/

namespace Reading

theorem noteMapping_of_declared {r : Reading} (line : List Char) (h : r.header.isSome = true) :
    r.noteMapping line = { r with staged := (Mapping.parse? line).or r.staged } := by
  unfold noteMapping
  cases Mapping.parse? line with
  | none => rfl
  | some m =>
    obtain ⟨t, ht⟩ := Option.isSome_iff_exists.mp h
    simp [ht]

theorem noteMapping_of_undeclared {r : Reading} (line : List Char) (h : r.header = none) :
    r.noteMapping line = { r with base := r.base.or (Mapping.parse? line) } := by
  unfold noteMapping
  cases Mapping.parse? line with
  | none => simp
  | some m => simp [h]

theorem step_header (r : Reading) (l : NumberedLine) :
    (r.step l).header = r.header.or (TypeHeader.parse? l.text) := by
  unfold step noteMethod noteOverride noteMapping noteHeader noteRoles
  repeat' split
  all_goals rfl

/-- Before the type is known, only overrides are noted. -/
theorem step_undeclared {r : Reading} {l : NumberedLine} (h : (r.step l).header = none) :
    (r.step l).staged = r.staged
      ∧ (r.step l).overriding = (r.overriding || isOverride l.text)
      ∧ (r.step l).methods = r.methods := by
  rw [step_header] at h
  unfold step
  rw [noteMapping_of_undeclared l.text h]
  simp [noteMethod, noteOverride, noteHeader, noteRoles, h]

/-- A line without a method name adds its annotations to what is staged. -/
theorem step_unnamed {r : Reading} {l : NumberedLine} (h : (r.step l).header.isSome = true)
    (hn : methodName? l.text = none) :
    (r.step l).staged = (Mapping.parse? l.text).or r.staged
      ∧ (r.step l).overriding = (r.overriding || isOverride l.text)
      ∧ (r.step l).methods = r.methods := by
  rw [step_header] at h
  unfold step
  rw [noteMapping_of_declared l.text h]
  simp [noteMethod, noteOverride, noteHeader, noteRoles, hn]

/-- **Nothing is staged after a line with a method name.** If something was, it is now with the
    method that the line adds. -/
theorem step_named {r : Reading} {l : NumberedLine} {name : String}
    (h : (r.step l).header.isSome = true) (hn : methodName? l.text = some name) :
    (r.step l).staged = none
      ∧ (r.step l).overriding = false
      ∧ (r.step l).methods = r.methods ++
          if ((Mapping.parse? l.text).or r.staged).isSome = true
              ∨ (r.overriding || isOverride l.text) = true then
            [⟨name, l.number, (Mapping.parse? l.text).or r.staged,
              r.overriding || isOverride l.text⟩]
          else [] := by
  rw [step_header] at h
  unfold step
  rw [noteMapping_of_declared l.text h]
  unfold noteMethod
  split
  · next hw =>
    have hw' := (Bool.and_eq_true_iff.mp hw).2
    simp only [isWaiting, noteOverride, noteHeader, noteRoles, Bool.or_eq_true] at hw'
    simp only [hn, noteOverride, noteHeader, noteRoles]
    rw [if_pos (by simpa using hw')]
    exact ⟨trivial, trivial, rfl⟩
  · next hw =>
    -- the type is known, so nothing waits
    have hw' : ¬ (((Mapping.parse? l.text).or r.staged).isSome = true
        ∨ (r.overriding || isOverride l.text) = true) := by
      intro hc
      apply hw
      simp only [isWaiting, noteOverride, noteHeader, noteRoles, h, Bool.true_and, Bool.or_eq_true]
      simpa using hc
    rw [if_neg hw', List.append_nil]
    rw [not_or, Bool.not_eq_true, Bool.not_eq_true] at hw'
    exact ⟨Option.isSome_eq_false_iff.mp hw'.1 |> Option.isNone_iff_eq_none.mp, hw'.2, rfl⟩

end Reading

/-! ## The invariant -/

/-- The reading of the first `n` lines of a text that declares its type on line `d` holds what line
    numbers say: whether the type is known, what waits since the last method name, and the entries
    so far, in the order of their lines. -/
structure Tracks (text : String) (d n : Nat) (r : Reading) : Prop where
  header : r.header.isSome = true ↔ d ≤ n
  staged : r.staged = mappingAt? text (lastMapped text d (lastNamed text d n) n)
  overriding : r.overriding = true ↔ Overridden text (lastNamed text d n) n
  ordered : r.methods.Pairwise fun a b => a.line < b.line
  methods : ∀ e, e ∈ r.methods ↔ e.line ≤ n ∧ IsEntry text d e

theorem not_isEntry_of_nameAt?_eq_none {text : String} {d : Nat} {e : Method}
    (h : nameAt? text e.line = none) : ¬ IsEntry text d e := by
  intro he
  rw [he.named] at h
  cases h

theorem IsEntry.pos {text : String} {d : Nat} {e : Method} (h : IsEntry text d e) : 0 < e.line := by
  rcases Nat.eq_zero_or_pos e.line with h0 | hpos
  · have hn := h.named
    rw [h0] at hn
    cases hn
  · exact hpos

theorem tracks_zero {text : String} {d : Nat} (hd : 0 < d) :
    Tracks text d 0 (readingAfter text 0) := by
  rw [readingAfter_zero]
  refine ⟨?_, rfl, ?_, List.Pairwise.nil, ?_⟩
  · simp
    omega
  · simp only [Bool.false_eq_true, false_iff]
    rintro ⟨m, hlt, hle, _⟩
    omega
  · intro e
    simp only [List.not_mem_nil, false_iff]
    rintro ⟨hle, he⟩
    have := he.pos
    omega

/-- Entries up to line `n + 1` are those up to line `n`, unless that line has a method name after
    the type. -/
theorem entries_succ_of_unnamed {text : String} {d n : Nat} {e : Method}
    (h : d ≤ n + 1 → nameAt? text (n + 1) = none) :
    (e.line ≤ n + 1 ∧ IsEntry text d e) ↔ (e.line ≤ n ∧ IsEntry text d e) := by
  refine ⟨?_, fun ⟨hle, he⟩ => ⟨Nat.le_succ_of_le hle, he⟩⟩
  rintro ⟨hle, he⟩
  refine ⟨?_, he⟩
  by_contra hgt
  have heq : e.line = n + 1 := by omega
  have hd := he.declared
  rw [heq] at hd
  exact not_isEntry_of_nameAt?_eq_none (heq ▸ h hd) he

/-- A line that names no method after the type: annotations pile up, entries stay. -/
theorem tracks_of_unnamed {text : String} {d n : Nat} {r r' : Reading} (ht : Tracks text d n r)
    (hn : d ≤ n + 1 → nameAt? text (n + 1) = none)
    (hheader : r'.header.isSome = true ↔ d ≤ n + 1)
    (hstaged : r'.staged = if d ≤ n + 1 then (mappingAt? text (n + 1)).or r.staged else r.staged)
    (hover : r'.overriding = (r.overriding || overridesAt text (n + 1)))
    (hmethods : r'.methods = r.methods) : Tracks text d (n + 1) r' := by
  have hlast : lastNamed text d (n + 1) = lastNamed text d n := by
    rw [lastNamed_succ, if_neg]
    rintro ⟨hd, hsome⟩
    rw [hn hd] at hsome
    cases hsome
  have hp := lastNamed_le text d n
  refine ⟨hheader, ?_, ?_, ?_, ?_⟩
  · rw [hstaged, hlast, ht.staged]
    by_cases hd : d ≤ n + 1
    · rw [if_pos hd, mappingAt?_lastMapped_succ hp hd]
    · rw [if_neg hd]
      unfold lastMapped
      rw [Nat.findGreatest_of_not (fun hm => hd hm.2.1)]
  · rw [hover, hlast, overridden_succ hp, Bool.or_eq_true, ht.overriding]
  · rw [hmethods]
    exact ht.ordered
  · intro e
    rw [hmethods, ht.methods, entries_succ_of_unnamed hn]

/-- The entry of line `n + 1` is the one that takes what waits there. -/
theorem isEntry_succ_iff {text : String} {d n : Nat} {name : String} {staged : Option Mapping}
    {marked : Bool} (hd : d ≤ n + 1) (hname : nameAt? text (n + 1) = some name)
    (hs : staged = mappingAt? text (lastMapped text d (lastNamed text d n) (n + 1)))
    (ho : marked = true ↔ Overridden text (lastNamed text d n) (n + 1)) (e : Method) :
    (e.line = n + 1 ∧ IsEntry text d e) ↔
      (staged.isSome = true ∨ marked = true) ∧ e = ⟨name, n + 1, staged, marked⟩ := by
  constructor
  · rintro ⟨hline, he⟩
    have hprev : lastNamed text d (e.line - 1) = lastNamed text d n := by
      rw [hline, Nat.add_sub_cancel]
    have hw := waiting_iff.mp he.waiting
    have hmapping := he.mapping
    have hover := he.isOverride
    have hnamed := he.named
    rw [hprev, hline] at hw hmapping hover
    rw [hline, hname] at hnamed
    rw [← hs] at hw hmapping
    rw [← ho] at hw hover
    refine ⟨hw, ?_⟩
    obtain ⟨ename, eline, emapping, eover⟩ := e
    simp only [Method.mk.injEq]
    exact ⟨(Option.some.inj hnamed).symm, hline, hmapping, Bool.eq_iff_iff.mpr hover⟩
  · rintro ⟨hw, rfl⟩
    refine ⟨rfl, hd, hname, waiting_iff.mpr ?_, hs, ho⟩
    simp only [Nat.add_sub_cancel]
    rw [← hs, ← ho]
    exact hw

/-- A line that names a method after the type: it takes what waits, and nothing waits any more. -/
theorem tracks_of_named {text : String} {d n : Nat} {r r' : Reading} {name : String}
    (ht : Tracks text d n r) (hd : d ≤ n + 1) (hname : nameAt? text (n + 1) = some name)
    (hheader : r'.header.isSome = true)
    (hstaged : r'.staged = none) (hover : r'.overriding = false)
    (hmethods : r'.methods = r.methods ++
      if ((mappingAt? text (n + 1)).or r.staged).isSome = true
          ∨ (r.overriding || overridesAt text (n + 1)) = true then
        [⟨name, n + 1, (mappingAt? text (n + 1)).or r.staged,
          r.overriding || overridesAt text (n + 1)⟩]
      else []) : Tracks text d (n + 1) r' := by
  have hp := lastNamed_le text d n
  have hlast : lastNamed text d (n + 1) = n + 1 := by
    rw [lastNamed_succ, if_pos ⟨hd, by simp [hname]⟩]
  have hs : (mappingAt? text (n + 1)).or r.staged
      = mappingAt? text (lastMapped text d (lastNamed text d n) (n + 1)) := by
    rw [ht.staged, mappingAt?_lastMapped_succ hp hd]
  have ho : (r.overriding || overridesAt text (n + 1)) = true
      ↔ Overridden text (lastNamed text d n) (n + 1) := by
    rw [overridden_succ hp, Bool.or_eq_true, ht.overriding]
  have hentry := isEntry_succ_iff hd hname hs ho
  refine ⟨by simp [hheader, hd], ?_, ?_, ?_, ?_⟩
  · rw [hstaged, hlast, mappingAt?_lastMapped_self]
  · rw [hover, hlast]
    simp [not_overridden_self]
  · rw [hmethods, List.pairwise_append]
    refine ⟨ht.ordered, by split <;> simp, ?_⟩
    intro a ha b hb
    have hale := ((ht.methods a).mp ha).1
    split at hb
    · rw [List.mem_singleton.mp hb]
      exact Nat.lt_succ_of_le hale
    · cases hb
  · intro e
    rw [hmethods, List.mem_append, ht.methods]
    have hsplit : (e.line ≤ n + 1 ∧ IsEntry text d e)
        ↔ (e.line ≤ n ∧ IsEntry text d e) ∨ (e.line = n + 1 ∧ IsEntry text d e) := by
      rw [← or_and_right, Nat.le_succ_iff]
    rw [hsplit, hentry]
    refine or_congr Iff.rfl ?_
    split
    · next hw => rw [List.mem_singleton, and_iff_right hw]
    · next hw => exact ⟨fun h => absurd h List.not_mem_nil, fun h => absurd h.1 hw⟩

/-- After a line that counts, the type is known from line `d` on. -/
theorem Tracks.header_step {text : String} {d n : Nat} {r : Reading} {line : List Char}
    (ht : Tracks text d n r) (hbefore : ∀ k < d, headerAt? text k = none)
    (hat : d = n + 1 → (headerAt? text d).isSome = true)
    (hs : significantAt? text (n + 1) = some line) :
    (r.step ⟨n + 1, line⟩).header.isSome = true ↔ d ≤ n + 1 := by
  have hline : headerAt? text (n + 1) = TypeHeader.parse? line := by simp [headerAt?, hs]
  rw [Reading.step_header, Option.isSome_or, Bool.or_eq_true, ht.header, ← hline]
  constructor
  · rintro (hle | hsome)
    · omega
    · by_contra hgt
      rw [hbefore (n + 1) (by omega)] at hsome
      cases hsome
  · intro hle
    rcases Nat.lt_or_ge n d with hlt | hge
    · have heq : d = n + 1 := by omega
      exact Or.inr (heq ▸ hat heq)
    · exact Or.inl hge

/-- **One line preserves the invariant**, as long as no type is declared before line `d` and one is
    declared on it. -/
theorem tracks_succ {text : String} {d n : Nat} (hbefore : ∀ k < d, headerAt? text k = none)
    (hat : d = n + 1 → (headerAt? text d).isSome = true)
    (ht : Tracks text d n (readingAfter text n)) :
    Tracks text d (n + 1) (readingAfter text (n + 1)) := by
  rw [readingAfter_succ]
  cases hs : significantAt? text (n + 1) with
  | none =>
    -- a line that does not count declares nothing, so it is not line `d`
    have hne : d ≠ n + 1 := by
      rintro rfl
      have := hat rfl
      simp [headerAt?, hs] at this
    refine tracks_of_unnamed ht (fun _ => by simp [nameAt?, hs]) ?_ ?_ ?_ rfl
    · rw [ht.header]
      omega
    · simp [mappingAt?, hs]
    · simp [overridesAt, hs]
  | some line =>
    have hheader := ht.header_step hbefore hat hs
    have hmapping : mappingAt? text (n + 1) = Mapping.parse? line := by simp [mappingAt?, hs]
    have hover : overridesAt text (n + 1) = isOverride line := by simp [overridesAt, hs]
    have hname : nameAt? text (n + 1) = methodName? line := by simp [nameAt?, hs]
    by_cases hd : d ≤ n + 1
    · have hknown := hheader.mpr hd
      cases hn : methodName? line with
      | none =>
        obtain ⟨h₁, h₂, h₃⟩ := Reading.step_unnamed hknown hn
        refine tracks_of_unnamed ht (fun _ => by rw [hname, hn]) hheader ?_ ?_ h₃
        · rw [h₁, if_pos hd, hmapping]
        · rw [h₂, hover]
      | some name =>
        obtain ⟨h₁, h₂, h₃⟩ := Reading.step_named hknown hn
        rw [← hmapping, ← hover] at h₃
        exact tracks_of_named ht hd (by rw [hname, hn]) hknown h₁ h₂ h₃
    · -- before the type, method names are passed over: override annotations outlive them
      have hunknown := hheader.not.mpr hd
      rw [Bool.not_eq_true, Option.isSome_eq_false_iff, Option.isNone_iff_eq_none] at hunknown
      obtain ⟨h₁, h₂, h₃⟩ := Reading.step_undeclared hunknown
      refine tracks_of_unnamed ht (fun hle => absurd hle hd) hheader ?_ ?_ h₃
      · rw [h₁, if_neg hd]
      · rw [h₂, hover]

/-- **Every prefix is tracked**, by induction on its lines. A text without a type is tracked too,
    with a line past its end for `d`. -/
theorem tracks_readingAfter {text : String} {d : Nat} (hpos : 0 < d)
    (hbefore : ∀ k < d, headerAt? text k = none) {n : Nat}
    (hat : d ≤ n → (headerAt? text d).isSome = true) :
    Tracks text d n (readingAfter text n) := by
  induction n with
  | zero => exact tracks_zero hpos
  | succ n ih =>
    refine tracks_succ hbefore ?_ (ih fun hle => hat (Nat.le_succ_of_le hle))
    intro heq
    exact hat (Nat.le_of_eq heq)

/-! ## The methods of an outline -/

theorem headerAt?_of_lt {text : String} {n : Nat} (h : lineCount text < n) :
    headerAt? text n = none := by
  simp [headerAt?, significantAt?_of_lt h]

theorem typeLine?_eq_none_iff {text : String} :
    typeLine? text = none ↔ ∀ n, headerAt? text n = none := by
  unfold typeLine?
  rw [List.find?_eq_none]
  constructor
  · intro h n
    rcases Nat.lt_or_ge (lineCount text) n with hlt | hge
    · exact headerAt?_of_lt hlt
    · simpa using h n (List.mem_range.mpr (Nat.lt_succ_of_le hge))
  · intro h n _
    simp [h n]

theorem typeLine?_eq_some {text : String} {d : Nat} (h : typeLine? text = some d) :
    0 < d ∧ (headerAt? text d).isSome = true ∧ ∀ k < d, headerAt? text k = none := by
  unfold typeLine? at h
  rw [List.find?_range_eq_some] at h
  obtain ⟨hsome, _, hbefore⟩ := h
  refine ⟨?_, hsome, fun k hk => by simpa using hbefore k hk⟩
  rcases Nat.eq_zero_or_pos d with rfl | hpos
  · cases hsome
  · exact hpos

/-- The whole reading is tracked. -/
theorem tracks_lineCount (text : String) :
    Tracks text ((typeLine? text).getD (lineCount text + 1)) (lineCount text)
      (readingAfter text (lineCount text)) := by
  cases ht : typeLine? text with
  | none =>
    have hnone := typeLine?_eq_none_iff.mp ht
    refine tracks_readingAfter (Nat.succ_pos _) (fun k _ => hnone k) ?_
    intro hle
    exact absurd hle (Nat.not_succ_le_self _)
  | some d =>
    obtain ⟨hpos, hat, hbefore⟩ := typeLine?_eq_some ht
    exact tracks_readingAfter hpos hbefore (fun _ => hat)

theorem methods_ofText (path text : String) :
    (Outline.ofText path text).methods = (readingAfter text (lineCount text)).methods := by
  rw [toOutline_readingAfter]
  rfl

/-- A listed method stands on a line that names it. -/
theorem nameAt?_of_mem_methods {path text : String} {e : Method}
    (h : e ∈ (Outline.ofText path text).methods) : nameAt? text e.line = some e.name := by
  rw [methods_ofText] at h
  exact (((tracks_lineCount text).methods e).mp h).2.named

/-- **The methods of an outline, line by line.** Without a type there are none. With a type on line
    `d` they are the entries by line number, each line at most once and in the order of the
    lines. -/
theorem methods_closed_form (path text : String) :
    match typeLine? text with
    | none => (Outline.ofText path text).methods = []
    | some d =>
      ((Outline.ofText path text).methods.Pairwise fun a b => a.line < b.line)
        ∧ ∀ e, e ∈ (Outline.ofText path text).methods ↔ IsEntry text d e := by
  have htracks := tracks_lineCount text
  rw [methods_ofText]
  cases ht : typeLine? text with
  | none =>
    rw [ht, Option.getD_none] at htracks
    refine List.eq_nil_iff_forall_not_mem.mpr ?_
    intro e he
    obtain ⟨hle, hentry⟩ := (htracks.methods e).mp he
    exact absurd (Nat.le_trans hentry.declared hle) (Nat.not_succ_le_self _)
  | some d =>
    rw [ht, Option.getD_some] at htracks
    refine ⟨htracks.ordered, ?_⟩
    intro e
    rw [htracks.methods, and_iff_right_iff_imp]
    -- past the last line there is no name, so the bound of the invariant goes without saying
    intro he
    by_contra hgt
    refine not_isEntry_of_nameAt?_eq_none ?_ he
    rw [nameAt?, significantAt?_of_lt (Nat.lt_of_not_le hgt)]
    rfl

end SpringRoutes
