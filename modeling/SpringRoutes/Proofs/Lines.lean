import SpringRoutes.Outline.Reading
import SpringRoutes.Text.Lines

/-!
# `SpringRoutes.Proofs.Lines` — the lines of a source by their numbers

Reading folds over the list of significant lines. What a source *means* is easier to say by line
number: what stands on line `n`, if that line counts. This module moves between the two views.

* a text with unified line breaks is no longer than before (`length_unifyNewlines_le`), and has no
  more lines than characters, plus one (`lineCount_le`);
* `significantAt?` is the trimmed text of line `n`, if the line is neither blank nor a comment;
  `significantAt?_eq_some_iff` spells that out, and `significantLines_eq` lists the lines that count
  by their numbers;
* `headerAt?`, `nameAt?`, `mappingAt?`, `overridesAt` are what the recognisers find on line `n`;
* `readingAfter` is the reading of the first `n` lines, and `readingAfter_succ` its step: line
  `n + 1` is read if it counts, and passed over otherwise.
-/

namespace SpringRoutes

open Text

/-! ## Line breaks

Unifying the line breaks of a text changes nothing when there are no carriage returns, and never
makes it longer. -/

theorem unifyNewlines_of_not_mem {s : List Char} (h : '\r' ∉ s) : unifyNewlines s = s := by
  fun_induction unifyNewlines s with
  | case1 => rfl
  | case2 r ih => exact absurd (List.mem_cons_self ..) h
  | case3 r _ ih => exact absurd (List.mem_cons_self ..) h
  | case4 c r _ _ ih => rw [ih (fun hr => h (List.mem_cons_of_mem _ hr))]

theorem length_unifyNewlines_le (s : List Char) : (unifyNewlines s).length ≤ s.length := by
  fun_induction unifyNewlines s with
  | case1 => exact Nat.le_refl 0
  | case2 r ih => exact Nat.succ_le_succ (Nat.le_succ_of_le ih)
  | case3 r _ ih => exact Nat.succ_le_succ ih
  | case4 c r _ _ ih => exact Nat.succ_le_succ ih

/-! ## Lines by number -/

/-- The number of lines of a text. -/
def lineCount (text : String) : Nat :=
  (splitOn '\n' text.toList).length

theorem length_splitOn_le (sep : Char) (s : List Char) :
    (splitOn sep s).length ≤ s.length + 1 := by
  induction s with
  | nil => exact Nat.le_refl 1
  | cons c cs ih =>
    obtain ⟨p, ps, hps⟩ := List.exists_cons_of_ne_nil (splitOn_ne_nil sep cs)
    rw [splitOn]
    rw [hps] at ih ⊢
    split
    · exact Nat.succ_le_succ ih
    · exact Nat.le_succ_of_le ih

theorem lineCount_le (s : List Char) : lineCount (String.ofList s) ≤ s.length + 1 := by
  unfold lineCount
  rw [String.toList_ofList]
  exact length_splitOn_le '\n' s

/-- Line `n` of a text, counted from one, without the blanks around it. -/
def lineAt? (text : String) : Nat → Option (List Char)
  | 0 => none
  | k + 1 => ((splitOn '\n' text.toList)[k]?).map trim

/-- Line `n`, if it is neither blank nor a comment. -/
def significantAt? (text : String) (n : Nat) : Option (List Char) :=
  (lineAt? text n).filter isSignificant

/-- The texts that start a comment line. -/
def commentMarks : List (List Char) := [['/', '/'], ['/', '*'], ['*']]

theorem isSignificant_iff (line : List Char) :
    isSignificant line = true ↔ line ≠ [] ∧ ∀ mark ∈ commentMarks, ¬ mark <+: line := by
  unfold isSignificant commentMarks
  split <;> simp_all [List.cons_prefix_cons]
  -- the last pattern: a line that starts with none of the marks
  next h₁ h₂ h₃ =>
    cases line with
    | nil => contradiction
    | cons c r =>
      refine ⟨?_, ?_, ?_⟩
      · rintro ⟨t, ht⟩
        exact h₁ t (by simpa using ht.symm)
      · rintro ⟨t, ht⟩
        exact h₂ t (by simpa using ht.symm)
      · rintro ⟨t, ht⟩
        exact h₃ t (by simpa using ht.symm)

theorem lineAt?_bounds {text : String} {n : Nat} {line : List Char}
    (h : lineAt? text n = some line) : 1 ≤ n ∧ n ≤ lineCount text := by
  cases n with
  | zero => simp [lineAt?] at h
  | succ k =>
    simp only [lineAt?, Option.map_eq_some_iff] at h
    obtain ⟨raw, hraw, _⟩ := h
    obtain ⟨hk, _⟩ := List.getElem?_eq_some_iff.mp hraw
    exact ⟨Nat.le_add_left 1 k, hk⟩

theorem significantAt?_eq_some_iff {text : String} {n : Nat} {line : List Char} :
    significantAt? text n = some line ↔
      lineAt? text n = some line ∧ line ≠ [] ∧ ∀ mark ∈ commentMarks, ¬ mark <+: line := by
  rw [significantAt?, Option.filter_eq_some_iff, isSignificant_iff]

theorem significantAt?_of_lt {text : String} {n : Nat} (h : lineCount text < n) :
    significantAt? text n = none := by
  cases hs : significantAt? text n with
  | none => rfl
  | some line =>
    have hb := lineAt?_bounds (significantAt?_eq_some_iff.mp hs).1
    omega

theorem filter_numberedFrom (start : Nat) (ls : List (List Char)) :
    (numberedFrom start ls).filter (fun l => isSignificant l.text)
      = (List.range ls.length).filterMap fun k =>
          ((ls[k]?.map trim).filter isSignificant).map (NumberedLine.mk (start + k)) := by
  induction ls generalizing start with
  | nil => rfl
  | cons l ls ih =>
    have hrest : ∀ k, start + 1 + k = start + (k + 1) := fun k => by omega
    rw [numberedFrom, List.length_cons, List.range_succ_eq_map, List.filterMap_cons,
      List.filterMap_map]
    simp only [Function.comp_def, List.getElem?_cons_zero, List.getElem?_cons_succ,
      Nat.succ_eq_add_one]
    have ih' := ih (start + 1)
    simp only [hrest] at ih'
    rw [← ih']
    by_cases hs : isSignificant (trim l) = true
    · simp [Option.filter_some, hs]
    · simp [Option.filter_some, hs]

/-- The lines that count by their numbers. -/
theorem significantLines_eq (text : String) :
    significantLines text.toList
      = (List.range (lineCount text + 1)).filterMap fun n =>
          (significantAt? text n).map (NumberedLine.mk n) := by
  rw [significantLines, filter_numberedFrom, List.range_succ_eq_map, List.filterMap_cons,
    List.filterMap_map]
  unfold lineCount
  congr 1
  funext k
  simp only [Function.comp_apply, Nat.succ_eq_add_one, significantAt?, lineAt?, Nat.add_comm 1 k]

/-! ## What the recognisers find on a line -/

/-- The type that line `n` declares. -/
def headerAt? (text : String) (n : Nat) : Option TypeHeader :=
  (significantAt? text n).bind TypeHeader.parse?

/-- The method name on line `n`. -/
def nameAt? (text : String) (n : Nat) : Option String :=
  (significantAt? text n).bind methodName?

/-- The routing annotation on line `n`. -/
def mappingAt? (text : String) (n : Nat) : Option Mapping :=
  (significantAt? text n).bind Mapping.parse?

/-- Whether line `n` carries an override annotation. -/
def overridesAt (text : String) (n : Nat) : Bool :=
  (significantAt? text n).any isOverride

/-! ## Reading up to a line -/

/-- The reading of the first `n` lines of a text. -/
def readingAfter (text : String) (n : Nat) : Reading :=
  ((numberedFrom 1 ((splitOn '\n' text.toList).take n)).filter fun l =>
    isSignificant l.text).foldl Reading.step {}

theorem numberedFrom_append (start : Nat) (ls ms : List (List Char)) :
    numberedFrom start (ls ++ ms)
      = numberedFrom start ls ++ numberedFrom (start + ls.length) ms := by
  induction ls generalizing start with
  | nil => rfl
  | cons l ls ih =>
    simp only [List.cons_append, numberedFrom, ih, List.length_cons]
    rw [Nat.add_assoc, Nat.add_comm 1]

theorem readingAfter_zero (text : String) : readingAfter text 0 = {} := by
  simp [readingAfter, numberedFrom]

/-- **One line further.** A line that counts is read, any other is passed over. -/
theorem readingAfter_succ (text : String) (n : Nat) :
    readingAfter text (n + 1) =
      match significantAt? text (n + 1) with
      | some line => (readingAfter text n).step ⟨n + 1, line⟩
      | none => readingAfter text n := by
  unfold readingAfter significantAt? lineAt?
  rw [List.take_add_one]
  cases hraw : (splitOn '\n' text.toList)[n]? with
  | none => simp [hraw]
  | some raw =>
    have hn : n < (splitOn '\n' text.toList).length := (List.getElem?_eq_some_iff.mp hraw).1
    rw [Option.toList_some, numberedFrom_append, List.length_take_of_le (Nat.le_of_lt hn),
      Nat.add_comm 1 n]
    by_cases hs : isSignificant (trim raw) = true
    · simp [numberedFrom, hraw, Option.filter_some, hs]
    · simp [numberedFrom, hraw, Option.filter_some, hs]

theorem toOutline_readingAfter (path text : String) :
    Outline.ofText path text = (readingAfter text (lineCount text)).toOutline path := by
  simp [Outline.ofText, significantLines, readingAfter, lineCount]

end SpringRoutes
