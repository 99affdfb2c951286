import SpringRoutes.Workspace.Basic

/-!
# `SpringRoutes.Proofs.Paths` — the text of a place, and back

A place is a list of names, and its text joins them by slashes. Reading the text as a path gives the
place back (`placeOf_text`), provided that the names are names a file can have (`isName`), so
different places have different texts (`text_injective`). Every path that can be resolved leads to a
place of such names (`isProper_placeOf`), and that place can be resolved again
(`reach_of_placeOf`).

The pieces of a path are what its slashes divide: `partsOf_append_slash` cuts at any slash, and
`mem_partsOf` says what a piece never is.
-/

namespace SpringRoutes

open Text

/-! ## Pieces between separators -/

namespace Text

theorem splitOn_of_not_mem {sep : Char} {s : List Char} (h : sep ∉ s) : splitOn sep s = [s] := by
  induction s with
  | nil => rfl
  | cons c cs ih =>
    rw [List.mem_cons, not_or] at h
    rw [splitOn, if_neg (Ne.symm h.1), ih h.2]

/-- A separator divides the pieces before it from those after it. -/
theorem splitOn_append_sep (sep : Char) (s t : List Char) :
    splitOn sep (s ++ sep :: t) = splitOn sep s ++ splitOn sep t := by
  induction s with
  | nil => simp [splitOn]
  | cons c cs ih =>
    rw [List.cons_append, splitOn, splitOn, ih]
    by_cases hc : c = sep
    · rw [if_pos hc, if_pos hc, List.cons_append]
    · rw [if_neg hc, if_neg hc]
      obtain ⟨p, ps, hps⟩ := List.exists_cons_of_ne_nil (splitOn_ne_nil sep cs)
      rw [hps]
      rfl

theorem not_mem_of_mem_splitOn {sep : Char} {s q : List Char} (h : q ∈ splitOn sep s) :
    sep ∉ q := by
  induction s generalizing q with
  | nil =>
    rw [List.mem_singleton.mp h]
    exact List.not_mem_nil
  | cons c cs ih =>
    rw [splitOn] at h
    by_cases hc : c = sep
    · rw [if_pos hc] at h
      rcases List.mem_cons.mp h with rfl | h
      · exact List.not_mem_nil
      · exact ih h
    · rw [if_neg hc] at h
      obtain ⟨p, ps, hps⟩ := List.exists_cons_of_ne_nil (splitOn_ne_nil sep cs)
      rw [hps] at h ih
      rcases List.mem_cons.mp h with rfl | h
      · rw [List.mem_cons, not_or]
        exact ⟨Ne.symm hc, ih (List.mem_cons_self ..)⟩
      · exact ih (List.mem_cons_of_mem _ h)

end Text

/-! ## Pieces of paths -/

namespace WrittenPath

theorem partsOf_append_slash (s t : List Char) :
    partsOf (s ++ '/' :: t) = partsOf s ++ partsOf t := by
  simp [partsOf, splitOn_append_sep]

theorem partsOf_slash (t : List Char) : partsOf ('/' :: t) = partsOf t :=
  partsOf_append_slash [] t

theorem partsOf_concat_slash (q : String) : partsOf (q ++ "/").toList = partsOf q.toList := by
  rw [String.toList_append]
  change partsOf (q.toList ++ '/' :: []) = _
  rw [partsOf_append_slash]
  exact List.append_nil _

theorem mem_partsOf {s : List Char} {x : String} (h : x ∈ partsOf s) :
    x ≠ "" ∧ x ≠ "." ∧ '/' ∉ x.toList := by
  obtain ⟨q, hq, rfl⟩ := List.mem_map.mp h
  obtain ⟨hq, hgood⟩ := List.mem_filter.mp hq
  obtain ⟨hempty, hdot⟩ := of_decide_eq_true hgood
  refine ⟨?_, ?_, ?_⟩
  · intro heq
    exact hempty (by simpa using congrArg String.toList heq)
  · intro heq
    exact hdot (by simpa using congrArg String.toList heq)
  · rw [String.toList_ofList]
    exact not_mem_of_mem_splitOn hq

/-- The components are such as reading a text gives. -/
def IsClean (p : WrittenPath) : Prop :=
  ∀ x ∈ p.parts, x ≠ "" ∧ x ≠ "." ∧ '/' ∉ x.toList

theorem isClean_ofString (s : String) : (ofString s).IsClean :=
  fun _ => mem_partsOf

theorem isClean_append {p q : WrittenPath} (hp : p.IsClean) (hq : q.IsClean) :
    (p.append q).IsClean := by
  unfold append
  split
  · exact hq
  · intro x hx
    exact (List.mem_append.mp hx).elim (hp x) (hq x)

/-- A text without a slash is at most one piece. -/
theorem partsOf_of_not_mem {s : List Char} (h : '/' ∉ s) :
    partsOf s = if s ≠ [] ∧ s ≠ ['.'] then [String.ofList s] else [] := by
  unfold partsOf
  rw [splitOn_of_not_mem h]
  by_cases hs : s ≠ [] ∧ s ≠ ['.']
  · simp [hs]
  · rw [if_neg hs, List.filter_cons_of_neg (by simpa using hs)]
    rfl

theorem anchorOf_slash_ne (s : List Char) : anchorOf ('/' :: s) ≠ "" := by
  unfold anchorOf
  split
  · decide
  · decide
  · decide
  · next h => exact absurd rfl (h s)

end WrittenPath

open WrittenPath

/-! ## Names -/

/-- Whether a file or a directory can be called so. -/
def isName (n : String) : Bool :=
  decide (n ≠ "" ∧ n ≠ "." ∧ n ≠ ".." ∧ '/' ∉ n.toList ∧ '\x00' ∉ n.toList)

theorem isName_iff {n : String} :
    isName n = true ↔ n ≠ "" ∧ n ≠ "." ∧ n ≠ ".." ∧ '/' ∉ n.toList ∧ '\x00' ∉ n.toList :=
  decide_eq_true_iff

theorem partsOf_isName {n : String} (h : isName n = true) : partsOf n.toList = [n] := by
  obtain ⟨hempty, hdot, _, hslash, _⟩ := isName_iff.mp h
  rw [partsOf_of_not_mem hslash, if_pos, String.ofList_toList]
  refine ⟨?_, ?_⟩
  · intro heq
    exact hempty (String.toList_inj.mp heq)
  · intro heq
    exact hdot (String.toList_inj.mp heq)

namespace Place

/-- Whether a place consists of names. -/
def isProper (p : Place) : Bool :=
  p.all isName

theorem isProper_iff {p : Place} : p.isProper = true ↔ ∀ n ∈ p, isName n = true :=
  List.all_eq_true

theorem dots_not_mem {p : Place} (h : p.isProper = true) : ".." ∉ p := by
  intro hmem
  exact (isName_iff.mp (isProper_iff.mp h _ hmem)).2.2.1 rfl

/-! ## Texts of places -/

theorem partsOf_intercalate (p : Place) :
    partsOf (String.intercalate "/" p).toList = p.flatMap fun n => partsOf n.toList := by
  induction p with
  | nil => rfl
  | cons n p ih =>
    cases p with
    | nil => simp
    | cons m p =>
      rw [String.intercalate_cons_cons, String.toList_append, String.toList_append,
        List.append_assoc]
      change partsOf (n.toList ++ '/' :: (String.intercalate "/" (m :: p)).toList) = _
      rw [partsOf_append_slash, ih]
      rfl

theorem partsOf_text (p : Place) : partsOf p.text.toList = p.flatMap fun n => partsOf n.toList := by
  rw [← partsOf_intercalate, text, String.toList_append]
  exact partsOf_slash _

theorem partsOf_text_of_isProper {p : Place} (h : p.isProper = true) :
    partsOf p.text.toList = p := by
  rw [partsOf_text]
  rw [isProper_iff] at h
  induction p with
  | nil => rfl
  | cons n p ih =>
    rw [List.flatMap_cons, partsOf_isName (h n (List.mem_cons_self ..)),
      ih fun m hm => h m (List.mem_cons_of_mem _ hm)]
    rfl

theorem text_injective {p q : Place} (hp : p.isProper = true) (hq : q.isProper = true)
    (h : p.text = q.text) : p = q := by
  rw [← partsOf_text_of_isProper hp, h, partsOf_text_of_isProper hq]

theorem isAbsolute_ofString_text (p : Place) : (WrittenPath.ofString p.text).isAbsolute = true := by
  refine decide_eq_true ?_
  rw [WrittenPath.ofString, text, String.toList_append]
  exact anchorOf_slash_ne _

/-! ## Following components -/

theorem foldl_follow {p : Place} {parts : List String} (h : ".." ∉ parts) :
    parts.foldl follow p = p ++ parts := by
  induction parts generalizing p with
  | nil => rw [List.foldl_nil, List.append_nil]
  | cons n parts ih =>
    rw [List.mem_cons, not_or] at h
    rw [List.foldl_cons, ih h.2, follow, if_neg (Ne.symm h.1), List.append_assoc]
    rfl

theorem mem_foldl_follow {p : Place} {parts : List String} {x : String}
    (h : x ∈ parts.foldl follow p) : x ∈ p ∨ x ∈ parts ∧ x ≠ ".." := by
  induction parts generalizing p with
  | nil => exact .inl h
  | cons n parts ih =>
    rcases ih h with hx | ⟨hx, hne⟩
    · unfold follow at hx
      split at hx
      · exact .inl (List.dropLast_subset _ hx)
      · next hn =>
        rcases List.mem_append.mp hx with hx | hx
        · exact .inl hx
        · rw [List.mem_singleton.mp hx]
          exact .inr ⟨List.mem_cons_self .., hn⟩
    · exact .inr ⟨List.mem_cons_of_mem _ hx, hne⟩

end Place

/-! ## Resolving -/

namespace Workspace

/-- Whether the current directory and the home directory are places of names. -/
def isProper (w : Workspace) : Bool :=
  w.home.isProper && w.cwd.all Place.isProper

/-- A place is reached unless there is a link on the way that leads to itself. -/
theorem reach_eq_ok {w : Workspace} {p q : Place} :
    w.reach p = .ok q ↔ w.loops p.path = false ∧ q = p := by
  unfold reach
  cases w.loops p.path with
  | true => simp
  | false => simp [eq_comm]

theorem resolve_of_isAbsolute (w : Workspace) {p : WrittenPath} (h : p.isAbsolute = true) :
    w.resolve p =
      if p.hasNull then .error .nullByte else w.reach (p.parts.foldl Place.follow []) := by
  unfold resolve
  rw [h]
  cases p.hasNull <;> rfl

theorem expand_of_isAbsolute (w : Workspace) {p : WrittenPath} (h : p.isAbsolute = true) :
    w.expand p = .ok p := by
  unfold expand
  rw [h]
  cases p.parts <;> rfl

theorem hasNull_eq_false {p : WrittenPath} :
    p.hasNull = false ↔ ∀ n ∈ p.parts, '\x00' ∉ n.toList := by
  simp [WrittenPath.hasNull]

/-- A path that can be resolved has no null character, and is followed from the root when it is
    absolute, and else from the current directory, if that exists. -/
theorem of_resolve {w : Workspace} {p : WrittenPath} {q : Place} (h : w.resolve p = .ok q) :
    p.hasNull = false ∧ w.reach q = .ok q ∧ ∃ start, q = p.parts.foldl Place.follow start ∧
      (start = [] ∨ w.cwd = some start) := by
  unfold resolve at h
  cases hnull : p.hasNull with
  | true =>
    rw [hnull] at h
    cases h
  | false =>
    rw [hnull] at h
    have hstart : ∃ start, w.reach (p.parts.foldl Place.follow start) = .ok q ∧
        (start = [] ∨ w.cwd = some start) := by
      by_cases habs : p.isAbsolute = true
      · rw [habs] at h
        exact ⟨[], h, .inl rfl⟩
      · rw [Bool.not_eq_true] at habs
        rw [habs] at h
        unfold currentPlace at h
        cases hcwd : w.cwd with
        | none =>
          rw [hcwd] at h
          cases h
        | some here =>
          rw [hcwd] at h
          exact ⟨here, h, .inr rfl⟩
    obtain ⟨start, hreach, hstart⟩ := hstart
    obtain rfl := (reach_eq_ok.mp hreach).2
    exact ⟨rfl, hreach, start, rfl, hstart⟩

/-- The place that a resolved path leads to starts at the root or at the current directory, and
    goes on with the components of the path. -/
theorem mem_of_resolve {w : Workspace} {p : WrittenPath} {q : Place} (h : w.resolve p = .ok q)
    {x : String} (hx : x ∈ q) :
    (x ∈ p.parts ∧ x ≠ ".." ∧ '\x00' ∉ x.toList) ∨ ∃ here, w.cwd = some here ∧ x ∈ here := by
  obtain ⟨hnull, _, start, rfl, hstart⟩ := of_resolve h
  rcases Place.mem_foldl_follow hx with hx | ⟨hx, hne⟩
  · rcases hstart with rfl | hcwd
    · exact absurd hx List.not_mem_nil
    · exact .inr ⟨start, hcwd, hx⟩
  · exact .inl ⟨hx, hne, hasNull_eq_false.mp hnull x hx⟩

/-- The home directory is put in place of a leading `~`; the other components stay. -/
theorem mem_of_expand {w : Workspace} {p q : WrittenPath} (h : w.expand p = .ok q) {x : String}
    (hx : x ∈ q.parts) : x ∈ p.parts ∨ x ∈ w.home := by
  unfold expand at h
  split at h
  · next first rest hparts =>
    split at h
    · cases h
      exact .inl hx
    · split at h
      · cases h
        rw [hparts]
        exact (List.mem_append.mp hx).symm.imp (List.mem_cons_of_mem _) id
      · cases h
  · cases h
    exact .inl hx

theorem isClean_expand {w : Workspace} (hw : w.isProper = true) {p q : WrittenPath}
    (hp : p.IsClean) (h : w.expand p = .ok q) : q.IsClean := by
  intro x hx
  rcases mem_of_expand h hx with hx | hx
  · exact hp x hx
  · have hhome := (Bool.and_eq_true_iff.mp hw).1
    obtain ⟨hempty, hdot, _, hslash, _⟩ := isName_iff.mp (Place.isProper_iff.mp hhome x hx)
    exact ⟨hempty, hdot, hslash⟩

/-- **Whatever can be resolved is a place of names.** -/
theorem isProper_resolve {w : Workspace} (hw : w.isProper = true) {p : WrittenPath}
    (hp : p.IsClean) {q : Place} (h : w.resolve p = .ok q) : q.isProper = true := by
  rw [Place.isProper_iff]
  intro x hx
  -- a component comes from the path or from the current directory
  rcases mem_of_resolve h hx with ⟨hpart, hdots, hnull⟩ | ⟨here, hhere, hx⟩
  · obtain ⟨hempty, hdot, hslash⟩ := hp x hpart
    exact isName_iff.mpr ⟨hempty, hdot, hdots, hslash, hnull⟩
  · have hcwd := (Bool.and_eq_true_iff.mp hw).2
    rw [hhere] at hcwd
    exact Place.isProper_iff.mp hcwd x hx

/-- The place of a text is that of a path, with the home directory in place of a leading `~`. -/
theorem of_placeOf {w : Workspace} {s : String} {q : Place} (h : w.placeOf s = .ok q) :
    ∃ p, w.expand (.ofString s) = .ok p ∧ w.resolve p = .ok q := by
  unfold placeOf at h
  cases hexp : w.expand (.ofString s) with
  | error e =>
    rw [hexp] at h
    cases h
  | ok p =>
    rw [hexp] at h
    exact ⟨p, rfl, h⟩

theorem isProper_placeOf {w : Workspace} (hw : w.isProper = true) {s : String} {q : Place}
    (h : w.placeOf s = .ok q) : q.isProper = true := by
  obtain ⟨p, hexp, hres⟩ := of_placeOf h
  exact isProper_resolve hw (isClean_expand hw (isClean_ofString s) hexp) hres

/-- **The place of a text is reached.** -/
theorem reach_of_placeOf {w : Workspace} {s : String} {q : Place} (h : w.placeOf s = .ok q) :
    w.reach q = .ok q := by
  obtain ⟨p, _, hres⟩ := of_placeOf h
  exact (of_resolve hres).2.1

theorem hasNull_ofString_text {p : Place} (h : p.isProper = true) :
    (WrittenPath.ofString p.text).hasNull = false := by
  rw [hasNull_eq_false, WrittenPath.ofString, Place.partsOf_text_of_isProper h]
  intro n hn
  exact (isName_iff.mp (Place.isProper_iff.mp h n hn)).2.2.2.2

/-- **The text of a place leads to the place,** if it is reached. -/
theorem placeOf_text (w : Workspace) {p : Place} (h : p.isProper = true) :
    w.placeOf p.text = w.reach p := by
  have habs := Place.isAbsolute_ofString_text p
  have hparts : (WrittenPath.ofString p.text).parts = p := Place.partsOf_text_of_isProper h
  unfold placeOf
  rw [expand_of_isAbsolute w habs]
  change w.resolve (WrittenPath.ofString p.text) = _
  rw [resolve_of_isAbsolute w habs, hasNull_ofString_text h, hparts,
    Place.foldl_follow (Place.dots_not_mem h)]
  rfl

end Workspace

end SpringRoutes
