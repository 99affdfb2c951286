import SpringRoutes.Proofs.SourceListing

/-!
# `SpringRoutes.Proofs.InsertedRules` — more rules find less, more exceptions find more

A rule list decides by its last rule that applies, so a rule that is put between the others may
decide, may be overruled by a later one, or may not apply at all. In each case the verdict moves in
one direction only. **A verdict stays when rules are put in that give this very verdict**
(`ignores_of_inserted`): up to any rule of the shorter list, the longer one has come to the same
verdict or to that of the rules put in, and from there on both go on alike.

The walk goes by verdicts alone. Where one list takes everything that another one takes, it enters
every directory that the other one enters and keeps every file, so it finds at least the same files
(`filesBelow_sublist`). Directories that are never entered are the same for both.
-/

namespace SpringRoutes

open Text

/-! ## Insertions -/

/-- The second list is the first one with new items put in at any places. -/
inductive Inserted {α : Type} (new : α → Prop) : List α → List α → Prop
  | nil : Inserted new [] []
  | kept {xs ys : List α} (x : α) (rest : Inserted new xs ys) : Inserted new (x :: xs) (x :: ys)
  | added {xs ys : List α} (y : α) (h : new y) (rest : Inserted new xs ys) :
      Inserted new xs (y :: ys)

namespace Inserted

variable {α β : Type} {new : α → Prop} {xs ys : List α}

theorem append_left (zs : List α) (h : Inserted new xs ys) : Inserted new (zs ++ xs) (zs ++ ys) := by
  induction zs with
  | nil => exact h
  | cons z zs ih => exact .kept z ih

/-- What the new items give is put in among what the others give. -/
theorem filterMap {f : α → Option β} {new' : β → Prop} (hnew : ∀ x y, new x → f x = some y → new' y)
    (h : Inserted new xs ys) : Inserted new' (xs.filterMap f) (ys.filterMap f) := by
  induction h with
  | nil => exact .nil
  | kept x _ ih =>
    rw [List.filterMap_cons, List.filterMap_cons]
    cases f x with
    | none => exact ih
    | some y => exact .kept y ih
  | added y hy _ ih =>
    rw [List.filterMap_cons]
    cases hf : f y with
    | none => exact ih
    | some z => exact .added z (hnew y z hy hf) ih

end Inserted

/-! ## Verdicts -/

section Verdicts

variable {rules longer : List IgnoreRule} {verdict : Bool} {path : List Char} {isDir : Bool}

/-- A rule of both lists keeps their verdicts in line. -/
theorem IgnoreRule.next_of_imp (r : IgnoreRule) {u v : Bool} (h : u = verdict → v = verdict) :
    next path isDir u r = verdict → next path isDir v r = verdict := by
  unfold next
  split
  · exact id
  · exact h

/-- A rule of the longer list alone gives the verdict, or leaves it. -/
theorem IgnoreRule.next_eq {r : IgnoreRule} (hr : (!r.negate) = verdict) {v : Bool}
    (hv : v = verdict) : next path isDir v r = verdict := by
  unfold next
  split
  · exact hr
  · exact hv

/-- Both lists, from any verdicts on that are in line. -/
theorem foldl_of_inserted (h : Inserted (fun r => (!r.negate) = verdict) rules longer) {u v : Bool}
    (huv : u = verdict → v = verdict)
    (hu : rules.foldl (IgnoreRule.next path isDir) u = verdict) :
    longer.foldl (IgnoreRule.next path isDir) v = verdict := by
  -- an insertion is all that sets the two folds apart, so the induction is on it
  induction h generalizing u v with
  | nil => exact huv hu
  | kept r _ ih => exact ih (r.next_of_imp huv) hu
  | added r hr _ ih => exact ih (fun h => IgnoreRule.next_eq hr (huv h)) hu

/-- **A verdict stays when rules are put in that give it.** -/
theorem ignores_of_inserted (h : Inserted (fun r => (!r.negate) = verdict) rules longer)
    (hrules : ignores rules path isDir = verdict) : ignores longer path isDir = verdict := by
  unfold ignores at hrules ⊢
  exact foldl_of_inserted h id hrules

end Verdicts

/-- Whatever the first rules take, the second ones take. -/
def TakesMore (rules more : List IgnoreRule) : Prop :=
  ∀ path isDir, ignores rules path isDir = false → ignores more path isDir = false

theorem takesMore_of_added {rules longer : List IgnoreRule}
    (h : Inserted (fun r => r.negate = false) rules longer) : TakesMore longer rules := by
  intro path isDir hlonger
  cases hrules : ignores rules path isDir with
  | false => rfl
  | true =>
    have hnew : Inserted (fun r => (!r.negate) = true) rules longer := by simpa using h
    rw [ignores_of_inserted hnew hrules] at hlonger
    cases hlonger

theorem takesMore_of_excepted {rules longer : List IgnoreRule}
    (h : Inserted (fun r => r.negate = true) rules longer) : TakesMore rules longer := by
  intro path isDir hrules
  have hnew : Inserted (fun r => (!r.negate) = false) rules longer := by simpa using h
  exact ignores_of_inserted hnew hrules

/-! ## The walk -/

namespace Discovery

theorem enters_of_takesMore {rules more : List IgnoreRule} (h : TakesMore rules more)
    {name path : String} (henters : enters rules name path = true) :
    enters more name path = true := by
  rw [enters_iff] at henters ⊢
  exact ⟨henters.1, h _ _ henters.2⟩

mutual

/-- **A walk by rules that take more finds more**, in the same order. -/
theorem filesBelow_sublist {rules more : List IgnoreRule} (h : TakesMore rules more) (path : String)
    (es : List (String × Tree)) : (filesBelow rules path es).Sublist (filesBelow more path es) := by
  match es with
  | [] => exact .slnil
  | (name, t) :: es =>
    rw [filesBelow, filesBelow]
    exact (filesAt_sublist h path name t).append (filesBelow_sublist h path es)

theorem filesAt_sublist {rules more : List IgnoreRule} (h : TakesMore rules more)
    (path name : String) (t : Tree) :
    (filesAt rules path name t).Sublist (filesAt more path name t) := by
  match t with
  | .file _ | .loop =>
    rw [filesAt, filesAt]
    cases hrules : ignores rules (path ++ name).toList false with
    | true => exact List.nil_sublist _
    | false =>
      have hmore : ignores more (path ++ name).toList false = false := h _ _ hrules
      simp only [hmore, List.Sublist.refl]
  | .dir es =>
    rw [filesAt, filesAt]
    by_cases henters : enters rules name (path ++ name) = true
    · rw [if_pos henters, if_pos (enters_of_takesMore h henters)]
      exact filesBelow_sublist h _ es
    · rw [if_neg henters]
      exact List.nil_sublist _

end

theorem files_sublist {rules more : List IgnoreRule} (h : TakesMore rules more)
    (extensions : List String) (t : Tree) :
    (files rules extensions t).Sublist (files more extensions t) :=
  (filesBelow_sublist h "" t.entries).filter _

/-! ## Discovery -/

theorem sources_subset {w : Workspace} {root : Place} {s more : Settings}
    (hextensions : more.extensions = s.extensions)
    (h : TakesMore (rules w root s.excludes) (rules w root more.excludes)) :
    sources w root s ⊆ sources w root more := by
  intro f hf
  unfold sources at hf ⊢
  rw [List.mem_mergeSort, List.mem_map] at hf ⊢
  obtain ⟨g, hg, rfl⟩ := hf
  refine ⟨g, ?_, rfl⟩
  cases ht : w.tree.find? root with
  | none =>
    rw [ht] at hg
    exact absurd hg List.not_mem_nil
  | some t =>
    rw [ht] at hg
    rw [hextensions]
    exact (files_sublist h s.extensions t).subset hg

/-- The rule of a line, if there is one, is an exception or none, as the flag says. -/
def Writes (negate : Bool) (line : String) : Prop :=
  ∀ r, IgnoreRule.parse? line.toList = some r → r.negate = negate

instance (negate : Bool) (line : String) : Decidable (Writes negate line) :=
  decidable_of_iff ((IgnoreRule.parse? line.toList).all (·.negate == negate) = true)
    (by simp [Writes, Option.all_eq_true])

/-- Lines that are put into the settings put rules after those of the ignore file. -/
theorem rules_of_inserted (w : Workspace) (root : Place) {negate : Bool} {lines longer : List String}
    (h : Inserted (Writes negate) lines longer) :
    Inserted (fun r => r.negate = negate) (rules w root lines) (rules w root longer) := by
  unfold rules IgnoreRule.ofLines
  simp only [List.filterMap_append, List.filterMap_map]
  refine (h.filterMap ?_).append_left _
  intro line r hline hr
  exact hline r hr

/-- **Ignore rules act monotonically on discovery.** Take any tree, extensions and rules, and put in
    further rules at any places. If none of them is an exception, no other files are found than before;
    if all of them are, no file is lost. So it is with the lines that the settings of a project
    exclude, whatever its ignore file says. -/
theorem found_of_inserted :
    (∀ (extensions : List String) (t : Tree) (rules longer : List IgnoreRule),
      (Inserted (fun r => r.negate = false) rules longer →
        files longer extensions t ⊆ files rules extensions t) ∧
      (Inserted (fun r => r.negate = true) rules longer →
        files rules extensions t ⊆ files longer extensions t)) ∧
    ∀ (w : Workspace) (path : String) (root : Place), w.placeOf path = .ok root →
      checkProject w root path = .ok () → ∀ s s' : Settings, s'.extensions = s.extensions →
      ∃ found found', (find w path (some s)).result = .ok found ∧
        (find w path (some s')).result = .ok found' ∧
        (Inserted (Writes false) s.excludes s'.excludes → found' ⊆ found) ∧
        (Inserted (Writes true) s.excludes s'.excludes → found ⊆ found') := by
  refine ⟨fun extensions t rules longer => ⟨fun h => ?_, fun h => ?_⟩, ?_⟩
  · exact (files_sublist (takesMore_of_added h) extensions t).subset
  · exact (files_sublist (takesMore_of_excepted h) extensions t).subset
  · intro w path root hroot hcheck s s' hextensions
    refine ⟨_, _, result_find hroot hcheck rfl, result_find hroot hcheck rfl, fun h => ?_, fun h => ?_⟩
    · exact sources_subset hextensions.symm (takesMore_of_added (rules_of_inserted w root h))
    · exact sources_subset hextensions (takesMore_of_excepted (rules_of_inserted w root h))

/-- A rule for directories goes in front and one for a file in between; the exception at the end
    overrules neither. The other way round, a comment and one more exception bring a file back. -/
theorem found_of_inserted_shop :
    let shop : List (String × Tree) :=
      [("ATest.java", .file (.text "")),
       ("KeptTest.java", .file (.text "")),
       (".gitignore", .file (.text "*Test.java")),
       ("web", .dir [("B.java", .file (.text "")), ("old", .dir [("C.java", .file (.text ""))])])]
    let w : Workspace :=
      { tree := .dir [("shop", .dir shop)]
        cwd := some ["shop"]
        home := ["home"]
        now := { year := 2024, month := 1, day := 1 } }
    let s : Settings := { root := "/shop", excludes := ["!KeptTest.java"] }
    let less : Settings := { s with excludes := ["old/", "!KeptTest.java", "/web/B.java"] }
    let more : Settings := { s with excludes := ["!KeptTest.java", "# none", "!A*"] }
    let filesBy (s : Settings) := files (rules w ["shop"] s.excludes) s.extensions (.dir shop)
    w.placeOf "." = .ok ["shop"] ∧ checkProject w ["shop"] "." = .ok () ∧
      filesBy s = ["KeptTest.java", "web/B.java", "web/old/C.java"] ∧
      filesBy less = ["KeptTest.java"] ∧
      filesBy more = ["ATest.java", "KeptTest.java", "web/B.java", "web/old/C.java"] ∧
      filesBy less ⊆ filesBy s ∧ filesBy s ⊆ filesBy more ∧
      ∃ found foundLess, (find w "." (some s)).result = .ok found ∧
        (find w "." (some less)).result = .ok foundLess ∧ foundLess ⊆ found := by
  intro shop w s less more filesBy
  have hroot : w.placeOf "." = .ok ["shop"] := by decide +kernel
  have hcheck : checkProject w ["shop"] "." = .ok () := by decide +kernel
  have hless : Inserted (Writes false) s.excludes less.excludes :=
    .added _ (by decide +kernel) (.kept _ (.added _ (by decide +kernel) .nil))
  have hmore : Inserted (Writes true) s.excludes more.excludes :=
    .kept _ (.added _ (by decide +kernel) (.added _ (by decide +kernel) .nil))
  obtain ⟨hfiles, hfind⟩ := found_of_inserted
  obtain ⟨found, foundLess, hs, hs', hsubset, _⟩ := hfind w "." ["shop"] hroot hcheck s less rfl
  refine ⟨hroot, hcheck, by decide +kernel, by decide +kernel, by decide +kernel, ?_, ?_,
    found, foundLess, hs, hs', hsubset hless⟩
  · exact (hfiles _ _ _ _).1 (rules_of_inserted w ["shop"] hless)
  · exact (hfiles _ _ _ _).2 (rules_of_inserted w ["shop"] hmore)

end Discovery

end SpringRoutes
