import SpringRoutes.Proofs.Entries
import SpringRoutes.Workspace.Tree

/-!
# `SpringRoutes.Proofs.Trees` — looking up, putting and removing in file trees

`find?`, `set` and `erase` follow a way from the root of a tree. Two ways either lie **apart**, so
that a change at the end of one is not seen at the end of the other (`find?_set_of_apart`,
`find?_erase_of_apart`), or one of them starts with the other (`find?_set_append`,
`find?_erase_append`).

* `every` checks all names and all contents of a tree, and what passes survives all operations
  (`every_find?`, `every_set`, `every_erase`);
* `without` leaves out the directories of one name, at any depth. It commutes with every operation
  on a way that does not mention the name (`find?_without`, `without_set`, `without_erase`), and
  what happens inside such a directory does not change it (`without_set_hidden`).
-/

namespace SpringRoutes

namespace Tree

/-! ## Entries -/

@[simp] theorem entries_dir (es : List (String × Tree)) : (dir es).entries = es := rfl

/-- A tree with an entry is a directory. -/
theorem eq_dir_of_lookup {t u : Tree} {name : String} (h : t.entries.lookup name = some u) :
    t = .dir t.entries := by
  cases t with
  | file c => cases h
  | loop => cases h
  | dir es => rfl

/-- What is found at the end of a way is no link to itself. -/
theorem bind_followed?_eq_some {o : Option Tree} {u : Tree} :
    o.bind followed? = some u ↔ o = some u ∧ u ≠ .loop := by
  cases o with
  | none => simp
  | some t => cases t <;> cases u <;> simp [followed?]

/-! ## Ways -/

theorem find?_append (t : Tree) (p q : List String) :
    t.find? (p ++ q) = (t.find? p).bind fun u => u.find? q := by
  induction p generalizing t with
  | nil => rfl
  | cons n p ih =>
    simp only [List.cons_append, find?]
    cases t.entries.lookup n with
    | none => rfl
    | some u => exact ih u

/-- The entries of a directory are one step further. -/
theorem find?_child {t : Tree} {p : List String} {es : List (String × Tree)}
    (h : t.find? p = some (.dir es)) (name : String) :
    t.find? (p ++ [name]) = es.lookup name := by
  rw [find?_append, h, Option.bind_some, find?, entries_dir]
  cases es.lookup name <;> rfl

/-- Beyond what is no directory there is nothing. -/
theorem find?_append_of_entries {t u : Tree} {p : List String} (h : t.find? p = some u)
    (hu : u.entries = []) (n : String) (q : List String) : t.find? (p ++ n :: q) = none := by
  rw [find?_append, h, Option.bind_some, find?, hu]
  rfl

/-- What is one step further than a place is in a directory. -/
theorem exists_dir_of_find?_concat {t u : Tree} {p : List String} {name : String}
    (h : t.find? (p ++ [name]) = some u) : ∃ es, t.find? p = some (.dir es) := by
  rw [find?_append] at h
  obtain ⟨v, hv, hfind⟩ := Option.bind_eq_some_iff.mp h
  obtain ⟨x, hx, _⟩ := Option.bind_eq_some_iff.mp hfind
  exact ⟨v.entries, hv.trans (congrArg some (eq_dir_of_lookup hx))⟩

theorem find?_set_append (t u : Tree) (p q : List String) :
    (t.set p u).find? (p ++ q) = u.find? q := by
  induction p generalizing t with
  | nil => rfl
  | cons n p ih =>
    simp only [List.cons_append, set, find?, entries_dir, Entries.lookup_put_self,
      Option.bind_some]
    exact ih _

theorem find?_set_self (t u : Tree) (p : List String) : (t.set p u).find? p = some u := by
  have h := find?_set_append t u p []
  rwa [List.append_nil] at h

/-- What is put at the end of one way is not seen at the end of another. -/
theorem find?_set_of_apart (t u : Tree) {p q : List String} (hpq : ¬ p <+: q) (hqp : ¬ q <+: p) :
    (t.set p u).find? q = t.find? q := by
  induction p generalizing t q with
  | nil => exact absurd List.nil_prefix hpq
  | cons n p ih =>
    cases q with
    | nil => exact absurd List.nil_prefix hqp
    | cons m q =>
      simp only [set, find?, entries_dir]
      by_cases hm : m = n
      · subst hm
        rw [List.cons_prefix_cons] at hpq hqp
        rw [Entries.lookup_put_self, Option.bind_some, ih _ (fun h => hpq ⟨rfl, h⟩)
          (fun h => hqp ⟨rfl, h⟩)]
        cases t.entries.lookup m with
        | some v => rfl
        | none =>
          -- a directory made on the way holds nothing else
          cases q with
          | nil => exact absurd ⟨rfl, List.nil_prefix⟩ hqp
          | cons k q => rfl
      · rw [Entries.lookup_put_of_ne _ hm]

theorem set_append {t u : Tree} {p : List String} (h : t.find? p = some u) (q : List String)
    (v : Tree) : t.set (p ++ q) v = t.set p (u.set q v) := by
  induction p generalizing t with
  | nil =>
    cases h
    rfl
  | cons n p ih =>
    obtain ⟨w, hw, hu⟩ := Option.bind_eq_some_iff.mp h
    simp only [List.cons_append, set, hw, Option.getD_some]
    rw [ih hu]

theorem set_set (t u v : Tree) (p : List String) : (t.set p u).set p v = t.set p v := by
  induction p generalizing t with
  | nil => rfl
  | cons n p ih =>
    simp only [set, entries_dir, Entries.lookup_put_self, Option.getD_some,
      Entries.put_put]
    rw [ih]

theorem set_find? {t u : Tree} {p : List String} (h : t.find? p = some u) : t.set p u = t := by
  induction p generalizing t with
  | nil =>
    cases h
    rfl
  | cons n p ih =>
    obtain ⟨w, hw, hu⟩ := Option.bind_eq_some_iff.mp h
    simp only [set, hw, Option.getD_some]
    rw [ih hu, Entries.put_of_lookup hw]
    exact (eq_dir_of_lookup hw).symm

theorem find?_erase_append (t : Tree) (p : List String) {q : List String} (hq : q ≠ []) :
    (t.erase p).find? (p ++ q) = none := by
  fun_induction erase t p with
  | case1 t =>
    obtain ⟨m, q, rfl⟩ := List.exists_cons_of_ne_nil hq
    rfl
  | case2 t n =>
    simp only [List.cons_append, find?, entries_dir]
    rw [Entries.lookup_drop_self]
    rfl
  | case3 t n ns _ u hu ih =>
    simp only [List.cons_append, find?, entries_dir, Entries.lookup_put_self,
      Option.bind_some]
    exact ih
  | case4 t n ns _ hu =>
    simp only [List.cons_append, find?, hu]
    rfl

theorem find?_erase_of_apart (t : Tree) {p q : List String} (hpq : ¬ p <+: q) (hqp : ¬ q <+: p) :
    (t.erase p).find? q = t.find? q := by
  -- not by the recursion of `erase`: both ways are taken apart together
  induction p generalizing t q with
  | nil => exact absurd List.nil_prefix hpq
  | cons n p ih =>
    cases q with
    | nil => exact absurd List.nil_prefix hqp
    | cons m q =>
      rw [List.cons_prefix_cons] at hpq hqp
      cases p with
      | nil =>
        have hm : m ≠ n := fun h => hpq ⟨h.symm, List.nil_prefix⟩
        simp only [erase, find?, entries_dir]
        rw [Entries.lookup_drop_of_ne hm]
      | cons k p =>
        cases hl : t.entries.lookup n with
        | none => simp only [erase, hl]
        | some u =>
          simp only [erase, hl, find?, entries_dir]
          by_cases hm : m = n
          · subst hm
            rw [Entries.lookup_put_self, hl, Option.bind_some, Option.bind_some,
              ih u (fun h => hpq ⟨rfl, h⟩) (fun h => hqp ⟨rfl, h⟩)]
          · rw [Entries.lookup_put_of_ne _ hm]

/-! ## Checking names and contents -/

mutual

/-- Whether all names and all contents in a tree pass. A link has no content. -/
def every (name : String → Bool) (content : Option Content → Bool) : Tree → Bool
  | .file c => content (some c)
  | .loop => content none
  | .dir es => everyEntry name content es

/-- Whether all names and all contents in entries pass. -/
def everyEntry (name : String → Bool) (content : Option Content → Bool) :
    List (String × Tree) → Bool
  | [] => true
  | (n, t) :: rest => name n && every name content t && everyEntry name content rest

end

section Every

variable {name : String → Bool} {content : Option Content → Bool}

theorem everyEntry_iff {es : List (String × Tree)} :
    everyEntry name content es = true ↔
      ∀ e ∈ es, name e.1 = true ∧ e.2.every name content = true := by
  induction es with
  | nil => simp [everyEntry]
  | cons e es ih =>
    obtain ⟨n, t⟩ := e
    simp [everyEntry, ih]

theorem every_dir {es : List (String × Tree)} :
    (dir es).every name content = true ↔
      ∀ e ∈ es, name e.1 = true ∧ e.2.every name content = true := by
  rw [every]
  exact everyEntry_iff

/-- The entries of a tree that passes do so, also when it is a file and has none. -/
theorem every_of_mem_entries {t : Tree} (h : t.every name content = true) {e : String × Tree}
    (he : e ∈ t.entries) : name e.1 = true ∧ e.2.every name content = true := by
  cases t with
  | file c => cases he
  | loop => cases he
  | dir es => exact every_dir.mp h e he

theorem every_find? {t u : Tree} {p : List String} (h : t.every name content = true)
    (hf : t.find? p = some u) : u.every name content = true ∧ ∀ n ∈ p, name n = true := by
  induction p generalizing t with
  | nil =>
    cases hf
    exact ⟨h, fun n hn => absurd hn List.not_mem_nil⟩
  | cons m p ih =>
    obtain ⟨v, hv, hf⟩ := Option.bind_eq_some_iff.mp hf
    obtain ⟨hm, hev⟩ := every_of_mem_entries h (Entries.mem_of_lookup hv)
    obtain ⟨hu, hp⟩ := ih hev hf
    refine ⟨hu, ?_⟩
    intro n hn
    rcases List.mem_cons.mp hn with rfl | hn
    · exact hm
    · exact hp n hn

/-- A way with a name that does not pass leads nowhere. -/
theorem find?_eq_none_of_every {t : Tree} {p : List String} (h : t.every name content = true)
    {n : String} (hn : n ∈ p) (hbad : name n = false) : t.find? p = none := by
  cases hf : t.find? p with
  | none => rfl
  | some u =>
    have hgood := (every_find? h hf).2 n hn
    rw [hbad] at hgood
    cases hgood

theorem every_put {es : List (String × Tree)} {n : String} {u : Tree}
    (h : ∀ e ∈ es, name e.1 = true ∧ e.2.every name content = true) (hn : name n = true)
    (hu : u.every name content = true) : (dir (Entries.put es n u)).every name content = true := by
  rw [every_dir]
  intro e he
  rcases Entries.mem_put he with rfl | he
  · exact ⟨hn, hu⟩
  · exact h e he

theorem every_set {t u : Tree} {p : List String} (ht : t.every name content = true)
    (hp : ∀ n ∈ p, name n = true) (hu : u.every name content = true) :
    (t.set p u).every name content = true := by
  induction p generalizing t with
  | nil => exact hu
  | cons n p ih =>
    rw [set]
    refine every_put (fun e he => every_of_mem_entries ht he) (hp n (List.mem_cons_self ..)) ?_
    refine ih ?_ fun m hm => hp m (List.mem_cons_of_mem _ hm)
    cases hl : t.entries.lookup n with
    | none => rfl
    | some v => exact (every_of_mem_entries ht (Entries.mem_of_lookup hl)).2

theorem every_erase {t : Tree} (p : List String) (ht : t.every name content = true) :
    (t.erase p).every name content = true := by
  fun_induction erase t p with
  | case1 t => rfl
  | case2 t n =>
    rw [every_dir]
    intro e he
    exact every_of_mem_entries ht (List.mem_filter.mp he).1
  | case3 t n ns _ u hu ih =>
    obtain ⟨hn, hev⟩ := every_of_mem_entries ht (Entries.mem_of_lookup hu)
    exact every_put (fun e he => every_of_mem_entries ht he) hn (ih hev)
  | case4 t n ns _ hu => exact ht

end Every

mutual

/-- What passes a strict check passes a lenient one. -/
theorem every_mono {name name' : String → Bool} {content content' : Option Content → Bool}
    (hname : ∀ n, name n = true → name' n = true)
    (hcontent : ∀ c, content c = true → content' c = true) (t : Tree)
    (h : t.every name content = true) : t.every name' content' = true := by
  match t with
  | .file c => exact hcontent (some c) h
  | .loop => exact hcontent none h
  | .dir es => exact everyEntry_mono hname hcontent es h

theorem everyEntry_mono {name name' : String → Bool} {content content' : Option Content → Bool}
    (hname : ∀ n, name n = true → name' n = true)
    (hcontent : ∀ c, content c = true → content' c = true) (es : List (String × Tree))
    (h : everyEntry name content es = true) : everyEntry name' content' es = true := by
  match es with
  | [] => rfl
  | (n, t) :: es =>
    rw [everyEntry, Bool.and_eq_true, Bool.and_eq_true] at h ⊢
    obtain ⟨⟨hn, ht⟩, hes⟩ := h
    exact ⟨⟨hname n hn, every_mono hname hcontent t ht⟩, everyEntry_mono hname hcontent es hes⟩

end

/-! ## Leaving out the directories of a name -/

mutual

/-- The tree without the directories called `name`, at any depth. -/
def without (name : String) : Tree → Tree
  | .file c => .file c
  | .loop => .loop
  | .dir es => .dir (withoutEntries name es)

/-- The entries without the directories called `name`, at any depth. -/
def withoutEntries (name : String) : List (String × Tree) → List (String × Tree)
  | [] => []
  | (n, t) :: rest =>
    if n = name ∧ t.isDir then withoutEntries name rest
    else (n, without name t) :: withoutEntries name rest

end

section Without

variable {name : String}

theorem isDir_without (t : Tree) : (t.without name).isDir = t.isDir := by
  cases t <;> rfl

theorem followed?_without (t : Tree) :
    (t.without name).followed? = t.followed?.map (without name) := by
  cases t <;> rfl

theorem entries_without (t : Tree) : (t.without name).entries = withoutEntries name t.entries := by
  cases t with
  | file c => rfl
  | loop => rfl
  | dir es => rfl

theorem withoutEntries_cons_of_ne {n : String} (hn : n ≠ name) (t : Tree)
    (es : List (String × Tree)) :
    withoutEntries name ((n, t) :: es) = (n, t.without name) :: withoutEntries name es := by
  rw [withoutEntries, if_neg fun h => hn h.1]

theorem withoutEntries_cons_hidden {t : Tree} (ht : t.isDir = true) (es : List (String × Tree)) :
    withoutEntries name ((name, t) :: es) = withoutEntries name es := by
  rw [withoutEntries, if_pos ⟨rfl, ht⟩]

theorem lookup_withoutEntries {n : String} (hn : n ≠ name) (es : List (String × Tree)) :
    (withoutEntries name es).lookup n = (es.lookup n).map (without name) := by
  induction es with
  | nil => rfl
  | cons e es ih =>
    obtain ⟨m, t⟩ := e
    by_cases hm : m = n
    · subst hm
      rw [withoutEntries_cons_of_ne hn, List.lookup_cons_self, List.lookup_cons_self,
        Option.map_some]
    · have hne : (n == m) = false := beq_eq_false_iff_ne.mpr (Ne.symm hm)
      rw [withoutEntries, List.lookup_cons, hne]
      by_cases hhidden : m = name ∧ t.isDir
      · rw [if_pos hhidden]
        exact ih
      · rw [if_neg hhidden, List.lookup_cons, hne]
        exact ih

theorem withoutEntries_put {n : String} (hn : n ≠ name) (es : List (String × Tree))
    (u : Tree) :
    withoutEntries name (Entries.put es n u)
      = Entries.put (withoutEntries name es) n (u.without name) := by
  induction es with
  | nil =>
    rw [Entries.put, withoutEntries_cons_of_ne hn]
    rfl
  | cons e es ih =>
    obtain ⟨m, t⟩ := e
    by_cases hm : m = n
    · subst hm
      rw [Entries.put, if_pos rfl, withoutEntries_cons_of_ne hn, withoutEntries_cons_of_ne hn,
        Entries.put, if_pos rfl]
    · rw [Entries.put, if_neg hm, withoutEntries, withoutEntries]
      by_cases hhidden : m = name ∧ t.isDir
      · rw [if_pos hhidden, if_pos hhidden]
        exact ih
      · rw [if_neg hhidden, if_neg hhidden, Entries.put, if_neg hm, ih]

theorem withoutEntries_drop {n : String} (hn : n ≠ name) (es : List (String × Tree)) :
    withoutEntries name (Entries.drop es n) = Entries.drop (withoutEntries name es) n := by
  unfold Entries.drop
  induction es with
  | nil => rfl
  | cons e es ih =>
    obtain ⟨m, t⟩ := e
    by_cases hm : m = n
    · subst hm
      rw [List.filter_cons_of_neg (by simp), withoutEntries_cons_of_ne hn,
        List.filter_cons_of_neg (by simp)]
      exact ih
    · rw [List.filter_cons_of_pos (by simpa using hm), withoutEntries, withoutEntries]
      by_cases hhidden : m = name ∧ t.isDir
      · rw [if_pos hhidden, if_pos hhidden]
        exact ih
      · rw [if_neg hhidden, if_neg hhidden, List.filter_cons_of_pos (by simpa using hm), ih]

theorem find?_without {p : List String} (h : name ∉ p) (t : Tree) :
    (t.without name).find? p = (t.find? p).map (without name) := by
  induction p generalizing t with
  | nil => rfl
  | cons n p ih =>
    rw [List.mem_cons, not_or] at h
    simp only [find?]
    rw [entries_without, lookup_withoutEntries (Ne.symm h.1)]
    cases t.entries.lookup n with
    | none => rfl
    | some u => exact ih h.2 u

theorem without_set {p : List String} (h : name ∉ p) (t u : Tree) :
    (t.set p u).without name = (t.without name).set p (u.without name) := by
  induction p generalizing t with
  | nil => rfl
  | cons n p ih =>
    rw [List.mem_cons, not_or] at h
    have hn : n ≠ name := Ne.symm h.1
    simp only [set, without]
    rw [entries_without, withoutEntries_put hn, lookup_withoutEntries hn, ih h.2]
    cases t.entries.lookup n with
    | none => rfl
    | some v => rfl

theorem without_erase {p : List String} (h : name ∉ p) (t : Tree) :
    (t.erase p).without name = (t.without name).erase p := by
  induction p generalizing t with
  | nil => rfl
  | cons n p ih =>
    rw [List.mem_cons, not_or] at h
    have hn : n ≠ name := Ne.symm h.1
    cases p with
    | nil =>
      simp only [erase, without]
      rw [entries_without, withoutEntries_drop hn]
    | cons k p =>
      simp only [erase]
      rw [entries_without, lookup_withoutEntries hn]
      cases t.entries.lookup n with
      | none => rfl
      | some u =>
        simp only [Option.map_some, without]
        rw [withoutEntries_put hn, ih h.2]

/-- A directory of the name is not seen, whether it was there before or not. -/
theorem withoutEntries_put_hidden {es fs : List (String × Tree)}
    (h : ∀ t, es.lookup name = some t → t.isDir = true) :
    withoutEntries name (Entries.put es name (.dir fs)) = withoutEntries name es := by
  induction es with
  | nil => rw [Entries.put, withoutEntries_cons_hidden rfl]
  | cons e es ih =>
    obtain ⟨m, t⟩ := e
    by_cases hm : m = name
    · subst hm
      have ht : t.isDir = true := h t List.lookup_cons_self
      rw [Entries.put, if_pos rfl, withoutEntries_cons_hidden rfl, withoutEntries_cons_hidden ht]
    · have hne : (name == m) = false := beq_eq_false_iff_ne.mpr (Ne.symm hm)
      rw [Entries.put, if_neg hm, withoutEntries_cons_of_ne hm, withoutEntries_cons_of_ne hm, ih]
      intro u hu
      refine h u ?_
      rw [List.lookup_cons, hne]
      exact hu

/-- What is put inside a directory of the name, or in its place, is not seen. -/
theorem without_set_hidden {t : Tree} {p : List String} {es fs : List (String × Tree)}
    (hp : name ∉ p) (hdir : t.find? p = some (.dir es))
    (h : ∀ u, t.find? (p ++ [name]) = some u → u.isDir = true) :
    (t.set (p ++ [name]) (.dir fs)).without name = t.without name := by
  have hes : ∀ u, es.lookup name = some u → u.isDir = true := by
    intro u hu
    refine h u ?_
    rw [find?_child hdir, hu]
  have hsame : (Tree.dir (Entries.put es name (.dir fs))).without name
      = (Tree.dir es).without name := by
    simp only [without]
    rw [withoutEntries_put_hidden hes]
  -- the entries around it are put back as they were
  have hlook := find?_without hp t
  rw [hdir, Option.map_some] at hlook
  rw [set_append hdir, without_set hp]
  simp only [set, entries_dir]
  rw [hsame, set_find? hlook]

mutual

/-- Nothing is left out of a tree in which nothing has the name. -/
theorem without_of_every {ok : String → Bool} {content : Option Content → Bool}
    (hok : ∀ n, ok n = true → n ≠ name) (t : Tree) (h : t.every ok content = true) :
    t.without name = t := by
  cases t with
  | file c => rfl
  | loop => rfl
  | dir es => rw [without, withoutEntries_of_every hok es h]

theorem withoutEntries_of_every {ok : String → Bool} {content : Option Content → Bool}
    (hok : ∀ n, ok n = true → n ≠ name) (es : List (String × Tree))
    (h : everyEntry ok content es = true) : withoutEntries name es = es := by
  match es with
  | [] => rfl
  | (n, t) :: es =>
    rw [everyEntry, Bool.and_eq_true, Bool.and_eq_true] at h
    obtain ⟨⟨hn, ht⟩, hes⟩ := h
    rw [withoutEntries_cons_of_ne (hok n hn), without_of_every hok t ht,
      withoutEntries_of_every hok es hes]

end

end Without

end Tree

end SpringRoutes
