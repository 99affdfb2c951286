import SpringRoutes.Proofs.Relisting
import SpringRoutes.Proofs.ScanReads
import SpringRoutes.Proofs.Sorting

/-!
# `SpringRoutes.Proofs.SourceListing` — discovery lists the filtered tree

Discovery walks down a tree and decides at each directory whether to enter it. What it finds is said
here without a walk: `IsSource` looks at one way through the tree, and asks that no directory on it is
pruned or ignored, that the file at its end is not ignored, and that the file has a wanted suffix.
Discovery lists exactly these files, each once and in order (`find_exact`).

The step is `passes_cons`: the verdict about a way is the verdict about its first name, and that about
the rest of it seen from one directory further down. The walk follows it directory by directory
(`mem_filesBelow_iff`), with the path from the root growing along. Names that are distinct in each
directory make the files distinct (`nodup_filesBelow`), and so the order of the listing strict; the
order in which a disk lists its directories is then of no account (`Relisting`).
-/

namespace SpringRoutes

open Text WrittenPath

/-! ## The end of a text -/

namespace Text

theorem takeWhile_ne_of_not_mem {c : Char} {s : List Char} (h : c ∉ s) :
    s.takeWhile (· != c) = s := by
  induction s with
  | nil => rfl
  | cons d s ih =>
    rw [List.mem_cons, not_or] at h
    rw [List.takeWhile_cons, if_pos (bne_iff_ne.mpr (Ne.symm h.1)), ih h.2]

/-- What follows the last `c` of a text. -/
theorem afterLast_append {c : Char} (s : List Char) {t : List Char} (h : c ∉ t) :
    ((s ++ c :: t).reverse.takeWhile (· != c)).reverse = t := by
  have hall : ∀ d ∈ t.reverse, (d != c) = true := by
    intro d hd
    rw [bne_iff_ne]
    rintro rfl
    exact h (List.mem_reverse.mp hd)
  rw [List.reverse_append, List.reverse_cons, List.append_assoc,
    List.takeWhile_append_of_pos hall]
  simp

theorem afterLast_of_not_mem {c : Char} {t : List Char} (h : c ∉ t) :
    (t.reverse.takeWhile (· != c)).reverse = t := by
  rw [takeWhile_ne_of_not_mem fun hmem => h (List.mem_reverse.mp hmem), List.reverse_reverse]

end Text

/-- The last suffix of a name is its last dot with what follows. A dot at the start or at the end of
    the name begins none. -/
inductive LastSuffix : String → String → Prop
  | dotted (stem tail : String) (hstem : stem ≠ "") (htail : tail ≠ "") (hdot : '.' ∉ tail.toList) :
      LastSuffix (stem ++ "." ++ tail) ("." ++ tail)
  | none (name : String) (h : ∀ stem tail : String, name = stem ++ "." ++ tail →
      '.' ∉ tail.toList → stem = "" ∨ tail = "") : LastSuffix name ""

theorem extension_dotted (stem : String) {tail : String} (h : '.' ∉ tail.toList) :
    extension (stem ++ "." ++ tail) = if stem = "" ∨ tail = "" then "" else "." ++ tail := by
  have hlist : (stem ++ "." ++ tail).toList = stem.toList ++ '.' :: tail.toList := by simp
  unfold extension
  simp only [hlist, afterLast_append _ h]
  have hcond : (tail.toList.length = 0 ∨
      (stem.toList ++ '.' :: tail.toList).length ≤ tail.toList.length + 1) ↔
        (stem = "" ∨ tail = "") := by
    rw [List.length_append, List.length_cons, ← String.toList_eq_nil_iff,
      ← String.toList_eq_nil_iff, ← List.length_eq_zero_iff, ← List.length_eq_zero_iff]
    omega
  simp only [hcond]
  split
  · rfl
  · exact String.toList_inj.mp (by simp)

theorem extension_of_not_mem {name : String} (h : '.' ∉ name.toList) : extension name = "" := by
  unfold extension
  simp only [afterLast_of_not_mem h]
  rw [if_pos (.inr (Nat.le_succ _))]

/-- A name with a dot is cut at the last one. -/
theorem exists_dotted {name : String} (h : '.' ∈ name.toList) :
    ∃ stem tail : String, name = stem ++ "." ++ tail ∧ '.' ∉ tail.toList := by
  obtain ⟨as, bs, heq, hnot⟩ := List.eq_append_cons_of_mem (List.mem_reverse.mpr h)
  refine ⟨String.ofList bs.reverse, String.ofList as.reverse, ?_, ?_⟩
  · have hname : name.toList = bs.reverse ++ '.' :: as.reverse := by
      rw [← List.reverse_reverse name.toList, heq]
      simp
    exact String.toList_inj.mp (by simp [hname])
  · simpa using hnot

/-- **Every name has one last suffix**, which `extension` gives. -/
theorem lastSuffix_iff {name suffix : String} : LastSuffix name suffix ↔ suffix = extension name := by
  constructor
  · intro h
    cases h with
    | dotted stem tail hstem htail hdot =>
      rw [extension_dotted stem hdot, if_neg (not_or.mpr ⟨hstem, htail⟩)]
    | none _ h =>
      by_cases hmem : '.' ∈ name.toList
      · obtain ⟨stem, tail, rfl, hdot⟩ := exists_dotted hmem
        rw [extension_dotted stem hdot, if_pos (h stem tail rfl hdot)]
      · rw [extension_of_not_mem hmem]
  · rintro rfl
    by_cases hmem : '.' ∈ name.toList
    · obtain ⟨stem, tail, rfl, hdot⟩ := exists_dotted hmem
      rw [extension_dotted stem hdot]
      by_cases hends : stem = "" ∨ tail = ""
      · rw [if_pos hends]
        refine .none _ ?_
        intro stem' tail' heq hdot'
        -- what follows the last dot is the same in both readings
        have hlists := congrArg String.toList heq
        simp only [String.toList_append, List.append_assoc] at hlists
        have htails := congrArg
          (fun s : List Char => (s.reverse.takeWhile (· != '.')).reverse) hlists
        have hsame : tail = tail' := by
          refine String.toList_inj.mp ?_
          rw [← afterLast_append stem.toList hdot, ← afterLast_append stem'.toList hdot']
          exact htails
        subst hsame
        have hstems : stem = stem' := by
          refine String.toList_inj.mp ?_
          exact List.append_cancel_right hlists
        rwa [← hstems]
      · rw [if_neg hends]
        rw [not_or] at hends
        exact .dotted stem tail hends.1 hends.2 hdot
    · rw [extension_of_not_mem hmem]
      refine .none _ ?_
      rintro stem tail rfl _
      exact absurd (by simp) hmem

namespace Discovery

/-! ## Ways and their paths -/

/-- The path along a way, from where the way starts. -/
def relative (way : List String) : String :=
  String.intercalate "/" way

/-- What the paths in the directory at the end of a way start with. -/
def folder (way : List String) : String :=
  if way = [] then "" else relative way ++ "/"

theorem relative_concat (way : List String) (name : String) :
    relative (way ++ [name]) = folder way ++ name := by
  unfold relative folder
  by_cases h : way = []
  · rw [if_pos h, h, List.nil_append, String.intercalate_singleton, String.empty_append]
  · rw [if_neg h, String.intercalate_append_of_ne_nil h (List.cons_ne_nil _ _),
      String.intercalate_singleton]
    rfl

theorem folder_concat (way : List String) (name : String) :
    folder (way ++ [name]) = folder way ++ name ++ "/" := by
  rw [← relative_concat]
  exact if_neg (List.append_ne_nil_of_right_ne_nil way (List.cons_ne_nil _ _))

/-- The components of the path along a way are its names, as far as they are names. -/
theorem partsOf_relative_append (before : List String) {way : List String}
    (h : ∀ n ∈ way, isName n = true) :
    partsOf (relative (before ++ way)).toList = before.flatMap (fun n => partsOf n.toList) ++ way := by
  have hway := Place.partsOf_text_of_isProper (Place.isProper_iff.mpr h)
  rw [Place.partsOf_text] at hway
  rw [relative, Place.partsOf_intercalate, List.flatMap_append, hway]

theorem relative_injective (before : List String) {way way' : List String}
    (h : ∀ n ∈ way, isName n = true) (h' : ∀ n ∈ way', isName n = true)
    (heq : relative (before ++ way) = relative (before ++ way')) : way = way' := by
  have hparts := partsOf_relative_append before h
  rw [heq, partsOf_relative_append before h'] at hparts
  exact (List.append_cancel_left hparts).symm

theorem lastName_relative (way : List String) {name : String} (h : '/' ∉ name.toList) :
    lastName (relative (way ++ [name])) = name := by
  rw [relative_concat]
  unfold lastName folder
  split
  · rw [String.empty_append, afterLast_of_not_mem h, String.ofList_toList]
  · have hlist : (relative way ++ "/" ++ name).toList
        = (relative way).toList ++ '/' :: name.toList := by simp
    rw [hlist, afterLast_append _ h, String.ofList_toList]

/-! ## Ways that pass -/

/-- Nothing leaves out the file at the end of `before ++ way`, as far as the names after `before`
    decide: every directory among them is entered, and the file is not ignored. -/
structure Passes (rules : List IgnoreRule) (before way : List String) : Prop where
  entered : ∀ dir name rest, way = dir ++ name :: rest → rest ≠ [] →
    name ∉ prunedDirectories ∧
      ignores rules (relative (before ++ dir ++ [name])).toList true = false
  taken : ignores rules (relative (before ++ way)).toList false = false

variable {rules : List IgnoreRule} {before : List String} {name : String}

theorem enters_iff {path : String} :
    enters rules name path = true ↔
      name ∉ prunedDirectories ∧ ignores rules path.toList true = false := by
  simp [enters]

theorem passes_singleton :
    Passes rules before [name] ↔ ignores rules (folder before ++ name).toList false = false := by
  rw [← relative_concat]
  constructor
  · exact fun h => h.taken
  · intro h
    refine ⟨?_, h⟩
    intro dir n rest heq hrest
    -- a single name has no directory before it
    have hlength := congrArg List.length heq
    have hpos := List.length_pos_iff.mpr hrest
    simp only [List.length_cons, List.length_append, List.length_nil] at hlength
    omega

/-- **One step down.** -/
theorem passes_cons {rest : List String} (hrest : rest ≠ []) :
    Passes rules before (name :: rest) ↔
      enters rules name (folder before ++ name) = true ∧ Passes rules (before ++ [name]) rest := by
  have happend : before ++ name :: rest = before ++ [name] ++ rest := by simp
  rw [enters_iff, ← relative_concat]
  constructor
  · intro h
    refine ⟨by simpa using h.entered [] name rest rfl hrest, ?_, ?_⟩
    · intro dir n rest' heq hrest'
      have hstep := h.entered (name :: dir) n rest' (by rw [heq]; rfl) hrest'
      simpa using hstep
    · rw [← happend]
      exact h.taken
  · rintro ⟨hfirst, h⟩
    refine ⟨?_, ?_⟩
    · intro dir n rest' heq hrest'
      cases dir with
      | nil =>
        cases heq
        simpa using hfirst
      | cons m dir =>
        obtain ⟨rfl, hinner⟩ := List.cons.inj heq
        simpa using h.entered dir n rest' hinner hrest'
    · rw [happend]
      exact h.taken

/-! ## The walk -/

theorem ne_nil_of_find? {es : List (String × Tree)} {way : List String} {u : Tree}
    (h : (Tree.dir es).find? way = some u) (hu : u.isDir = false) : way ≠ [] := by
  rintro rfl
  cases h
  cases hu

mutual

/-- **The walk finds the files at the ends of the ways that pass.** -/
theorem mem_filesBelow_iff {rules : List IgnoreRule} {before : List String} {f : String}
    (es : List (String × Tree)) (h : (Tree.dir es).isDistinct = true) :
    f ∈ filesBelow rules (folder before) es ↔
      ∃ way u, (Tree.dir es).find? way = some u ∧ u.isDir = false ∧ Passes rules before way ∧
        f = relative (before ++ way) := by
  match es with
  | [] =>
    refine iff_of_false List.not_mem_nil ?_
    rintro ⟨way, u, hfile, hleaf, _⟩
    cases way with
    | nil =>
      cases hfile
      cases hleaf
    | cons n way => cases hfile
  | (name, t) :: es =>
    obtain ⟨hnames, hentries⟩ := Tree.isDistinct_dir.mp h
    rw [List.map_cons, List.nodup_cons] at hnames
    rw [List.forall_mem_cons] at hentries
    rw [filesBelow, List.mem_append, mem_filesAt_iff t hentries.1,
      mem_filesBelow_iff es (Tree.isDistinct_dir.mpr ⟨hnames.2, hentries.2⟩)]
    constructor
    · rintro (⟨way, u, hfile, hleaf, hpasses, rfl⟩ | ⟨way, u, hfile, hleaf, hpasses, rfl⟩)
      · refine ⟨name :: way, u, ?_, hleaf, hpasses, rfl⟩
        rw [Tree.find?, Tree.entries_dir, List.lookup_cons_self]
        exact hfile
      · refine ⟨way, u, ?_, hleaf, hpasses, rfl⟩
        cases way with
        | nil => exact absurd rfl (ne_nil_of_find? hfile hleaf)
        | cons n way =>
          -- the name of another entry is another name
          obtain ⟨v, hu, hfile⟩ := Option.bind_eq_some_iff.mp hfile
          have hne : n ≠ name := by
            rintro rfl
            exact hnames.1 (List.mem_map.mpr ⟨_, Entries.mem_of_lookup hu, rfl⟩)
          rw [Tree.entries_dir] at hu
          rw [Tree.find?, Tree.entries_dir, List.lookup_cons, beq_eq_false_iff_ne.mpr hne, hu]
          exact hfile
    · rintro ⟨way, u, hfile, hleaf, hpasses, rfl⟩
      cases way with
      | nil => exact absurd rfl (ne_nil_of_find? hfile hleaf)
      | cons n way =>
        rw [Tree.find?, Tree.entries_dir, List.lookup_cons] at hfile
        by_cases hn : n = name
        · subst hn
          rw [beq_self_eq_true] at hfile
          exact .inl ⟨way, u, hfile, hleaf, hpasses, rfl⟩
        · rw [beq_eq_false_iff_ne.mpr hn] at hfile
          exact .inr ⟨n :: way, u, hfile, hleaf, hpasses, rfl⟩

theorem mem_filesAt_iff {rules : List IgnoreRule} {before : List String} {name f : String}
    (t : Tree) (h : t.isDistinct = true) :
    f ∈ filesAt rules (folder before) name t ↔
      ∃ way u, t.find? way = some u ∧ u.isDir = false ∧ Passes rules before (name :: way) ∧
        f = relative (before ++ name :: way) := by
  match t with
  | .file _ | .loop =>
    rw [filesAt, ← relative_concat]
    constructor
    · intro hf
      split at hf
      · exact absurd hf List.not_mem_nil
      · next hignored =>
        refine ⟨[], _, rfl, rfl, ?_, List.mem_singleton.mp hf⟩
        rw [passes_singleton, ← relative_concat]
        simpa using hignored
    · rintro ⟨way, u, hfile, _, hpasses, rfl⟩
      cases way with
      | nil =>
        have htaken := hpasses.taken
        rw [if_neg (by simp [htaken])]
        exact List.mem_singleton_self _
      | cons n way => cases hfile
  | .dir es =>
    rw [filesAt]
    by_cases henters : enters rules name (folder before ++ name) = true
    · rw [if_pos henters, ← folder_concat, mem_filesBelow_iff es h]
      constructor
      · rintro ⟨way, u, hfile, hleaf, hpasses, rfl⟩
        have hway := ne_nil_of_find? hfile hleaf
        exact ⟨way, u, hfile, hleaf, (passes_cons hway).mpr ⟨henters, hpasses⟩, by simp⟩
      · rintro ⟨way, u, hfile, hleaf, hpasses, rfl⟩
        have hway := ne_nil_of_find? hfile hleaf
        exact ⟨way, u, hfile, hleaf, ((passes_cons hway).mp hpasses).2, by simp⟩
    · rw [if_neg henters]
      refine iff_of_false List.not_mem_nil ?_
      rintro ⟨way, u, hfile, hleaf, hpasses, _⟩
      have hway := ne_nil_of_find? hfile hleaf
      exact henters ((passes_cons hway).mp hpasses).1

end

mutual

/-- No file is found twice. -/
theorem nodup_filesBelow {content : Option Content → Bool} (rules : List IgnoreRule) (before : List String)
    (es : List (String × Tree)) (h : (Tree.dir es).isDistinct = true)
    (hnames : Tree.everyEntry isName content es = true) :
    (filesBelow rules (folder before) es).Nodup := by
  match es with
  | [] => exact List.nodup_nil
  | (name, t) :: es =>
    obtain ⟨hdistinct, hentries⟩ := Tree.isDistinct_dir.mp h
    rw [List.map_cons, List.nodup_cons] at hdistinct
    rw [List.forall_mem_cons] at hentries
    rw [Tree.everyEntry, Bool.and_eq_true, Bool.and_eq_true] at hnames
    obtain ⟨⟨hname, ht⟩, hes⟩ := hnames
    have hrest : (Tree.dir es).isDistinct = true := Tree.isDistinct_dir.mpr ⟨hdistinct.2, hentries.2⟩
    rw [filesBelow, List.nodup_append]
    refine ⟨nodup_filesAt rules before name t hentries.1 ht, nodup_filesBelow rules before es hrest hes,
      ?_⟩
    -- files of different entries differ in the first name after the folder
    rintro f hf _ hf' rfl
    obtain ⟨way, u, hfile, _, _, rfl⟩ := (mem_filesAt_iff t hentries.1).mp hf
    obtain ⟨way', u', hfile', _, _, heq⟩ := (mem_filesBelow_iff es hrest).mp hf'
    have hway' := (Tree.every_find? (t := .dir es) hes hfile').2
    have hway : ∀ n ∈ name :: way, isName n = true :=
      List.forall_mem_cons.mpr ⟨hname, (Tree.every_find? ht hfile).2⟩
    rw [← relative_injective before hway hway' heq] at hfile'
    obtain ⟨v, hu, _⟩ := Option.bind_eq_some_iff.mp hfile'
    exact hdistinct.1 (List.mem_map.mpr ⟨_, Entries.mem_of_lookup hu, rfl⟩)

theorem nodup_filesAt {content : Option Content → Bool} (rules : List IgnoreRule) (before : List String)
    (name : String) (t : Tree) (h : t.isDistinct = true)
    (hnames : t.every isName content = true) :
    (filesAt rules (folder before) name t).Nodup := by
  match t with
  | .file _ | .loop =>
    rw [filesAt]
    split
    · exact List.nodup_nil
    · exact List.pairwise_singleton _ _
  | .dir es =>
    rw [filesAt]
    split
    · rw [← folder_concat]
      exact nodup_filesBelow rules _ es h hnames
    · exact List.nodup_nil

end

/-! ## Listings -/

/-- A file that discovery is to find, at the end of a way through the tree of a project. A link to
    itself counts as a file. -/
structure IsSource (rules : List IgnoreRule) (extensions : List String) (t : Tree)
    (way : List String) : Prop where
  file : ∃ u, t.find? way = some u ∧ u.isDir = false
  entered : ∀ dir name rest, way = dir ++ name :: rest → rest ≠ [] →
    name ∉ prunedDirectories ∧ ignores rules (relative (dir ++ [name])).toList true = false
  taken : ignores rules (relative way).toList false = false
  wanted : ∃ dir name suffix, way = dir ++ [name] ∧ LastSuffix name suffix ∧
    lowercase suffix ∈ extensions.map lowercase

/-- The list of a project's sources: strictly in order, with the absolute paths of exactly the files
    that discovery is to find. -/
structure IsListing (root : Place) (rules : List IgnoreRule) (extensions : List String) (t : Tree)
    (found : List String) : Prop where
  sorted : found.Pairwise (· < ·)
  exact : ∀ f, f ∈ found ↔ ∃ way, IsSource rules extensions t way ∧ f = Place.text (root ++ way)

/-- What discovery lists at a place, given the rules, the extensions and the tree there. -/
def listing (root : Place) (rules : List IgnoreRule) (extensions : List String) (t : Tree) :
    List String :=
  ((files rules extensions t).map ((if root = [] then "/" else Place.text root ++ "/") ++ ·)).mergeSort
    fun a b => decide (a ≤ b)

theorem sources_eq_listing {w : Workspace} {root : Place} {t : Tree} (h : w.tree.find? root = some t)
    (s : Settings) :
    sources w root s = listing root (Discovery.rules w root s.excludes) s.extensions t := by
  unfold sources listing
  rw [h]

theorem rootFolder_append (root : Place) {way : List String} (h : way ≠ []) :
    (if root = [] then "/" else Place.text root ++ "/") ++ relative way = Place.text (root ++ way) := by
  unfold Place.text relative
  by_cases hroot : root = []
  · rw [if_pos hroot, hroot, List.nil_append]
  · rw [if_neg hroot, String.intercalate_append_of_ne_nil hroot h]
    simp only [String.append_assoc]

section Listing

variable {content : Option Content → Bool} {es : List (String × Tree)}
  (h : (Tree.dir es).isDistinct = true) (hnames : (Tree.dir es).every isName content = true)

include h hnames

theorem mem_files_iff {rules : List IgnoreRule} {extensions : List String} {f : String} :
    f ∈ files rules extensions (.dir es) ↔
      ∃ way, IsSource rules extensions (.dir es) way ∧ f = relative way := by
  have hbelow : f ∈ filesBelow rules "" es ↔ _ := @mem_filesBelow_iff rules [] f es h
  unfold files
  rw [List.mem_filter, Tree.entries_dir, hbelow, List.contains_iff_mem]
  constructor
  · rintro ⟨⟨way, u, hfile, hleaf, hpasses, rfl⟩, hwanted⟩
    refine ⟨way, ⟨⟨u, hfile, hleaf⟩, hpasses.entered, hpasses.taken, ?_⟩, rfl⟩
    obtain ⟨dir, name, rfl⟩ : ∃ dir name, way = dir ++ [name] :=
      ⟨_, _, (List.dropLast_concat_getLast (ne_nil_of_find? hfile hleaf)).symm⟩
    have hname := (Tree.every_find? hnames hfile).2 name (by simp)
    rw [List.nil_append, lastName_relative dir (isName_iff.mp hname).2.2.2.1] at hwanted
    exact ⟨dir, name, _, rfl, lastSuffix_iff.mpr rfl, hwanted⟩
  · rintro ⟨way, ⟨⟨u, hfile, hleaf⟩, hentered, htaken, dir, name, suffix, rfl, hsuffix, hwanted⟩, rfl⟩
    refine ⟨⟨_, u, hfile, hleaf, ⟨hentered, htaken⟩, rfl⟩, ?_⟩
    have hname := (Tree.every_find? hnames hfile).2 name (by simp)
    rw [lastName_relative dir (isName_iff.mp hname).2.2.2.1, ← lastSuffix_iff.mp hsuffix]
    exact hwanted

theorem nodup_files (rules : List IgnoreRule) (extensions : List String) :
    (files rules extensions (.dir es)).Nodup :=
  (nodup_filesBelow rules [] es h hnames).filter _

/-- **A listing is exact**, whatever the rules and the extensions are. -/
theorem isListing_listing (root : Place) (rules : List IgnoreRule) (extensions : List String) :
    IsListing root rules extensions (.dir es) (listing root rules extensions (.dir es)) where
  sorted := by
    refine pairwise_lt_mergeSort_by id ?_
    rw [List.map_id]
    refine List.pairwise_map.mpr ((nodup_files h hnames rules extensions).imp ?_)
    intro f g hne heq
    exact hne ((String.append_right_inj _).mp heq)
  exact := by
    intro f
    unfold listing
    rw [List.mem_mergeSort, List.mem_map]
    constructor
    · rintro ⟨g, hg, rfl⟩
      obtain ⟨way, hway, rfl⟩ := (mem_files_iff h hnames).mp hg
      obtain ⟨u, hfile, hleaf⟩ := hway.file
      exact ⟨way, hway, rootFolder_append root (ne_nil_of_find? hfile hleaf)⟩
    · rintro ⟨way, hway, rfl⟩
      obtain ⟨u, hfile, hleaf⟩ := hway.file
      exact ⟨relative way, (mem_files_iff h hnames).mpr ⟨way, hway, rfl⟩,
        rootFolder_append root (ne_nil_of_find? hfile hleaf)⟩

end Listing

/-- Which files are sources does not depend on the order in which directories are listed. -/
theorem isSource_of_alike {rules : List IgnoreRule} {extensions : List String} {t u : Tree}
    {way : List String} (h : t.Alike u) (hway : IsSource rules extensions t way) :
    IsSource rules extensions u way where
  file := by
    obtain ⟨v, hfile, hleaf⟩ := hway.file
    have hsurface := h way
    rw [hfile] at hsurface
    obtain ⟨v', hu, hsame⟩ := Option.map_eq_some_iff.mp hsurface
    refine ⟨v', hu, ?_⟩
    rw [← v'.isDir_surface, hsame, v.isDir_surface, hleaf]
  entered := hway.entered
  taken := hway.taken
  wanted := hway.wanted

/-! ## Discovery -/

/-- The settings that discovery goes by: those that are given, or else those of the project, or else
    the default ones when the settings file of the project is no good. -/
def settingsFor (w : Workspace) (root : Place) : Option Settings → Except Failure Settings
  | some s => .ok s
  | none =>
    match Settings.load w root.path with
    | .error (.settings _) => .ok { root := Place.text root }
    | r => r

theorem result_settingsOrDefault (w : Workspace) (root : Place) (warn : String → Event) :
    (settingsOrDefault w root warn).result = settingsFor w root none := by
  unfold settingsOrDefault settingsFor
  split <;> simp_all

/-- Discovery at a directory, with settings, lists the sources there. -/
theorem result_find {w : Workspace} {path : String} {root : Place}
    (hroot : w.placeOf path = .ok root) (hcheck : checkProject w root path = .ok ())
    {given : Option Settings} {s : Settings} (hs : settingsFor w root given = .ok s) :
    (find w path given).result = .ok (sources w root s) := by
  unfold find findWithin
  cases given with
  | some s' =>
    cases hs
    simp only [Reply.result_bind, Reply.ofExcept, hroot]
    simp only [Bind.bind, Except.bind, hcheck]
    rfl
  | none =>
    simp only [Reply.result_bind, Reply.ofExcept, hroot, result_settingsOrDefault]
    simp only [Bind.bind, Except.bind, hcheck, hs]
    rfl

/-- **Discovery is exactly the filtered tree.** In a workspace whose names are names, and where none
    comes twice in a directory, discovery at a directory gives the listing of the tree there under the
    project's rules and extensions. A listing is exact for all rules and all extensions. And another
    order of the entries of any directories, everywhere on the disk, gives the same list. -/
theorem find_exact {w : Workspace} (hw : w.isProper = true)
    (hnames : w.tree.every isName (fun _ => true) = true) (hdistinct : w.tree.isDistinct = true)
    {path : String} {root : Place} (hroot : w.placeOf path = .ok root)
    {es : List (String × Tree)} (hdir : w.tree.find? root = some (.dir es))
    {given : Option Settings} {s : Settings} (hs : settingsFor w root given = .ok s) :
    (find w path given).result
        = .ok (listing root (Discovery.rules w root s.excludes) s.extensions (.dir es)) ∧
      (∀ rules extensions,
        IsListing root rules extensions (.dir es) (listing root rules extensions (.dir es))) ∧
      ∀ t, w.tree.Relisted t →
        (find { w with tree := t } path given).result = (find w path given).result := by
  have hproper := Workspace.isProper_placeOf hw hroot
  have hresult : (find w path given).result = .ok (sources w root s) :=
    result_find hroot (checkProject_of_dir hproper hdir path) hs
  have hexact := isListing_listing (Tree.isDistinct_find? hdistinct hdir)
    (Tree.every_find? hnames hdir).1
  refine ⟨?_, hexact root, ?_⟩
  · rw [hresult, sources_eq_listing hdir]
  · intro t ht
    have halike := Tree.alike_of_relisted ht hdistinct
    -- the same directory is there, perhaps with its entries in another order
    obtain ⟨ds, hdir'⟩ : ∃ ds, t.find? root = some (.dir ds) := by
      have hsurface := halike root
      rw [hdir] at hsurface
      obtain ⟨u, hu, hsame⟩ := Option.map_eq_some_iff.mp hsurface
      cases u with
      | file c | loop => cases hsame
      | dir ds => exact ⟨ds, hu⟩
    have hs' : settingsFor { w with tree := t } root given = .ok s := by
      cases given with
      | some s' => exact hs
      | none =>
        unfold settingsFor at hs ⊢
        simp only [Settings.load_alike w halike]
        exact hs
    have hroot' : ({ w with tree := t } : Workspace).placeOf path = .ok root :=
      (Workspace.placeOf_alike w halike path).trans hroot
    have hresult' := result_find hroot' (checkProject_of_dir hproper hdir' path) hs'
    have hexact' := isListing_listing
      (Tree.isDistinct_find? (Tree.isDistinct_relisted ht hdistinct) hdir')
      (Tree.every_find? (Tree.every_relisted ht hnames) hdir').1
    rw [hresult', hresult, sources_eq_listing hdir, sources_eq_listing hdir',
      Discovery.rules_alike w halike]
    -- both lists are in strict order and have the same files
    refine congrArg Except.ok (eq_of_pairwise_lt (hexact' ..).sorted (hexact ..).sorted ?_)
    intro f
    rw [(hexact' ..).exact, (hexact ..).exact]
    have hbelow := halike.below hdir hdir'
    constructor
    · rintro ⟨way, hway, rfl⟩
      exact ⟨way, isSource_of_alike hbelow.symm hway, rfl⟩
    · rintro ⟨way, hway, rfl⟩
      exact ⟨way, isSource_of_alike hbelow hway, rfl⟩

/-- A project with an ignored directory, a file that is taken back in, a pruned directory, an ignored
    file, and a suffix in capitals, listed forwards and backwards. -/
theorem find_exact_shop :
    let shop : List (String × Tree) :=
      [("target", .dir [("T.java", .file (.text ""))]),
       ("KeptTest.java", .file (.text "")),
       (".gitignore", .file (.text "gen/\n*Test.java\n!KeptTest.java")),
       ("gen", .dir [("G.java", .file (.text ""))]),
       ("web", .dir [("B.JAVA", .file (.text "")), ("notes.txt", .file (.text ""))]),
       ("ATest.java", .file (.text ""))]
    let w : Workspace :=
      { tree := .dir [("shop", .dir shop)]
        cwd := some ["shop"]
        home := ["home"]
        now := { year := 2024, month := 1, day := 1 } }
    let backwards : Tree := .dir [("shop", .dir shop.reverse)]
    w.isProper = true ∧ w.tree.every isName (fun _ => true) = true ∧ w.tree.isDistinct = true ∧
      w.placeOf "." = .ok ["shop"] ∧ w.tree.find? ["shop"] = some (.dir shop) ∧
      settingsFor w ["shop"] none = .ok { root := "/shop" } ∧ w.tree.Relisted backwards ∧
      (find w "." none).result = .ok ["/shop/KeptTest.java", "/shop/web/B.JAVA"] ∧
      (find { w with tree := backwards } "." none).result
        = .ok ["/shop/KeptTest.java", "/shop/web/B.JAVA"] ∧
      IsListing ["shop"] (Discovery.rules w ["shop"] []) [".java"] (.dir shop)
        ["/shop/KeptTest.java", "/shop/web/B.JAVA"] := by
  intro shop w backwards
  have hw : w.isProper = true := by decide +kernel
  have hnames : w.tree.every isName (fun _ => true) = true := by decide +kernel
  have hdistinct : w.tree.isDistinct = true := by decide +kernel
  have hroot : w.placeOf "." = .ok ["shop"] := by decide +kernel
  have hs : settingsFor w ["shop"] none = .ok { root := "/shop" } := by decide +kernel
  have hback : w.tree.Relisted backwards := .entry [] [] "shop" (.perm (List.reverse_perm shop).symm)
  have hfiles : files (Discovery.rules w ["shop"] []) [".java"] (.dir shop)
      = ["KeptTest.java", "web/B.JAVA"] := by decide +kernel
  have hlisting : listing ["shop"] (Discovery.rules w ["shop"] []) [".java"] (.dir shop)
      = ["/shop/KeptTest.java", "/shop/web/B.JAVA"] := by
    unfold listing
    rw [hfiles]
    exact List.mergeSort_of_pairwise (by decide +kernel)
  obtain ⟨hfound, hexact, hrelisted⟩ := find_exact hw hnames hdistinct hroot rfl hs
  replace hfound := hfound.trans (congrArg Except.ok hlisting)
  refine ⟨hw, hnames, hdistinct, hroot, rfl, hs, hback, hfound, ?_, ?_⟩
  · rw [hrelisted backwards hback, hfound]
  · rw [← hlisting]
    exact hexact _ _

end Discovery

end SpringRoutes
