import SpringRoutes.Project
import SpringRoutes.Proofs.Files
import SpringRoutes.Proofs.Navigation

/-!
# `SpringRoutes.Proofs.ScanReads` — what a scan reads

A scan of a project never looks into the folder in which results are kept: with or without those
folders, everywhere in the tree, it gives the same reply (`projectAt_without`). The settings and the
ignore file stand beside the folder, discovery does not enter it, and the files that are read are
those that discovery found (`isSourcePath_of_mem_sources`).

A scan of a directory whose settings can be read gives a table, whatever is in the tree
(`exists_projectAt`), and its line numbers are no greater than files are long (`Route.Within`,
`within_of_outlines`). `projectAt_ok` says both for trees of ordinary files (`Tree.isOrdinary`).
-/

namespace SpringRoutes

open Text WrittenPath

/-! ## Settings -/

namespace Settings

section Without

variable {name : String} (w : Workspace) {p : WrittenPath} (habs : p.isAbsolute = true)
  (h : name ∉ p.parts)

include habs h

/-- The settings file stands in the directory of the path, or beside it. -/
theorem exists_place (hname : name ≠ fileName) :
    ∃ q : WrittenPath, q.isAbsolute = true ∧ name ∉ q.parts ∧ place w p = w.resolve q ∧
      place (w.without name) p = (w.without name).resolve q := by
  have hchild : name ∉ (p.child fileName).parts := by
    simp [WrittenPath.child, h, hname]
  have hbeside : name ∉ (p.parent.child fileName).parts := by
    simp only [WrittenPath.child, WrittenPath.parent, List.mem_append, List.mem_singleton, not_or]
    exact ⟨fun hmem => h (List.dropLast_subset _ hmem), hname⟩
  unfold place
  rw [Workspace.expand_of_isAbsolute w habs, Workspace.expand_of_isAbsolute (w.without name) habs]
  simp only [Bind.bind, Except.bind]
  rw [Workspace.isDir_without w habs h]
  split
  · exact ⟨p.child fileName, habs, hchild, rfl, rfl⟩
  · split
    · exact ⟨p, habs, h, rfl, rfl⟩
    · exact ⟨p.parent.child fileName, habs, hbeside, rfl, rfl⟩

theorem place_without (hname : name ≠ fileName) : place (w.without name) p = place w p := by
  obtain ⟨q, hq, hparts, hplace, hplace'⟩ := exists_place w habs h hname
  rw [hplace, hplace', Workspace.resolve_without w hq hparts]

/-- The settings file lies in no directory that is not on the way to the project. -/
theorem not_mem_place (hname : name ≠ fileName) {file : Place} (hfile : place w p = .ok file) :
    name ∉ file := by
  obtain ⟨q, hq, hparts, hplace, _⟩ := exists_place w habs h hname
  -- resolving an absolute path takes its components and no others
  rw [hplace, Workspace.resolve_of_isAbsolute w hq] at hfile
  split at hfile
  · cases hfile
  · obtain ⟨_, rfl⟩ := Workspace.reach_eq_ok.mp hfile
    intro hmem
    rcases Place.mem_foldl_follow hmem with hmem | ⟨hmem, _⟩
    · exact List.not_mem_nil hmem
    · exact hparts hmem

end Without

theorem readValue_without {name : String} (w : Workspace) {file : Place} (h : name ∉ file) :
    readValue (w.without name) file.path = readValue w file.path := by
  unfold readValue
  rw [Workspace.readText_without w rfl h]
  rfl

/-- The settings do not depend on a directory with another name. -/
theorem load_without {name : String} (hname : name ≠ fileName) (w : Workspace) {p : WrittenPath}
    (habs : p.isAbsolute = true) (h : name ∉ p.parts) : load (w.without name) p = load w p := by
  unfold load
  rw [place_without w habs h hname]
  cases hfile : place w p with
  | error e => rfl
  | ok file =>
    have hnot := not_mem_place w habs h hname hfile
    simp only [Bind.bind, Except.bind]
    rw [Workspace.hasEntry_without w rfl hnot, readValue_without w hnot]

end Settings

/-! ## Discovery -/

namespace Discovery

mutual

theorem filesBelow_without {name : String} (hname : name ∈ prunedDirectories)
    (rules : List IgnoreRule) (path : String) (es : List (String × Tree)) :
    filesBelow rules path (Tree.withoutEntries name es) = filesBelow rules path es := by
  match es with
  | [] => rfl
  | (n, t) :: es =>
    rw [Tree.withoutEntries]
    by_cases hhidden : n = name ∧ t.isDir
    · -- such a directory is not entered
      rw [if_pos hhidden, filesBelow_without hname rules path es, filesBelow]
      obtain ⟨rfl, hdir⟩ := hhidden
      cases t with
      | file c | loop => cases hdir
      | dir fs =>
        have henters : enters rules n (path ++ n) = false := by
          simp [enters, hname]
        rw [filesAt, henters]
        rfl
    · rw [if_neg hhidden, filesBelow, filesBelow, filesBelow_without hname rules path es,
        filesAt_without hname rules path n t]

/-- An entry that is never entered gives no files, whether it is there or not. -/
theorem filesAt_without {name : String} (hname : name ∈ prunedDirectories)
    (rules : List IgnoreRule) (path n : String) (t : Tree) :
    filesAt rules path n (t.without name) = filesAt rules path n t := by
  match t with
  | .file c | .loop => rfl
  | .dir es =>
    rw [Tree.without, filesAt, filesAt, filesBelow_without hname rules (path ++ n ++ "/") es]

end

section Without

variable (w : Workspace) {root : Place} (h : cacheFolder ∉ root)

include h

theorem checkProject_without (shown : String) :
    checkProject (w.without cacheFolder) root shown = checkProject w root shown := by
  unfold checkProject
  rw [Workspace.hasEntry_without w rfl h, Workspace.isDir_without w rfl h]

theorem settingsOrDefault_without (warn : String → Event) :
    settingsOrDefault (w.without cacheFolder) root warn = settingsOrDefault w root warn := by
  unfold settingsOrDefault
  rw [Settings.load_without (by decide) w rfl h]

theorem rules_without (excludes : List String) :
    rules (w.without cacheFolder) root excludes = rules w root excludes := by
  have hfile : cacheFolder ∉ (root.path.child ".gitignore").parts := by
    rw [WrittenPath.child, List.mem_append, List.mem_singleton, not_or]
    exact ⟨h, by decide⟩
  unfold rules
  simp only
  rw [Workspace.isFile_without w rfl hfile, Workspace.readLossy_without w rfl hfile]

/-- A project has the same sources without the folders for results. -/
theorem sources_without (s : Settings) :
    sources (w.without cacheFolder) root s = sources w root s := by
  have hfind : (w.without cacheFolder).tree.find? root
      = (w.tree.find? root).map (Tree.without cacheFolder) := Tree.find?_without h w.tree
  unfold sources
  rw [hfind, rules_without w h]
  cases w.tree.find? root with
  | none => rfl
  | some t =>
    simp only [Option.map_some, files]
    rw [Tree.entries_without, filesBelow_without (by decide)]

end Without

/-! ## The files that discovery finds -/

/-- The start of a path: nothing, or a text that ends with a slash. -/
def IsFolder (path : String) : Prop :=
  path = "" ∨ ∃ q, path = q ++ "/"

theorem isFolder_slash (q : String) : IsFolder (q ++ "/") :=
  .inr ⟨q, rfl⟩

/-- The parts of a path in a folder are those of the folder and those of the rest. -/
theorem partsOf_folder_append {path : String} (h : IsFolder path) (s : String) :
    partsOf (path ++ s).toList = partsOf path.toList ++ partsOf s.toList := by
  rcases h with rfl | ⟨q, rfl⟩
  · rw [String.empty_append]
    rfl
  · rw [partsOf_concat_slash, String.toList_append, String.toList_append, List.append_assoc]
    exact partsOf_append_slash q.toList s.toList

mutual

/-- The path of a file below a directory goes on with names that are in the tree. -/
theorem mem_filesBelow {ok : String → Bool} {content : Option Content → Bool}
    (hok : ∀ n, ok n = true → isName n = true) {rules : List IgnoreRule} {path f : String}
    (hpath : IsFolder path) (es : List (String × Tree))
    (h : Tree.everyEntry ok content es = true) (hf : f ∈ filesBelow rules path es) :
    ∃ names, partsOf f.toList = partsOf path.toList ++ names ∧ ∀ n ∈ names, ok n = true := by
  match es with
  | [] => exact absurd hf List.not_mem_nil
  | (n, t) :: es =>
    rw [Tree.everyEntry, Bool.and_eq_true, Bool.and_eq_true] at h
    obtain ⟨⟨hn, ht⟩, hes⟩ := h
    rw [filesBelow, List.mem_append] at hf
    rcases hf with hf | hf
    · exact mem_filesAt hok hpath hn t ht hf
    · exact mem_filesBelow hok hpath es hes hf

theorem mem_filesAt {ok : String → Bool} {content : Option Content → Bool}
    (hok : ∀ n, ok n = true → isName n = true) {rules : List IgnoreRule} {path f name : String}
    (hpath : IsFolder path) (hname : ok name = true) (t : Tree) (h : t.every ok content = true)
    (hf : f ∈ filesAt rules path name t) :
    ∃ names, partsOf f.toList = partsOf path.toList ++ names ∧ ∀ n ∈ names, ok n = true := by
  have hparts : partsOf (path ++ name).toList = partsOf path.toList ++ [name] := by
    rw [partsOf_folder_append hpath, partsOf_isName (hok name hname)]
  match t with
  | .file c | .loop =>
    rw [filesAt] at hf
    split at hf
    · exact absurd hf List.not_mem_nil
    · rw [List.mem_singleton.mp hf]
      refine ⟨[name], hparts, ?_⟩
      intro n hn
      rwa [List.mem_singleton.mp hn]
  | .dir es =>
    rw [filesAt] at hf
    split at hf
    · obtain ⟨names, heq, hnames⟩ := mem_filesBelow hok (isFolder_slash (path ++ name)) es h hf
      refine ⟨name :: names, ?_, ?_⟩
      · rw [heq, partsOf_concat_slash, hparts, List.append_assoc]
        rfl
      · intro n hn
        rcases List.mem_cons.mp hn with rfl | hn
        · exact hname
        · exact hnames n hn
    · exact absurd hf List.not_mem_nil

end

end Discovery

/-! ## Ordinary trees -/

/-- More characters than any file has. -/
def Content.maxLength : Nat := 1 <<< 63

/-- Whether a content is one that a file can have. -/
def Content.fits (c : Content) : Bool :=
  decide (c.decodeLossy.length < maxLength)

/-- Whether a name is one that people give to files: not that of the folder for results. -/
def isOrdinaryName (n : String) : Bool :=
  isName n && n != cacheFolder

/-- Whether a tree is one of files that people write, without links. -/
def Tree.isOrdinary (t : Tree) : Bool :=
  t.every isOrdinaryName (Option.any Content.fits)

/-- An ordinary tree has no links. -/
theorem Tree.find?_ne_loop {t : Tree} (h : t.isOrdinary = true) (p : Place) :
    t.find? p ≠ some .loop := by
  intro hloop
  cases (Tree.every_find? h hloop).1

theorem isOrdinaryName_iff {n : String} :
    isOrdinaryName n = true ↔ isName n = true ∧ n ≠ cacheFolder := by
  rw [isOrdinaryName, Bool.and_eq_true, bne_iff_ne]

/-- Whether a place is one of a file that people write. -/
def Place.isOrdinary (p : Place) : Bool :=
  p.all isOrdinaryName

theorem Place.isOrdinary_iff {p : Place} :
    p.isOrdinary = true ↔ p.isProper = true ∧ cacheFolder ∉ p := by
  unfold Place.isOrdinary
  rw [List.all_eq_true, Place.isProper_iff]
  constructor
  · intro h
    refine ⟨fun n hn => (isOrdinaryName_iff.mp (h n hn)).1, fun hmem => ?_⟩
    exact (isOrdinaryName_iff.mp (h _ hmem)).2 rfl
  · rintro ⟨hproper, hnot⟩ n hn
    refine isOrdinaryName_iff.mpr ⟨hproper n hn, ?_⟩
    rintro rfl
    exact hnot hn

/-- An absolute path to a place of names. -/
def IsFilePath (f : String) : Prop :=
  (WrittenPath.ofString f).isAbsolute = true ∧ Place.isProper (partsOf f.toList) = true

/-- An absolute path to an ordinary place. -/
def IsSourcePath (f : String) : Prop :=
  (WrittenPath.ofString f).isAbsolute = true ∧ Place.isOrdinary (partsOf f.toList) = true

theorem IsSourcePath.isFilePath {f : String} (h : IsSourcePath f) : IsFilePath f :=
  ⟨h.1, (Place.isOrdinary_iff.mp h.2).1⟩

/-- What stands before the files of a root is an absolute path to it, with one slash at the end also
    when the root is that of the whole tree. -/
theorem Discovery.folder_cases {root : Place} (h : root.isProper = true) :
    ∃ q : String, (if root = [] then "/" else root.text ++ "/") = q ++ "/" ∧
      partsOf q.toList = root ∧ ∃ r, (q ++ "/").toList = '/' :: r := by
  by_cases hnil : root = []
  · subst hnil
    exact ⟨"", rfl, rfl, [], rfl⟩
  · rw [if_neg hnil]
    refine ⟨root.text, rfl, Place.partsOf_text_of_isProper h, ?_⟩
    rw [Place.text, String.toList_append, String.toList_append]
    exact ⟨_, rfl⟩

/-- The path of a source is absolute, and made of names of the root and of the tree. -/
theorem Discovery.mem_sources {ok : String → Bool} {content : Option Content → Bool}
    (hok : ∀ n, ok n = true → isName n = true) {w : Workspace}
    (hw : w.tree.every ok content = true) {root : Place} (hroot : root.all ok = true)
    {s : Settings} {f : String} (hf : f ∈ Discovery.sources w root s) :
    (WrittenPath.ofString f).isAbsolute = true ∧ (partsOf f.toList).all ok = true := by
  unfold Discovery.sources at hf
  rw [List.mem_mergeSort, List.mem_map] at hf
  obtain ⟨g, hg, rfl⟩ := hf
  cases hfind : w.tree.find? root with
  | none =>
    rw [hfind] at hg
    exact absurd hg List.not_mem_nil
  | some t =>
    rw [hfind] at hg
    have ht : ∀ e ∈ t.entries, ok e.1 = true ∧ e.2.every ok content :=
      fun e he => Tree.every_of_mem_entries (Tree.every_find? hw hfind).1 he
    obtain ⟨names, hparts, hnames⟩ := mem_filesBelow hok (.inl rfl) t.entries
      (Tree.everyEntry_iff.mpr ht) (List.mem_filter.mp hg).1
    have hempty : partsOf "".toList = [] := rfl
    rw [hempty, List.nil_append] at hparts
    have hproper : root.isProper = true :=
      Place.isProper_iff.mpr fun n hn => hok n (List.all_eq_true.mp hroot n hn)
    obtain ⟨q, hq, hqparts, r, hr⟩ := folder_cases hproper
    rw [hq]
    refine ⟨?_, ?_⟩
    · refine decide_eq_true ?_
      rw [WrittenPath.ofString, String.toList_append, hr]
      exact anchorOf_slash_ne _
    · rw [partsOf_folder_append (isFolder_slash q), partsOf_concat_slash, hqparts, hparts,
        List.all_append, Bool.and_eq_true]
      exact ⟨hroot, List.all_eq_true.mpr hnames⟩

/-- In an ordinary tree a source has an ordinary place. -/
theorem Discovery.isSourcePath_of_mem_sources {w : Workspace} (hw : w.tree.isOrdinary = true)
    {root : Place} (hroot : root.isOrdinary = true) {s : Settings} {f : String}
    (hf : f ∈ Discovery.sources w root s) : IsSourcePath f :=
  mem_sources (fun _ hn => (isOrdinaryName_iff.mp hn).1) hw hroot hf

theorem Discovery.isFilePath_of_mem_sources {content : Option Content → Bool} {w : Workspace}
    (hw : w.tree.every isName content = true) {root : Place} (hroot : root.isProper = true)
    {s : Settings} {f : String} (hf : f ∈ Discovery.sources w root s) : IsFilePath f :=
  mem_sources (fun _ hn => hn) hw hroot hf

/-! ## Tables -/

theorem Reply.bind_congr {α β : Type} {r : Reply α} {f g : α → Reply β}
    (h : ∀ a, r.result = .ok a → f a = g a) : (r >>= f) = (r >>= g) := by
  simp only [Bind.bind, Reply.bind]
  cases hr : r.result with
  | error e => rfl
  | ok a =>
    simp only
    rw [h a hr]

namespace Scan

/-- The places of listed source paths: they are their own places, unless one of them is a link to
    itself or lies behind one. -/
inductive Placed (w : Workspace) (files : List String) : Except Failure (List String) → Prop
  | places (reached : ∀ f ∈ files, w.loops (.ofString f) = false) :
      Placed w files (.ok (files.map fun f => Place.text (partsOf f.toList)))
  | loop (f : String) (listed : f ∈ files) (loops : w.loops (.ofString f) = true) :
      Placed w files (.error (.linkLoop (Place.text (partsOf f.toList))))

/-- Files with absolute paths are at their own places, unless one of them is a link to itself. -/
theorem places_placed (w : Workspace) (base : WrittenPath) {files : List String}
    (h : ∀ f ∈ files, IsFilePath f) : Placed w files (places w base files) := by
  induction files with
  | nil => exact .places fun f hf => absurd hf List.not_mem_nil
  | cons f files ih =>
    obtain ⟨habs, hproper⟩ := h f (List.mem_cons_self ..)
    have happend : base.append (.ofString f) = .ofString f := by
      rw [WrittenPath.append, if_pos habs]
    have hnull : (WrittenPath.ofString f).hasNull = false := Workspace.hasNull_path hproper
    have hplace : w.resolve (.ofString f) = w.reach (partsOf f.toList) := by
      rw [Workspace.resolve_of_isAbsolute w habs, hnull]
      exact congrArg w.reach (Place.foldl_follow (Place.dots_not_mem hproper))
    have hloops : w.loops (Place.path (partsOf f.toList)) = w.loops (.ofString f) := by
      unfold Workspace.loops Workspace.look
      rw [habs]
      rfl
    rw [places, happend, hplace, Workspace.reach, hloops]
    cases hloop : w.loops (.ofString f) with
    | true => exact .loop f (List.mem_cons_self ..) hloop
    | false =>
      have hrest := ih fun g hg => h g (List.mem_cons_of_mem _ hg)
      generalize places w base files = r at hrest
      cases hrest with
      | places hreached =>
        refine .places fun g hg => ?_
        rcases List.mem_cons.mp hg with rfl | hg
        · exact hloop
        · exact hreached g hg
      | loop g hg hloop => exact .loop g (List.mem_cons_of_mem _ hg) hloop

theorem places_without (w : Workspace) (base : WrittenPath) {files : List String}
    (h : ∀ f ∈ files, IsSourcePath f) :
    places (w.without cacheFolder) base files = places w base files := by
  induction files with
  | nil => rfl
  | cons f files ih =>
    obtain ⟨habs, hord⟩ := h f (List.mem_cons_self ..)
    have happend : base.append (.ofString f) = .ofString f := by
      rw [WrittenPath.append, if_pos habs]
    have hnot : cacheFolder ∉ (WrittenPath.ofString f).parts := (Place.isOrdinary_iff.mp hord).2
    rw [places, places, happend, Workspace.resolve_without w habs hnot,
      ih fun g hg => h g (List.mem_cons_of_mem _ hg)]

/-- What is read off a file does not depend on the folders for results. -/
theorem outlineAt_without (w : Workspace) {p : Place} (h : p.isOrdinary = true) :
    outlineAt (w.without cacheFolder) p.text = outlineAt w p.text := by
  obtain ⟨hproper, hnot⟩ := Place.isOrdinary_iff.mp h
  have hparts : cacheFolder ∉ (WrittenPath.ofString p.text).parts := by
    rw [WrittenPath.ofString, Place.partsOf_text_of_isProper hproper]
    exact hnot
  unfold outlineAt
  simp only
  rw [Workspace.readLossy_without w (Place.isAbsolute_ofString_text p) hparts]

theorem outlines_without (w : Workspace) {ps : List Place} (h : ∀ p ∈ ps, p.isOrdinary = true) :
    outlines (w.without cacheFolder) (ps.map Place.text) = outlines w (ps.map Place.text) := by
  induction ps with
  | nil => rfl
  | cons p ps ih =>
    rw [List.map_cons, outlines, outlines, outlineAt_without w (h p (List.mem_cons_self ..)),
      ih fun q hq => h q (List.mem_cons_of_mem _ hq)]

/-- Neither does the table of listed files. -/
theorem table_without (w : Workspace) (root : String) {files : List String}
    (h : ∀ f ∈ files, IsSourcePath f) :
    table (w.without cacheFolder) root files = table w root files := by
  have hord : ∀ p ∈ files.map fun f => partsOf f.toList, Place.isOrdinary p = true := by
    intro p hp
    obtain ⟨f, hf, rfl⟩ := List.mem_map.mp hp
    exact (h f hf).2
  have houtlines := outlines_without w hord
  simp only [List.map_map, Function.comp_def] at houtlines
  have hexpand : (w.without cacheFolder).expand (.ofString root) = w.expand (.ofString root) := rfl
  unfold table
  rw [hexpand]
  refine Reply.bind_congr fun base _ => ?_
  rw [places_without w base h]
  refine Reply.bind_congr fun paths hpaths => ?_
  have hplaced := places_placed w base fun f hf => (h f hf).isFilePath
  have hplaces : places w base files = .ok paths := hpaths
  rw [hplaces] at hplaced
  cases hplaced with
  | places _ => rw [houtlines]

theorem settings_without (w : Workspace) {root : Place} (h : cacheFolder ∉ root) :
    settings (w.without cacheFolder) root = settings w root := by
  unfold settings
  rw [Workspace.isDir_without w rfl h, Discovery.settingsOrDefault_without w h]

end Scan

namespace Discovery

/-- Discovery at the text of a place is discovery at the place. -/
theorem result_findWithin_text (limit : Option Nat) (w : Workspace) {root : Place}
    (h : root.isProper = true) (s : Settings) :
    (findWithin limit w root.text (some s)).result = (do
      let _ ← w.reach root
      checkProject w root root.text
      checkDepth limit w root s
      return sources w root s) := by
  unfold findWithin
  rw [Workspace.placeOf_text w h]
  simp only [Reply.result_bind, Reply.ofExcept]
  cases hreach : w.reach root with
  | error e => rfl
  | ok place =>
    obtain rfl := (Workspace.reach_eq_ok.mp hreach).2
    rfl

/-- What is found is what the tree has. -/
theorem eq_sources_of_find_text {w : Workspace} {root : Place} (h : root.isProper = true)
    {s : Settings} {files : List String} (hfiles : (find w root.text (some s)).result = .ok files) :
    files = sources w root s := by
  unfold find at hfiles
  rw [result_findWithin_text none w h] at hfiles
  cases hreach : w.reach root with
  | error e =>
    rw [hreach] at hfiles
    cases hfiles
  | ok place =>
    cases hcheck : checkProject w root root.text with
    | error e =>
      rw [hreach, hcheck] at hfiles
      cases hfiles
    | ok _ =>
      rw [hreach, hcheck] at hfiles
      cases hfiles
      rfl

theorem find_text_without (w : Workspace) {root : Place} (h : root.isOrdinary = true)
    (s : Settings) :
    find (w.without cacheFolder) root.text (some s) = find w root.text (some s) := by
  obtain ⟨hproper, hnot⟩ := Place.isOrdinary_iff.mp h
  unfold find findWithin
  rw [Workspace.placeOf_text _ hproper, Workspace.placeOf_text w hproper,
    Workspace.reach_without w hnot]
  refine Reply.bind_congr fun place hplace => ?_
  obtain rfl := (Workspace.reach_eq_ok.mp hplace).2
  simp only [checkProject_without w hnot, sources_without w hnot]
  rfl

end Discovery

namespace Scan

/-- **A scan does not look into the folders for results.** -/
theorem standard_without {w : Workspace} (hw : (w.without cacheFolder).tree.isOrdinary = true)
    {root : Place} (hroot : root.isOrdinary = true) :
    standard (w.without cacheFolder) root = standard w root := by
  obtain ⟨hproper, hnot⟩ := Place.isOrdinary_iff.mp hroot
  unfold standard within projectWithin
  rw [settings_without w hnot]
  refine Reply.bind_congr fun s _ => ?_
  have hfind : Discovery.findWithin none (w.without cacheFolder) root.text (some s)
      = Discovery.findWithin none w root.text (some s) := Discovery.find_text_without w hroot s
  simp only [hfind]
  refine Reply.bind_congr fun files hfiles => ?_
  refine Reply.bind_congr fun _ _ => ?_
  refine table_without w root.text fun f hf => ?_
  -- the files that were found are listed in the tree without the folders, which is ordinary
  rw [Discovery.eq_sources_of_find_text hproper hfiles, ← Discovery.sources_without w hnot] at hf
  exact Discovery.isSourcePath_of_mem_sources hw hroot hf

end Scan

/-! ## Line numbers -/

/-- The line numbers of a route do not exceed a bound. -/
def Route.Within (bound : Nat) (r : Route) : Prop :=
  (∃ n : Nat, n ≤ bound ∧ r.line = .number n) ∧
    ∀ l, r.implLine = some l → ∃ n : Nat, n ≤ bound ∧ l = .number n

theorem lineOf_le {o : Outline} {bound : Nat} (hpos : 1 ≤ bound)
    (h : ∀ m ∈ o.methods, m.line ≤ bound) (name : String) : o.lineOf name ≤ bound := by
  rcases lineOf_cases o name with ⟨m, hfind, heq⟩ | ⟨_, heq⟩
  · rw [heq]
    exact h m (List.mem_of_find?_eq_some hfind)
  · rw [heq]
    exact hpos

/-- The lines of a route are those of methods. -/
theorem within_of_mem_routeTable {os : List (Option Outline)} {bound : Nat} (hpos : 1 ≤ bound)
    (h : ∀ o ∈ named os, ∀ m ∈ o.methods, m.line ≤ bound) {r : Route} (hr : r ∈ routeTable os) :
    r.Within bound := by
  rw [routeTable_eq_append, List.mem_append] at hr
  rcases hr with hlink | hnew
  · obtain ⟨c, hc, _, hr⟩ := mem_link hlink
    rcases hr with ⟨i, hi, hinh⟩ | ⟨i, hown⟩
    · obtain ⟨name, _, hi⟩ := Option.bind_eq_some_iff.mp hi
      have himem := (interfaceNamed?_eq_some hi).1
      obtain ⟨m, hm, hline, _, _, _, _, himpl, _⟩ := mem_inheritedRoutes hinh
      refine ⟨⟨m.line, h i himem m hm, hline⟩, ?_⟩
      intro l hl
      rw [himpl, Option.some.injEq] at hl
      exact ⟨_, lineOf_le hpos (h c hc) m.name, hl.symm⟩
    · obtain ⟨m, hm, hline, _, _, _, himpl⟩ := mem_ownRoutes hown
      refine ⟨⟨m.line, h c hc m hm, hline⟩, ?_⟩
      intro l hl
      rw [himpl] at hl
      cases hl
  · obtain ⟨c, hc, _, d, base, hd, hr⟩ := mem_candidates ((firstNew_sublist _ _).subset hnew)
    have hdmem : d ∈ named os := by
      rcases hd with rfl | hext
      · exact hc
      · obtain ⟨name, _, hi⟩ := Option.bind_eq_some_iff.mp hext
        exact (interfaceNamed?_eq_some hi).1
    obtain ⟨m, hm, hline, _, _, _, himpl, _, _⟩ := mem_routed_map hr
    refine ⟨⟨m.line, h d hdmem m hm, hline⟩, ?_⟩
    intro l hl
    rw [himpl] at hl
    cases hl

/-- A method stands on a line of its text. -/
theorem line_le_lineCount {path text : String} {m : Method}
    (h : m ∈ (Outline.ofText path text).methods) : m.line ≤ lineCount text := by
  have hat := nameAt?_of_mem_methods h
  obtain ⟨line, hsig, _⟩ := Option.bind_eq_some_iff.mp hat
  exact (lineAt?_bounds (significantAt?_eq_some_iff.mp hsig).1).2

/-! ## A scan gives a table -/

/-- What is read is the content of some file of the tree. -/
theorem Workspace.exists_file_of_read {w : Workspace} {p : WrittenPath} {c : Content}
    (h : w.read p = .ok c) : ∃ q, w.tree.find? q = some (.file c) := by
  unfold read at h
  split at h
  · cases h
  · split at h
    · cases h
    · cases h
    · cases h
    · cases h
    · next q c' hlook =>
      cases h
      unfold look at hlook
      split at hlook
      · exact ⟨q, (find?_of_walk hlook).symm⟩
      · split at hlook
        · exact ⟨q, (find?_of_walk hlook).symm⟩
        · cases hlook

/-- A directory can be scanned. -/
theorem Discovery.checkProject_of_dir {w : Workspace} {root : Place} (hroot : root.isProper = true)
    {es : List (String × Tree)} (hdir : w.tree.find? root = some (.dir es)) (shown : String) :
    Discovery.checkProject w root shown = .ok () := by
  have hdots := Place.dots_not_mem hroot
  have hentry : w.hasEntry root.path = true := by
    unfold Workspace.hasEntry
    rw [Workspace.find?_path w hdots, hdir]
    rfl
  unfold Discovery.checkProject
  rw [hentry, (Workspace.isDir_path hdots).mpr ⟨es, hdir⟩]
  rfl

namespace Scan

/-- A file is read, or reported and left out. -/
theorem exists_outlineAt (w : Workspace) {p : Place} (hp : p.isProper = true) :
    ∃ o, (outlineAt w p.text).result = .ok o := by
  unfold outlineAt Workspace.readLossy
  simp only
  rcases Workspace.read_cases w (Workspace.hasNull_ofString_text hp) with ⟨c, hc⟩ | ⟨f, hf⟩
  · rw [hc]
    exact ⟨_, rfl⟩
  · rw [hf]
    exact ⟨_, rfl⟩

/-- The outlines of files are those of each file, in order. -/
theorem exists_outlines (w : Workspace) {ps : List Place} (hps : ∀ p ∈ ps, p.isProper = true) :
    ∃ os, (outlines w (ps.map Place.text)).result = .ok os ∧
      os.map Except.ok = (ps.map Place.text).map fun path => (outlineAt w path).result := by
  induction ps with
  | nil => exact ⟨[], rfl, rfl⟩
  | cons p ps ih =>
    obtain ⟨o, ho⟩ := exists_outlineAt w (hps p (List.mem_cons_self ..))
    obtain ⟨os, hos, hmap⟩ := ih fun q hq => hps q (List.mem_cons_of_mem _ hq)
    refine ⟨o :: os, ?_, ?_⟩
    · simp only [List.map_cons, outlines, Reply.result_bind, ho, hos]
      rfl
    · rw [List.map_cons, List.map_cons, List.map_cons, ho, hmap]

/-- The result of a scan without its reports. -/
theorem result_table (w : Workspace) (root : String) (files : List String) :
    (table w root files).result = (do
      let base ← w.expand (.ofString root)
      let paths ← places w base files
      let os ← (outlines w paths).result
      .ok (sortedTable os)) := by
  unfold table
  rw [Reply.result_bind]
  congr 1
  funext base
  rw [Reply.result_bind]
  congr 1
  funext paths
  cases paths with
  | nil =>
    -- without files there is nothing to read, and the table of nothing is empty
    have hempty : sortedTable [] = [] := List.mergeSort_nil
    exact congrArg Except.ok hempty.symm
  | cons path paths =>
    rw [if_neg (by simp)]
    simp only [Reply.result_bind]
    rfl

/-- What a scan comes to, in a directory whose settings can be read: the table of the outlines of its
    sources, unless its directories go too deep or a source is a link to itself. -/
inductive Scanned (limit : Option Nat) (w : Workspace) (root : Place) (s : Settings) :
    Except Failure (List Route) → Prop
  | table (os : List (Option Outline))
      (shallow : ∀ n, limit = some n → Discovery.depth w root s ≤ n)
      (reached : ∀ f ∈ Discovery.sources w root s, w.loops (.ofString f) = false)
      (outlines : os.map Except.ok = (Discovery.sources w root s).map
        fun f => (outlineAt w (Place.text (partsOf f.toList))).result) :
      Scanned limit w root s (.ok (sortedTable os))
  | tooDeep (n : Nat) (limited : limit = some n) (deep : n < Discovery.depth w root s) :
      Scanned limit w root s (.error .tooDeep)
  | loop (f : String) (found : f ∈ Discovery.sources w root s)
      (loops : w.loops (.ofString f) = true) :
      Scanned limit w root s (.error (.linkLoop (Place.text (partsOf f.toList))))

theorem settings_of_load {w : Workspace} {root : Place} (hroot : root.isProper = true)
    {ds : List (String × Tree)} (hdir : w.tree.find? root = some (.dir ds)) {s : Settings}
    (hload : Settings.load w root.path = .ok s) : settings w root = pure s := by
  unfold settings Discovery.settingsOrDefault
  rw [(Workspace.isDir_path (Place.dots_not_mem hroot)).mpr ⟨ds, hdir⟩, hload]
  rfl

/-- Sources give a table, which is the table of their outlines, unless one of them is a link to
    itself. -/
theorem table_scanned {limit : Option Nat} {w : Workspace} {root : Place} {s : Settings}
    (hshallow : ∀ n, limit = some n → Discovery.depth w root s ≤ n)
    (h : ∀ f ∈ Discovery.sources w root s, IsFilePath f) :
    Scanned limit w root s (table w root.text (Discovery.sources w root s)).result := by
  rw [result_table, Workspace.expand_of_isAbsolute w (Place.isAbsolute_ofString_text root)]
  change Scanned limit w root s (do
    let paths ← places w (.ofString root.text) (Discovery.sources w root s)
    let os ← (outlines w paths).result
    .ok (sortedTable os))
  have hplaced := places_placed w (.ofString root.text) h
  generalize places w (.ofString root.text) (Discovery.sources w root s) = paths at hplaced ⊢
  cases hplaced with
  | loop f hf hloops => exact .loop f hf hloops
  | places hreached =>
    have hproper : ∀ p ∈ (Discovery.sources w root s).map fun f => partsOf f.toList,
        Place.isProper p = true := by
      intro p hp
      obtain ⟨f, hf, rfl⟩ := List.mem_map.mp hp
      exact (h f hf).2
    obtain ⟨os, hos, hmap⟩ := exists_outlines w hproper
    rw [List.map_map] at hos
    rw [List.map_map, List.map_map] at hmap
    have hresult : (outlines w ((Discovery.sources w root s).map
        fun f => Place.text (partsOf f.toList))).result = .ok os := hos
    simp only [Bind.bind, Except.bind, hresult]
    exact .table os hshallow hreached hmap

/-- **A scan of a directory whose settings can be read.** -/
theorem within_scanned (limit : Option Nat) {content : Option Content → Bool} {w : Workspace}
    (hw : w.tree.every isName content = true) {root : Place} (hroot : root.isProper = true)
    {ds : List (String × Tree)} (hdir : w.tree.find? root = some (.dir ds)) {s : Settings}
    (hload : Settings.load w root.path = .ok s) :
    Scanned limit w root s (within limit w root).result := by
  have hreach : w.reach root = .ok root :=
    Workspace.reach_of_find? (Place.dots_not_mem hroot) hdir fun h => by cases h
  have hcheck := Discovery.checkProject_of_dir hroot hdir root.text
  unfold within projectWithin
  rw [settings_of_load hroot hdir hload]
  simp only [Reply.result_bind, Reply.result_pure, Reply.report,
    Discovery.result_findWithin_text limit w hroot, hreach, hcheck]
  simp only [Bind.bind, Except.bind]
  by_cases hdeep : ∃ n, limit = some n ∧ n < Discovery.depth w root s
  · obtain ⟨n, rfl, hdeep⟩ := hdeep
    have hrefused : Discovery.checkDepth (some n) w root s = .error .tooDeep :=
      if_pos (decide_eq_true hdeep)
    rw [hrefused]
    exact .tooDeep n rfl hdeep
  · have hshallow : ∀ n, limit = some n → Discovery.depth w root s ≤ n :=
      fun n hn => Nat.le_of_not_lt fun hlt => hdeep ⟨n, hn, hlt⟩
    have hpasses : Discovery.checkDepth limit w root s = .ok () := by
      cases limit with
      | none => rfl
      | some n => exact if_neg fun hlt => hdeep ⟨n, rfl, of_decide_eq_true hlt⟩
    rw [hpasses]
    exact table_scanned hshallow fun f hf => Discovery.isFilePath_of_mem_sources hw hroot hf

/-- An outline that was read has no line beyond the longest file. -/
theorem line_le_of_outlineAt {ok : String → Bool} {w : Workspace}
    (hw : w.tree.every ok (Option.all Content.fits) = true) {path : String} {o : Outline}
    (h : (outlineAt w path).result = .ok (some o)) {m : Method} (hm : m ∈ o.methods) :
    m.line ≤ Content.maxLength := by
  unfold outlineAt Workspace.readLossy at h
  simp only at h
  cases hc : w.read (.ofString path) with
  | error e =>
    rw [hc] at h
    cases e <;> cases h
  | ok c =>
    rw [hc] at h
    cases h
    obtain ⟨q, hq⟩ := Workspace.exists_file_of_read hc
    have hfits : c.decodeLossy.length < Content.maxLength :=
      of_decide_eq_true (Tree.every_find? hw hq).1
    calc m.line ≤ lineCount (String.ofList (unifyNewlines c.decodeLossy)) := line_le_lineCount hm
      _ ≤ (unifyNewlines c.decodeLossy).length + 1 := lineCount_le _
      _ ≤ c.decodeLossy.length + 1 := Nat.succ_le_succ (length_unifyNewlines_le _)
      _ ≤ Content.maxLength := hfits

/-- A table of outlines that were read has no line beyond the longest file. -/
theorem within_of_outlines {ok : String → Bool} {w : Workspace}
    (hw : w.tree.every ok (Option.all Content.fits) = true) {os : List (Option Outline)}
    {files : List String}
    (hos : os.map Except.ok =
      files.map fun f => (outlineAt w (Place.text (partsOf f.toList))).result) {r : Route}
    (hr : r ∈ sortedTable os) : r.Within Content.maxLength := by
  rw [sortedTable, List.mem_mergeSort] at hr
  refine within_of_mem_routeTable (by decide) ?_ hr
  intro o ho m hm
  obtain ⟨ho, _⟩ := List.mem_filter.mp ho
  obtain ⟨x, hx, hxo⟩ := List.mem_filterMap.mp ho
  cases hxo
  have hread : Except.ok (some o) ∈
      files.map fun f => (outlineAt w (Place.text (partsOf f.toList))).result := by
    rw [← hos]
    exact List.mem_map.mpr ⟨_, hx, rfl⟩
  obtain ⟨f, _, hf⟩ := List.mem_map.mp hread
  exact line_le_of_outlineAt hw hf hm

/-- **In an ordinary tree a scan gives a table,** without lines beyond the longest file. -/
theorem standard_ok {w : Workspace} (hw : w.tree.isOrdinary = true) {root : Place}
    (hroot : root.isOrdinary = true) {ds : List (String × Tree)}
    (hdir : w.tree.find? root = some (.dir ds)) {s : Settings}
    (hload : Settings.load w root.path = .ok s) :
    ∃ routes, (standard w root).result = .ok routes ∧
      ∀ r ∈ routes, r.Within Content.maxLength := by
  have hnames : w.tree.every isName (Option.all Content.fits) = true := by
    refine Tree.every_mono (fun _ hn => (isOrdinaryName_iff.mp hn).1) ?_ _ hw
    rintro (_ | c) hc
    · rfl
    · exact hc
  have hscanned := within_scanned none hnames (Place.isOrdinary_iff.mp hroot).1 hdir hload
  unfold standard
  generalize (within none w root).result = r at hscanned
  cases hscanned with
  | table os _ _ hos => exact ⟨_, rfl, fun r hr => within_of_outlines hnames hos hr⟩
  | tooDeep n hnone => cases hnone
  | loop f hf hloops =>
    rw [Workspace.loops_eq_false (Tree.find?_ne_loop hw)] at hloops
    cases hloops

end Scan

end SpringRoutes
