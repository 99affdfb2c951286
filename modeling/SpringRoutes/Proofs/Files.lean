import SpringRoutes.Proofs.Paths
import SpringRoutes.Proofs.Trees

/-!
# `SpringRoutes.Proofs.Files` — looking at places, and saving files

Looking follows a path directory by directory and may stop on the way. At a place of names it comes
to the same as looking the place up in the tree (`find?_path`), and an entry of an existing
directory is always reached (`look_child`). A place is not reached if there is a link to itself on
the way (`loops_path_iff`), so whatever is above a place that is reached is reached, too. From that
follow

* `save_in_folder`: a file in a folder of an existing directory is written without a fault, and the
  folder is made if it is missing;
* the lemmas `_without`: what is read along a path does not depend on directories whose name the
  path does not mention.
-/

namespace SpringRoutes

namespace Workspace

/-! ## Looking at places -/

/-- Walking along names either stops, and then nothing is at their end, or reaches their end. -/
theorem walk_cases (t : Tree) (here : Place) {parts : List String} (h : ".." ∉ parts) :
    (∃ kind, walk t here parts = .error kind ∧ t.find? (here ++ parts) = none) ∨
      walk t here parts = .ok (here ++ parts, t.find? (here ++ parts)) := by
  induction parts generalizing here with
  | nil =>
    rw [List.append_nil]
    exact .inr rfl
  | cons n parts ih =>
    rw [List.mem_cons, not_or] at h
    have hsplit : here ++ n :: parts = here ++ [n] ++ parts := by simp
    rw [walk]
    cases hfind : t.find? here with
    | none =>
      refine .inl ⟨_, rfl, ?_⟩
      rw [Tree.find?_append, hfind]
      rfl
    | some u =>
      cases u with
      | file c => exact .inl ⟨_, rfl, Tree.find?_append_of_entries hfind rfl n parts⟩
      | loop => exact .inl ⟨_, rfl, Tree.find?_append_of_entries hfind rfl n parts⟩
      | dir es =>
        have hfollow : here.follow n = here ++ [n] := by
          rw [Place.follow, if_neg (Ne.symm h.1)]
        simp only [hfollow, hsplit]
        exact ih (here ++ [n]) h.2

theorem find?_of_walk {t : Tree} {here q : Place} {parts : List String}
    {o : Option Tree} (h : walk t here parts = .ok (q, o)) : o = t.find? q := by
  induction parts generalizing here with
  | nil =>
    cases h
    rfl
  | cons n parts ih =>
    rw [walk] at h
    cases hfind : t.find? here with
    | none =>
      rw [hfind] at h
      cases h
    | some u =>
      rw [hfind] at h
      cases u with
      | file c => cases h
      | loop => cases h
      | dir es => exact ih h

/-- The entries of an existing directory are always reached. -/
theorem walk_child {t : Tree} (here : Place) {parts : List String} {es : List (String × Tree)}
    {name : String} (h : ".." ∉ parts) (hname : name ≠ "..")
    (hdir : t.find? (here ++ parts) = some (.dir es)) :
    walk t here (parts ++ [name]) = .ok (here ++ parts ++ [name], es.lookup name) := by
  induction parts generalizing here with
  | nil =>
    rw [List.append_nil] at hdir ⊢
    simp [walk, hdir, Place.follow, hname, Tree.find?_append, Tree.find?]
  | cons n parts ih =>
    rw [List.mem_cons, not_or] at h
    have hsplit : here ++ n :: parts = here ++ [n] ++ parts := by simp
    have hfollow : here.follow n = here ++ [n] := by
      rw [Place.follow, if_neg (Ne.symm h.1)]
    rw [List.cons_append, walk]
    cases hfind : t.find? here with
    | none =>
      rw [Tree.find?_append, hfind] at hdir
      cases hdir
    | some u =>
      cases u with
      | file c =>
        rw [Tree.find?_append, hfind] at hdir
        cases hdir
      | loop =>
        rw [Tree.find?_append, hfind] at hdir
        cases hdir
      | dir _ =>
        simp only [hfollow, hsplit]
        rw [hsplit] at hdir
        exact ih (here ++ [n]) h.2 hdir

/-- Looking for a place finds what the tree has there, and fails only where it has nothing. -/
theorem look_cases (w : Workspace) {p : Place} (h : ".." ∉ p) :
    (∃ kind, w.look p.path = .error kind ∧ w.tree.find? p = none) ∨
      w.look p.path = .ok (p, w.tree.find? p) :=
  walk_cases w.tree [] h

theorem look_child {w : Workspace} {p : Place} {es : List (String × Tree)} {name : String}
    (h : ".." ∉ p) (hname : name ≠ "..") (hdir : w.tree.find? p = some (.dir es)) :
    w.look (p.path.child name) = .ok (p ++ [name], es.lookup name) :=
  walk_child [] h hname hdir

/-- Looking along a place of names is looking it up; a link to itself leads nowhere. -/
theorem find?_path (w : Workspace) {p : Place} (h : ".." ∉ p) :
    w.find? p.path = (w.tree.find? p).bind Tree.followed? := by
  unfold find?
  rcases look_cases w h with ⟨kind, hlook, hnone⟩ | hlook
  · rw [hlook, hnone]
    rfl
  · rw [hlook]

theorem isDir_path {w : Workspace} {p : Place} (h : ".." ∉ p) :
    w.isDir p.path = true ↔ ∃ es, w.tree.find? p = some (.dir es) := by
  unfold isDir
  rw [find?_path w h]
  cases w.tree.find? p with
  | none => simp
  | some t => cases t <;> simp [Tree.followed?, Tree.isDir]

theorem hasNull_path {p : Place} (h : p.isProper = true) : p.path.hasNull = false := by
  rw [hasNull_eq_false]
  intro n hn
  exact (isName_iff.mp (Place.isProper_iff.mp h n hn)).2.2.2.2

/-- A file that is there can be read. -/
theorem read_file {w : Workspace} {p : Place} {c : Content} (h : p.isProper = true)
    (hfile : w.tree.find? p = some (.file c)) : w.read p.path = .ok c := by
  unfold read
  rw [hasNull_path h]
  rcases look_cases w (Place.dots_not_mem h) with ⟨kind, _, hnone⟩ | hlook
  · rw [hnone] at hfile
    cases hfile
  · rw [hlook, hfile]
    rfl

/-- Reading along names fails for no other reason than the state of the files. -/
theorem read_cases (w : Workspace) {p : WrittenPath} (h : p.hasNull = false) :
    (∃ c, w.read p = .ok c) ∨ ∃ f, w.read p = .error (.file f) := by
  unfold read
  rw [h]
  cases w.look p with
  | error kind => exact .inr ⟨_, rfl⟩
  | ok r =>
    obtain ⟨here, t⟩ := r
    cases t with
    | none => exact .inr ⟨_, rfl⟩
    | some t =>
      cases t with
      | file c => exact .inl ⟨c, rfl⟩
      | loop => exact .inr ⟨_, rfl⟩
      | dir es => exact .inr ⟨_, rfl⟩

/-- What is not there cannot be read. -/
theorem read_missing (w : Workspace) {p : Place} (h : p.isProper = true)
    (hnone : w.tree.find? p = none) : ∃ f, w.read p.path = .error (.file f) := by
  unfold read
  rw [hasNull_path h]
  rcases look_cases w (Place.dots_not_mem h) with ⟨kind, hlook, _⟩ | hlook
  · rw [hlook]
    exact ⟨_, rfl⟩
  · rw [hlook, hnone]
    exact ⟨_, rfl⟩

/-! ## Links on the way -/

/-- Walking along names comes to a link to itself exactly if there is one on the way. -/
theorem isAtLoop_walk_iff (t : Tree) (here : Place) {parts : List String} (h : ".." ∉ parts) :
    isAtLoop (walk t here parts) = true ↔
      ∃ way rest, way ++ rest = parts ∧ t.find? (here ++ way) = some .loop := by
  induction parts generalizing here with
  | nil =>
    have hends : isAtLoop (walk t here []) = true ↔ t.find? here = some .loop := by
      rw [walk]
      cases t.find? here with
      | none => simp [isAtLoop]
      | some u => cases u <;> simp [isAtLoop]
    rw [hends]
    constructor
    · intro hloop
      exact ⟨[], [], rfl, by rwa [List.append_nil]⟩
    · rintro ⟨way, rest, hparts, hloop⟩
      rw [(List.append_eq_nil_iff.mp hparts).1, List.append_nil] at hloop
      exact hloop
  | cons n parts ih =>
    rw [List.mem_cons, not_or] at h
    have hfollow : here.follow n = here ++ [n] := by rw [Place.follow, if_neg (Ne.symm h.1)]
    rw [walk]
    cases hfind : t.find? here with
    | none =>
      refine iff_of_false (by simp [isAtLoop]) ?_
      rintro ⟨way, rest, _, hloop⟩
      rw [Tree.find?_append, hfind] at hloop
      cases hloop
    | some u =>
      cases u with
      | file c =>
        refine iff_of_false (by simp [isAtLoop]) ?_
        rintro ⟨way, rest, _, hloop⟩
        cases way with
        | nil =>
          rw [List.append_nil, hfind] at hloop
          cases hloop
        | cons m way =>
          rw [Tree.find?_append_of_entries hfind rfl] at hloop
          cases hloop
      | loop => exact iff_of_true rfl ⟨[], n :: parts, rfl, by rwa [List.append_nil]⟩
      | dir es =>
        simp only [hfollow]
        rw [ih (here ++ [n]) h.2]
        constructor
        · rintro ⟨way, rest, rfl, hloop⟩
          exact ⟨n :: way, rest, rfl, by rwa [List.append_assoc] at hloop⟩
        · rintro ⟨way, rest, hparts, hloop⟩
          cases way with
          | nil =>
            rw [List.append_nil, hfind] at hloop
            cases hloop
          | cons m way =>
            obtain ⟨rfl, rfl⟩ := List.cons.inj hparts
            exact ⟨way, rest, rfl, by rwa [List.append_assoc]⟩

/-- **A place is not reached exactly if there is a link to itself on the way.** -/
theorem loops_path_iff (w : Workspace) {p : Place} (h : ".." ∉ p) :
    w.loops p.path = true ↔ ∃ way rest, way ++ rest = p ∧ w.tree.find? way = some .loop :=
  isAtLoop_walk_iff w.tree [] h

/-- In a tree without links, walking comes to none, however it climbs. -/
theorem isAtLoop_walk_eq_false {t : Tree} (h : ∀ p, t.find? p ≠ some .loop) (here : Place)
    (parts : List String) : isAtLoop (walk t here parts) = false := by
  induction parts generalizing here with
  | nil =>
    have hends := h here
    rw [walk]
    cases hfind : t.find? here with
    | none => rfl
    | some u =>
      rw [hfind] at hends
      cases u with
      | loop => exact absurd rfl hends
      | file c => rfl
      | dir es => rfl
  | cons n parts ih =>
    have hstarts := h here
    rw [walk]
    cases hfind : t.find? here with
    | none => rfl
    | some u =>
      rw [hfind] at hstarts
      cases u with
      | loop => exact absurd rfl hstarts
      | file c => rfl
      | dir es => exact ih (here.follow n)

/-- In a tree without links no path loops. -/
theorem loops_eq_false {w : Workspace} (h : ∀ p, w.tree.find? p ≠ some .loop) (p : WrittenPath) :
    w.loops p = false := by
  unfold loops look
  split
  · exact isAtLoop_walk_eq_false h [] p.parts
  · cases w.cwd with
    | none => rfl
    | some here => exact isAtLoop_walk_eq_false h here p.parts

theorem reach_of_find?_ne_loop {w : Workspace} (h : ∀ p, w.tree.find? p ≠ some .loop) (p : Place) :
    w.reach p = .ok p :=
  reach_eq_ok.mpr ⟨loops_eq_false h p.path, rfl⟩

/-- What is above a place that is reached is reached. -/
theorem reach_of_append {w : Workspace} {p q : Place} (hdots : ".." ∉ p ++ q)
    (h : w.reach (p ++ q) = .ok (p ++ q)) : w.reach p = .ok p := by
  refine reach_eq_ok.mpr ⟨?_, rfl⟩
  have hreached := (reach_eq_ok.mp h).1
  rw [← Bool.not_eq_true, loops_path_iff w hdots] at hreached
  rw [List.mem_append, not_or] at hdots
  rw [← Bool.not_eq_true, loops_path_iff w hdots.1]
  rintro ⟨way, rest, rfl, hloop⟩
  exact hreached ⟨way, rest ++ q, (List.append_assoc ..).symm, hloop⟩

/-- There is no link to itself above a file or a directory. -/
theorem find?_ne_loop_of_append {t u : Tree} {way rest : Place} (hfind : t.find? (way ++ rest) = some u)
    (hu : u ≠ .loop) : t.find? way ≠ some .loop := by
  intro hloop
  cases rest with
  | nil =>
    rw [List.append_nil, hloop] at hfind
    exact hu (Option.some.inj hfind).symm
  | cons n rest =>
    rw [Tree.find?_append_of_entries hloop rfl] at hfind
    cases hfind

/-- A file or a directory that is there is reached. -/
theorem reach_of_find? {w : Workspace} {p : Place} {t : Tree} (hdots : ".." ∉ p)
    (hfind : w.tree.find? p = some t) (ht : t ≠ .loop) : w.reach p = .ok p := by
  refine reach_eq_ok.mpr ⟨?_, rfl⟩
  rw [← Bool.not_eq_true, loops_path_iff w hdots]
  rintro ⟨way, rest, rfl, hloop⟩
  exact find?_ne_loop_of_append hfind ht hloop

/-! ## Saving -/

theorem isProper_concat {p : Place} {name : String} (hp : p.isProper = true)
    (hname : isName name = true) : Place.isProper (p ++ [name]) = true := by
  unfold Place.isProper at hp ⊢
  rw [List.all_append, hp]
  simpa using hname

theorem parent_child (p : WrittenPath) (name : String) : (p.child name).parent = p := by
  simp [WrittenPath.parent, WrittenPath.child]

/-- A folder of an existing directory can be made, and one that is there is left alone. -/
theorem makeDirs_folder {w : Workspace} {p : Place} {es fs : List (String × Tree)}
    {folder : String} (hp : p.isProper = true) (hfolder : isName folder = true)
    (hdir : w.tree.find? p = some (.dir es))
    (hold : es.lookup folder = some (.dir fs) ∨ es.lookup folder = none ∧ fs = []) :
    w.makeDirs (p.path.child folder) =
      ({ w with tree := w.tree.set (p ++ [folder]) (.dir fs) }, none) := by
  have hproper := isProper_concat hp hfolder
  have hlook := look_child (Place.dots_not_mem hp) (isName_iff.mp hfolder).2.2.1 hdir
  have hlength : (p.path.child folder).parts.length = p.length + 1 := List.length_append
  have hnull : (p.path.child folder).hasNull = false := hasNull_path hproper
  unfold makeDirs
  rw [hnull, hlength]
  -- the directory around the folder exists, so nothing above the folder is ever made
  rcases hold with hthere | ⟨hmissing, rfl⟩
  · have hfind : w.tree.find? (p ++ [folder]) = some (.dir fs) := by
      rw [Tree.find?_child hdir, hthere]
    have hmake : w.makeDir (p.path.child folder) = .error .taken := by
      unfold makeDir
      rw [hlook, hthere]
    have hisDir : w.isDir (p.path.child folder) = true :=
      (isDir_path (Place.dots_not_mem hproper)).mpr ⟨fs, hfind⟩
    rw [Tree.set_find? hfind]
    simp [makeDirsAbove, hmake, settle, hisDir]
  · have hmake : w.makeDir (p.path.child folder)
        = .ok { w with tree := w.tree.set (p ++ [folder]) (.dir []) } := by
      unfold makeDir
      rw [hlook, hmissing]
    simp [makeDirsAbove, hmake, settle]

/-- A file of an existing directory can be written, if the file system takes it. -/
theorem write_child {w : Workspace} {p : Place} {es : List (String × Tree)} {name : String}
    (hp : p.isProper = true) (hname : isName name = true)
    (haccepts : w.platform.accepts (p.path.child name) = true)
    (hdir : w.tree.find? p = some (.dir es))
    (hold : ∀ t, es.lookup name = some t → ∃ old, t = .file old) (c : Content) :
    w.write (p.path.child name) c
      = .ok { w with tree := w.tree.set (p ++ [name]) (.file c) } := by
  have hlook := look_child (Place.dots_not_mem hp) (isName_iff.mp hname).2.2.1 hdir
  have hnull : (p.path.child name).hasNull = false := hasNull_path (isProper_concat hp hname)
  unfold write modifyFile
  rw [hnull, haccepts, hlook]
  cases hentry : es.lookup name with
  | none => rfl
  | some t =>
    obtain ⟨old, rfl⟩ := hold t hentry
    rfl

/-- **A file in a folder of an existing directory is saved,** if the file system takes it. -/
theorem save_in_folder {w : Workspace} {p : Place} {es fs : List (String × Tree)}
    {folder name : String} (hp : p.isProper = true) (hfolder : isName folder = true)
    (hname : isName name = true)
    (haccepts : w.platform.accepts ((p.path.child folder).child name) = true)
    (hdir : w.tree.find? p = some (.dir es))
    (hold : es.lookup folder = some (.dir fs) ∨ es.lookup folder = none ∧ fs = [])
    (hfile : ∀ t, fs.lookup name = some t → ∃ old, t = .file old) (c : Content) :
    w.save ((p.path.child folder).child name) c =
      ({ w with tree := w.tree.set (p ++ [folder]) (.dir (Entries.put fs name (.file c))) },
        none) := by
  -- the file is written into the tree in which the folder has been made
  have hmade := Tree.find?_set_self w.tree (.dir fs) (p ++ [folder])
  have hwrite : ({ w with tree := w.tree.set (p ++ [folder]) (.dir fs) } : Workspace).write
      ((p.path.child folder).child name) c = _ :=
    write_child (w := { w with tree := w.tree.set (p ++ [folder]) (.dir fs) })
      (isProper_concat hp hfolder) hname haccepts hmade hfile c
  unfold save
  rw [parent_child, makeDirs_folder hp hfolder hdir hold]
  simp only
  rw [hwrite]
  simp only
  rw [Tree.set_append hmade, Tree.set_set]
  rfl

/-- A file or a link stands in the way of a folder of its name, and nothing is made. -/
theorem makeDirs_of_not_isDir {w : Workspace} {p : Place} {es : List (String × Tree)}
    {folder : String} {t : Tree} (hp : p.isProper = true) (hfolder : isName folder = true)
    (hdir : w.tree.find? p = some (.dir es)) (hthere : es.lookup folder = some t)
    (ht : t.isDir = false) :
    ∃ e, w.makeDirs (p.path.child folder) = (w, some e) := by
  have hlook := look_child (Place.dots_not_mem hp) (isName_iff.mp hfolder).2.2.1 hdir
  rw [hthere] at hlook
  have hmake : w.makeDir (p.path.child folder) = .error .taken := by
    unfold makeDir
    rw [hlook]
  have hnotDir : w.isDir (p.path.child folder) = false := by
    unfold isDir find?
    rw [hlook]
    cases t with
    | dir ds => cases ht
    | file c => rfl
    | loop => rfl
  have hnull : (p.path.child folder).hasNull = false := hasNull_path (isProper_concat hp hfolder)
  have hlength : (p.path.child folder).parts.length = p.length + 1 := List.length_append
  unfold makeDirs
  rw [hnull, hlength]
  simp [makeDirsAbove, hmake, settle, hnotDir]

/-- A directory or a link stands in the way of a file of its name. -/
theorem write_of_not_file {w : Workspace} {p : Place} {es : List (String × Tree)} {name : String}
    {t : Tree} (hp : p.isProper = true) (hname : isName name = true)
    (hdir : w.tree.find? p = some (.dir es)) (hthere : es.lookup name = some t)
    (ht : ∀ old, t ≠ .file old) (c : Content) :
    ∃ e, w.write (p.path.child name) c = .error e := by
  have hlook := look_child (Place.dots_not_mem hp) (isName_iff.mp hname).2.2.1 hdir
  have hnull : (p.path.child name).hasNull = false := hasNull_path (isProper_concat hp hname)
  unfold write modifyFile
  rw [hnull, hlook, hthere]
  cases w.platform.accepts (p.path.child name) with
  | false => exact ⟨_, rfl⟩
  | true =>
    cases t with
    | file old => exact absurd rfl (ht old)
    | dir ds => exact ⟨_, rfl⟩
    | loop => exact ⟨_, rfl⟩

/-- A file that the file system does not take is not written. -/
theorem write_of_not_accepts {w : Workspace} {p : WrittenPath}
    (haccepts : w.platform.accepts p = false) (c : Content) : ∃ e, w.write p c = .error e := by
  unfold write modifyFile
  rw [haccepts]
  cases p.hasNull with
  | true => exact ⟨_, rfl⟩
  | false => exact ⟨_, rfl⟩

theorem save_of_write_error {w w' : Workspace} {p : WrittenPath} {c : Content} {e : Failure}
    (hdirs : w.makeDirs p.parent = (w', none)) (hwrite : w'.write p c = .error e) :
    w.save p c = (w', some e) := by
  unfold save
  rw [hdirs]
  simp only
  rw [hwrite]

/-- What saving a file in a folder of a directory comes to. -/
inductive SavedInFolder (w : Workspace) (place : Place) (file : WrittenPath) :
    Workspace × Option Failure → Prop
  | saved (w' : Workspace) : SavedInFolder w place file (w', none)
  /-- Something of the name was there, and nothing has changed. -/
  | unchanged (e : Failure) {t : Tree} (there : w.tree.find? place = some t) :
      SavedInFolder w place file (w, some e)
  /-- The file system does not take the file, and the folder has been made for nothing. -/
  | folderMade (e : Failure) (missing : w.tree.find? place = none)
      (refused : w.platform.accepts file = false) :
      SavedInFolder w place file ({ w with tree := w.tree.set place (.dir []) }, some e)

/-- **Saving in a folder of an existing directory changes nothing when it fails,** with one
    exception. It fails when the folder is a file or a link, and then no folder is made, or when the
    file is a directory or a link, and then the folder was there before. A folder that was missing is
    left behind when the file system does not take the file. -/
theorem save_in_folder_cases {w : Workspace} {p : Place} {es : List (String × Tree)}
    {folder name : String} (hp : p.isProper = true) (hfolder : isName folder = true)
    (hname : isName name = true) (hdir : w.tree.find? p = some (.dir es)) (c : Content) :
    SavedInFolder w (p ++ [folder]) ((p.path.child folder).child name)
      (w.save ((p.path.child folder).child name) c) := by
  have hfind := Tree.find?_child hdir folder
  cases hthere : es.lookup folder with
  | none =>
    rw [hthere] at hfind
    cases haccepts : w.platform.accepts ((p.path.child folder).child name) with
    | true =>
      rw [save_in_folder hp hfolder hname haccepts hdir (.inr ⟨hthere, rfl⟩)
        (fun _ ht => by cases ht) c]
      exact .saved _
    | false =>
      have hmade := makeDirs_folder hp hfolder hdir (.inr ⟨hthere, rfl⟩)
      obtain ⟨e, he⟩ := write_of_not_accepts
        (w := { w with tree := w.tree.set (p ++ [folder]) (.dir []) }) haccepts c
      rw [save_of_write_error (by rw [parent_child, hmade]) he]
      exact .folderMade e hfind haccepts
  | some t =>
    rw [hthere] at hfind
    cases t with
    | file old =>
      obtain ⟨e, he⟩ := makeDirs_of_not_isDir hp hfolder hdir hthere rfl
      unfold save
      rw [parent_child, he]
      exact .unchanged e hfind
    | loop =>
      obtain ⟨e, he⟩ := makeDirs_of_not_isDir hp hfolder hdir hthere rfl
      unfold save
      rw [parent_child, he]
      exact .unchanged e hfind
    | dir fs =>
      have hmade := makeDirs_folder hp hfolder hdir (.inl hthere)
      rw [Tree.set_find? hfind] at hmade
      -- the folder is there, so a file that is not written leaves everything as it was
      have hunchanged : (∃ e, w.write ((p.path.child folder).child name) c = .error e) →
          SavedInFolder w (p ++ [folder]) ((p.path.child folder).child name)
            (w.save ((p.path.child folder).child name) c) := by
        rintro ⟨e, he⟩
        rw [save_of_write_error (by rw [parent_child, hmade]) he]
        exact .unchanged e hfind
      by_cases hfile : ∀ t, fs.lookup name = some t → ∃ old, t = .file old
      · cases haccepts : w.platform.accepts ((p.path.child folder).child name) with
        | true =>
          rw [save_in_folder hp hfolder hname haccepts hdir (.inl hthere) hfile c]
          exact .saved _
        | false => exact hunchanged (write_of_not_accepts haccepts c)
      · obtain ⟨t, hfile⟩ := Classical.not_forall.mp hfile
        obtain ⟨ht, hnot⟩ := Classical.not_imp.mp hfile
        exact hunchanged (write_of_not_file (isProper_concat hp hfolder) hname hfind ht
          (fun old heq => hnot ⟨old, heq⟩) c)

/-! ## What writing leaves alone -/

theorem platform_of_modifyFile {w w' : Workspace} {p : WrittenPath}
    {change : Option Content → Content} (h : w.modifyFile p change = .ok w') :
    w'.platform = w.platform := by
  unfold modifyFile at h
  split at h
  · cases h
  · split at h
    · cases h
    · split at h <;> cases h <;> rfl

theorem platform_of_makeDir {w w' : Workspace} {p : WrittenPath} (h : w.makeDir p = .ok w') :
    w'.platform = w.platform := by
  unfold makeDir at h
  split at h <;> cases h
  rfl

theorem platform_settle {w : Workspace} {p : WrittenPath} {r : Except FileFault.Kind Workspace}
    (h : ∀ w', r = .ok w' → w'.platform = w.platform) :
    (w.settle p r).1.platform = w.platform := by
  cases r with
  | ok w' => exact h w' rfl
  | error kind =>
    unfold settle
    dsimp only
    split <;> rfl

theorem platform_makeDirsAbove (n : Nat) (w : Workspace) (p : WrittenPath) :
    (makeDirsAbove n w p).1.platform = w.platform := by
  induction n generalizing w p with
  | zero => exact platform_settle fun _ => platform_of_makeDir
  | succ n ih =>
    have habove := ih w p.parent
    unfold makeDirsAbove
    split
    · split
      · next w' hmade =>
        rw [hmade] at habove
        exact (platform_settle fun _ => platform_of_makeDir).trans habove
      · exact habove
    · exact platform_settle fun _ => platform_of_makeDir

/-- Making directories does not change the platform. -/
theorem platform_makeDirs (w : Workspace) (p : WrittenPath) :
    (w.makeDirs p).1.platform = w.platform := by
  unfold makeDirs
  split
  · rfl
  · exact platform_makeDirsAbove ..

/-- **Saving leaves the platform alone,** also when it fails halfway. -/
theorem platform_save (w : Workspace) (p : WrittenPath) (c : Content) :
    (w.save p c).1.platform = w.platform := by
  have hdirs := w.platform_makeDirs p.parent
  unfold save
  split
  · next w' hmade =>
    rw [hmade] at hdirs
    split
    · next hwrite => exact (platform_of_modifyFile hwrite).trans hdirs
    · exact hdirs
  · exact hdirs

/-! ## Reading what was written

A path may climb with `..`, so the way to a file may lead through places that the file has nothing
to do with. All of them are directories, and a file that is written in place of none leaves every
directory one. -/

/-- A directory stays one when a file is put in place of no directory. -/
theorem isDir_set_file {t : Tree} {here q : Place} {c : Content}
    (hfree : ∀ es, t.find? q ≠ some (.dir es)) {es : List (String × Tree)}
    (hdir : t.find? here = some (.dir es)) :
    ∃ es', (t.set q (.file c)).find? here = some (.dir es') := by
  by_cases hpre : here <+: q
  · -- the file is below the directory
    obtain ⟨rest, rfl⟩ := hpre
    cases rest with
    | nil =>
      rw [List.append_nil] at hfree
      exact absurd hdir (hfree es)
    | cons n rest =>
      rw [Tree.set_append hdir, Tree.find?_set_self, Tree.set]
      exact ⟨_, rfl⟩
  · by_cases hpre' : q <+: here
    · -- nothing is below a file, and nothing below nothing
      obtain ⟨rest, rfl⟩ := hpre'
      rw [Tree.find?_append] at hdir
      obtain ⟨u, hu, hrest⟩ := Option.bind_eq_some_iff.mp hdir
      cases u with
      | dir ds => exact absurd hu (hfree ds)
      | file c =>
        cases rest with
        | nil => cases hrest
        | cons n rest => cases hrest
      | loop =>
        cases rest with
        | nil => cases hrest
        | cons n rest => cases hrest
    · rw [Tree.find?_set_of_apart _ _ hpre' hpre]
      exact ⟨es, hdir⟩

/-- The way to a place leads to the file that is put there. -/
theorem walk_set_file {t : Tree} {here q : Place} {parts : List String} {o : Option Tree}
    (h : walk t here parts = .ok (q, o)) (hfree : ∀ es, o ≠ some (.dir es)) (c : Content) :
    walk (t.set q (.file c)) here parts = .ok (q, some (.file c)) := by
  obtain rfl := find?_of_walk h
  induction parts generalizing here with
  | nil =>
    cases h
    rw [walk, Tree.find?_set_self]
  | cons n parts ih =>
    rw [walk] at h ⊢
    cases hfind : t.find? here with
    | none =>
      rw [hfind] at h
      cases h
    | some u =>
      rw [hfind] at h
      cases u with
      | file c => cases h
      | loop => cases h
      | dir es =>
        obtain ⟨es', hdir⟩ := isDir_set_file (c := c) hfree hfind
        rw [hdir]
        exact ih h

/-- **What is written is read.** -/
theorem read_of_write {w w' : Workspace} {p : WrittenPath} {c : Content}
    (h : w.write p c = .ok w') : w'.read p = .ok c := by
  unfold write modifyFile at h
  split at h
  · cases h
  · next hnull =>
    -- a fault ends the writing; a directory is one, and so is a link to itself
    have hlook : ∃ q o, w.look p = .ok (q, o) ∧ (∀ es, o ≠ some (.dir es)) ∧
        w' = { w with tree := w.tree.set q (.file c) } := by
      split at h
      · cases h
      split at h
      · cases h
      · cases h
      · cases h
      · next q hq =>
        cases h
        exact ⟨q, none, hq, fun es => nofun, rfl⟩
      · next q old hq =>
        cases h
        exact ⟨q, _, hq, fun es => nofun, rfl⟩
    obtain ⟨q, o, hlook, hfree, rfl⟩ := hlook
    have hlook' : ({ w with tree := w.tree.set q (.file c) } : Workspace).look p
        = .ok (q, some (.file c)) := by
      unfold look at hlook ⊢
      split at hlook
      · next habs =>
        rw [if_pos habs]
        exact walk_set_file hlook hfree c
      · next habs =>
        rw [if_neg habs]
        cases hcwd : w.cwd with
        | none =>
          rw [hcwd] at hlook
          cases hlook
        | some here =>
          rw [hcwd] at hlook
          exact walk_set_file hlook hfree c
    unfold read
    rw [if_neg hnull, hlook']

theorem read_of_save {w w' : Workspace} {p : WrittenPath} {c : Content}
    (h : w.save p c = (w', none)) : w'.read p = .ok c := by
  unfold save at h
  split at h
  · split at h
    · next hwrite =>
      cases h
      exact read_of_write hwrite
    · cases h
  · next hfault =>
    cases hmake : w.makeDirs p.parent with
    | mk w₁ fault =>
      rw [hmake] at h hfault
      cases h
      exact absurd rfl (hfault _)

/-! ## Reading without the directories of a name -/

/-- The workspace without the directories called `name`, at any depth. -/
def without (name : String) (w : Workspace) : Workspace :=
  { w with tree := w.tree.without name }

section Without

variable {name : String}

theorem walk_without (t : Tree) {here : Place} {parts : List String} (hhere : name ∉ here)
    (hparts : name ∉ parts) :
    walk (t.without name) here parts
      = (walk t here parts).map fun r => (r.1, r.2.map (Tree.without name)) := by
  induction parts generalizing here with
  | nil =>
    rw [walk, walk, Tree.find?_without hhere]
    rfl
  | cons n parts ih =>
    rw [List.mem_cons, not_or] at hparts
    -- a step up only takes names away
    have hnext : name ∉ here.follow n := by
      unfold Place.follow
      split
      · exact fun h => hhere (List.dropLast_subset _ h)
      · rw [List.mem_append, List.mem_singleton, not_or]
        exact ⟨hhere, hparts.1⟩
    rw [walk, walk, Tree.find?_without hhere]
    cases t.find? here with
    | none => rfl
    | some u =>
      cases u with
      | file c => rfl
      | loop => rfl
      | dir es => exact ih hnext hparts.2

section Paths

variable (w : Workspace) {p : WrittenPath} (habs : p.isAbsolute = true) (h : name ∉ p.parts)

include habs h

/-- A path that does not lead through the directories left out leads to the same place. -/
theorem look_without :
    (w.without name).look p = (w.look p).map fun r => (r.1, r.2.map (Tree.without name)) := by
  unfold look
  rw [habs]
  exact walk_without w.tree List.not_mem_nil h

theorem find?_without : (w.without name).find? p = (w.find? p).map (Tree.without name) := by
  unfold find?
  rw [look_without w habs h]
  cases w.look p with
  | error kind => rfl
  | ok r =>
    obtain ⟨here, t⟩ := r
    cases t with
    | none => rfl
    | some t => exact Tree.followed?_without t

theorem loops_without : (w.without name).loops p = w.loops p := by
  unfold loops
  rw [look_without w habs h]
  cases w.look p with
  | error kind => rfl
  | ok r =>
    obtain ⟨here, t⟩ := r
    cases t with
    | none => rfl
    | some t => cases t <;> rfl

theorem hasEntry_without : (w.without name).hasEntry p = w.hasEntry p := by
  unfold hasEntry
  rw [find?_without w habs h, Option.isSome_map]

theorem isDir_without : (w.without name).isDir p = w.isDir p := by
  unfold isDir
  rw [find?_without w habs h, Option.any_map]
  congr 1
  funext t
  exact Tree.isDir_without t

theorem isFile_without : (w.without name).isFile p = w.isFile p := by
  unfold isFile
  rw [find?_without w habs h, Option.any_map]
  congr 1
  funext t
  exact congrArg (!·) (Tree.isDir_without t)

/-- Such a file can be read as before. -/
theorem read_without : (w.without name).read p = w.read p := by
  unfold read
  rw [look_without w habs h]
  cases w.look p with
  | error kind => rfl
  | ok r =>
    obtain ⟨here, t⟩ := r
    cases t with
    | none => rfl
    | some t => cases t <;> rfl

theorem readText_without : (w.without name).readText p = w.readText p := by
  unfold readText
  rw [read_without w habs h]

theorem readLossy_without : (w.without name).readLossy p = w.readLossy p := by
  unfold readLossy
  rw [read_without w habs h]

end Paths

theorem reach_without (w : Workspace) {p : Place} (h : name ∉ p) :
    (w.without name).reach p = w.reach p := by
  unfold reach
  rw [loops_without w rfl h]

/-- An absolute path leads along its own components. -/
theorem resolve_without (w : Workspace) {p : WrittenPath} (habs : p.isAbsolute = true)
    (h : name ∉ p.parts) : (w.without name).resolve p = w.resolve p := by
  have hplace : name ∉ p.parts.foldl Place.follow [] := by
    intro hmem
    rcases Place.mem_foldl_follow hmem with hmem | ⟨hmem, _⟩
    · exact List.not_mem_nil hmem
    · exact h hmem
  rw [resolve_of_isAbsolute _ habs, resolve_of_isAbsolute w habs, reach_without w hplace]

end Without

end Workspace

end SpringRoutes
