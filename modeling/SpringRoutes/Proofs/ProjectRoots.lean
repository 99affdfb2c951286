import Mathlib.Data.List.Induction
import SpringRoutes.Proofs.Requests

/-!
# `SpringRoutes.Proofs.ProjectRoots` — the root of a project is the nearest one

The root around a start is the deepest place at or above it that is under version control, else the deepest
one with a marker, else the start itself (`IsRootOf`). What is deepest for a place stays so for every place
between them (`IsDeepest.between`), so **every start between a root and its origin leads to the same root**,
the root itself included.

One case is apart. A marker may be blank, like `.`, and then it is there wherever anything is. If the start
is given as a place below a file, which cannot be, the file itself is taken for the root. A start at that
file means the directory that holds it, which is another root (`FoundRoot.file`). No other root is a file
(`IsRootOf.kind`).
-/

namespace SpringRoutes

namespace Root

/-! ## The deepest place -/

/-- Of a place and those above it, the deepest with a property. -/
structure IsDeepest (good : Place → Prop) (origin r : Place) : Prop where
  above : r <+: origin
  holds : good r
  deepest : ∀ q, q <+: origin → good q → q <+: r

/-- The deepest place stays the deepest for every place between. -/
theorem IsDeepest.between {good : Place → Prop} {origin q r : Place} (h : IsDeepest good origin r)
    (hr : r <+: q) (hq : q <+: origin) : IsDeepest good q r :=
  ⟨hr, h.holds, fun p hp => h.deepest p (hp.trans hq)⟩

theorem candidates_concat (p : Place) (n : String) :
    candidates (p ++ [n]) = (p ++ [n]) :: candidates p := by
  unfold candidates
  rw [List.length_append, List.length_singleton, List.range_succ, List.reverse_concat, List.map_cons,
    List.take_of_length_le (by simp)]
  congr 1
  refine List.map_congr_left fun k hk => ?_
  rw [List.mem_reverse, List.mem_range] at hk
  exact List.take_append_of_le_length (by omega)

/-- The nearest place with a marker is the deepest one. -/
theorem nearest?_spec (w : Workspace) (markers : List String) (p : Place) :
    (∃ r, nearest? w markers p = some r ∧ IsDeepest (hasMarker w markers · = true) p r) ∨
      nearest? w markers p = none ∧ ∀ q, q <+: p → ¬ hasMarker w markers q = true := by
  induction p using List.reverseRecOn with
  | nil =>
    have hnearest : nearest? w markers [] = if hasMarker w markers [] then some [] else none := by
      unfold nearest?
      cases h : hasMarker w markers [] <;> simp [candidates, h]
    rw [hnearest]
    by_cases h : hasMarker w markers [] = true
    · rw [if_pos h]
      exact .inl ⟨[], rfl, List.prefix_refl [], h, fun q hq _ => hq⟩
    · rw [if_neg h]
      refine .inr ⟨rfl, fun q hq => ?_⟩
      rwa [List.prefix_nil.mp hq]
  | append_singleton p n ih =>
    have hnearest : nearest? w markers (p ++ [n])
        = if hasMarker w markers (p ++ [n]) then some (p ++ [n]) else nearest? w markers p := by
      unfold nearest?
      rw [candidates_concat, List.find?_cons]
      cases h : hasMarker w markers (p ++ [n]) <;> simp
    rw [hnearest]
    by_cases h : hasMarker w markers (p ++ [n]) = true
    · rw [if_pos h]
      exact .inl ⟨_, rfl, List.prefix_refl _, h, fun q hq _ => hq⟩
    · rw [if_neg h]
      -- what is above the place is above the directory that holds it, or the place itself
      have hup : ∀ q, q <+: p ++ [n] → hasMarker w markers q = true → q <+: p := by
        intro q hq hmarker
        rcases List.prefix_concat_iff.mp hq with rfl | hq
        · exact absurd hmarker h
        · exact hq
      rcases ih with ⟨r, hr, hdeepest⟩ | ⟨hnone, hall⟩
      · refine .inl ⟨r, hr, hdeepest.above.trans (List.prefix_append _ _), hdeepest.holds, ?_⟩
        exact fun q hq hmarker => hdeepest.deepest q (hup q hq hmarker) hmarker
      · exact .inr ⟨hnone, fun q hq hmarker => hall q (hup q hq hmarker) hmarker⟩

/-! ## Roots -/

/-- The place holds an entry called `.git`, which is not a link to itself. -/
def HasGit (w : Workspace) (q : Place) : Prop :=
  ∃ t, w.tree.find? (q ++ [".git"]) = some t ∧ t ≠ .loop

/-- One of the markers exists when it is read from the place. -/
def Marked (w : Workspace) (markers : List String) (q : Place) : Prop :=
  ∃ m ∈ markers, w.hasEntry (q.path.append (.ofString m)) = true

/-- The root around an origin. -/
inductive IsRootOf (w : Workspace) (markers : List String) (origin : Place) : Place → Prop
  | git {r : Place} (nearest : IsDeepest (HasGit w) origin r) : IsRootOf w markers origin r
  | marked {r : Place} (noGit : ∀ q, q <+: origin → ¬ HasGit w q)
      (nearest : IsDeepest (Marked w markers) origin r) : IsRootOf w markers origin r
  | unmarked (noGit : ∀ q, q <+: origin → ¬ HasGit w q)
      (noMarker : ∀ q, q <+: origin → ¬ Marked w markers q) : IsRootOf w markers origin origin

theorem hasMarker_iff {w : Workspace} {markers : List String} {q : Place} :
    hasMarker w markers q = true ↔ Marked w markers q :=
  List.any_eq_true

/-- A place with a link to itself for `.git` does not count. -/
theorem hasMarker_git_iff {w : Workspace} {q : Place} (hq : q.isProper = true) :
    hasMarker w [".git"] q = true ↔ HasGit w q := by
  have hdots : ".." ∉ q ++ [".git"] := Place.dots_not_mem (Workspace.isProper_concat hq (by decide))
  have hpath : q.path.append (.ofString ".git") = Place.path (q ++ [".git"]) := rfl
  rw [hasMarker, List.any_cons, List.any_nil, Bool.or_false, hpath, Workspace.hasEntry,
    Workspace.find?_path w hdots, Option.isSome_iff_exists]
  exact exists_congr fun t => Tree.bind_followed?_eq_some

theorem isProper_of_isPrefix {q p : Place} (hp : p.isProper = true) (h : q <+: p) :
    q.isProper = true :=
  Place.isProper_iff.mpr fun n hn => Place.isProper_iff.mp hp n (h.subset hn)

/-- What is above a place that is reached is reached. -/
theorem reach_of_isPrefix {w : Workspace} {q p : Place} (hp : p.isProper = true)
    (hreached : w.reach p = .ok p) (h : q <+: p) : w.reach q = .ok q := by
  obtain ⟨rest, rfl⟩ := h
  exact Workspace.reach_of_append (Place.dots_not_mem hp) hreached

theorem IsDeepest.congr {good good' : Place → Prop} {origin r : Place}
    (h : IsDeepest good origin r) (hgood : ∀ q, q <+: origin → (good q ↔ good' q)) :
    IsDeepest good' origin r :=
  ⟨h.above, (hgood r h.above).mp h.holds,
    fun q hq hholds => h.deepest q hq ((hgood q hq).mpr hholds)⟩

/-- There is one deepest place. -/
theorem IsDeepest.unique {good : Place → Prop} {origin r r' : Place}
    (h : IsDeepest good origin r) (h' : IsDeepest good origin r') : r = r' :=
  (h'.deepest r h.above h.holds).eq_of_length_le (h.deepest r' h'.above h'.holds).length_le

/-- **The root that is found is the nearest one:** by version control, else by a marker. -/
theorem isRootOf_around (w : Workspace) (markers : List String) {origin : Place}
    (horigin : origin.isProper = true) : IsRootOf w markers origin (around w markers origin) := by
  have hgit : ∀ q, q <+: origin → (hasMarker w [".git"] q = true ↔ HasGit w q) :=
    fun q hq => hasMarker_git_iff (isProper_of_isPrefix horigin hq)
  unfold around
  rcases nearest?_spec w [".git"] origin with ⟨r, hr, hdeepest⟩ | ⟨hnone, hall⟩
  · rw [hr]
    exact .git (hdeepest.congr hgit)
  · have hnoGit : ∀ q, q <+: origin → ¬ HasGit w q :=
      fun q hq h => hall q hq ((hgit q hq).mpr h)
    rw [hnone, Option.none_or]
    rcases nearest?_spec w markers origin with ⟨r, hr, hdeepest⟩ | ⟨hnone, hall⟩
    · rw [hr]
      exact .marked hnoGit (hdeepest.congr fun q _ => hasMarker_iff)
    · rw [hnone]
      exact .unmarked hnoGit fun q hq h => hall q hq (hasMarker_iff.mpr h)

namespace IsRootOf

variable {w : Workspace} {markers : List String} {origin r : Place}

theorem above (h : IsRootOf w markers origin r) : r <+: origin := by
  cases h with
  | git hnearest => exact hnearest.above
  | marked _ hnearest => exact hnearest.above
  | unmarked => exact List.prefix_refl _

theorem unique {r' : Place} (h : IsRootOf w markers origin r) (h' : IsRootOf w markers origin r') :
    r = r' := by
  cases h with
  | git hgit =>
    cases h' with
    | git hgit' => exact hgit.unique hgit'
    | marked hnone => exact absurd hgit.holds (hnone r hgit.above)
    | unmarked hnone => exact absurd hgit.holds (hnone r hgit.above)
  | marked hnone hmarked =>
    cases h' with
    | git hgit => exact absurd hgit.holds (hnone r' hgit.above)
    | marked _ hmarked' => exact hmarked.unique hmarked'
    | unmarked _ hnone' => exact absurd hmarked.holds (hnone' r hmarked.above)
  | unmarked hnone hnone' =>
    cases h' with
    | git hgit => exact absurd hgit.holds (hnone r' hgit.above)
    | marked _ hmarked => exact absurd hmarked.holds (hnone' r' hmarked.above)
    | unmarked => rfl

/-- **Every place between an origin and its root has that root.** -/
theorem between {q : Place} (h : IsRootOf w markers origin r) (hr : r <+: q) (hq : q <+: origin) :
    IsRootOf w markers q r := by
  cases h with
  | git hnearest => exact .git (hnearest.between hr hq)
  | marked hnone hnearest =>
    exact .marked (fun p hp => hnone p (hp.trans hq)) (hnearest.between hr hq)
  | unmarked hnone hnone' =>
    obtain rfl : q = origin := hq.eq_of_length_le hr.length_le
    exact .unmarked hnone hnone'

end IsRootOf

theorem around_of_isRootOf {w : Workspace} {markers : List String} {origin r : Place}
    (horigin : origin.isProper = true) (h : IsRootOf w markers origin r) :
    around w markers origin = r :=
  (isRootOf_around w markers horigin).unique h

/-! ## What a root is -/

/-- Nothing is found below what is no directory. -/
theorem walk_below {t : Tree} (here : Place) {r : Place} {parts : List String} (hdots : ".." ∉ r)
    (hdir : ∀ es, t.find? (here ++ r) ≠ some (.dir es)) (hne : parts ≠ []) :
    ∃ kind, Workspace.walk t here (r ++ parts) = .error kind := by
  induction r generalizing here with
  | nil =>
    obtain ⟨n, parts, rfl⟩ := List.exists_cons_of_ne_nil hne
    rw [List.append_nil] at hdir
    rw [List.nil_append, Workspace.walk]
    cases hfind : t.find? here with
    | none => exact ⟨_, rfl⟩
    | some u =>
      cases u with
      | file c | loop => exact ⟨_, rfl⟩
      | dir es => exact absurd hfind (hdir es)
  | cons n r ih =>
    rw [List.mem_cons, not_or] at hdots
    rw [List.cons_append, Workspace.walk]
    cases hfind : t.find? here with
    | none => exact ⟨_, rfl⟩
    | some u =>
      cases u with
      | file c | loop => exact ⟨_, rfl⟩
      | dir es =>
        have hfollow : here.follow n = here ++ [n] := if_neg (Ne.symm hdots.1)
        dsimp only
        rw [hfollow]
        exact ih (here ++ [n]) hdots.2 (by simpa using hdir)

/-- A marker that is found from a place is absolute, or the place is a directory, or the place is a file
    and the marker names nothing. -/
theorem kind_of_hasEntry {w : Workspace} {r : Place} (hr : r.isProper = true) {m : WrittenPath}
    (h : w.hasEntry (r.path.append m) = true) :
    m.isAbsolute = true ∨ (∃ es, w.tree.find? r = some (.dir es)) ∨
      (∃ c, w.tree.find? r = some (.file c)) ∧ m = ⟨"", []⟩ := by
  by_cases habs : m.isAbsolute = true
  · exact .inl habs
  · refine .inr ?_
    have happend : r.path.append m = ⟨"/", r ++ m.parts⟩ := if_neg habs
    rw [happend, Workspace.hasEntry] at h
    by_cases hdir : ∃ es, w.tree.find? r = some (.dir es)
    · exact .inl hdir
    · have hparts : m.parts = [] := by
        by_contra hne
        obtain ⟨kind, hwalk⟩ := walk_below [] (Place.dots_not_mem hr) (not_exists.mp hdir) hne
        have hlook : w.look ⟨"/", r ++ m.parts⟩ = .error kind := hwalk
        rw [Workspace.find?, hlook] at h
        cases h
      rw [hparts, List.append_nil] at h
      have hfind := Workspace.find?_path w (Place.dots_not_mem hr)
      rw [Place.path] at hfind
      rw [hfind, Option.isSome_iff_exists] at h
      obtain ⟨t, ht⟩ := h
      obtain ⟨ht, hloop⟩ := Tree.bind_followed?_eq_some.mp ht
      cases t with
      | dir es => exact absurd ⟨es, ht⟩ hdir
      | loop => exact absurd rfl hloop
      | file c =>
        refine .inr ⟨⟨c, ht⟩, ?_⟩
        have hanchor : m.anchor = "" := by simpa [WrittenPath.isAbsolute] using habs
        cases m with
        | mk anchor parts => exact congrArg₂ WrittenPath.mk hanchor hparts

/-- **A root is its origin or a directory**, or else it is a file and one of the markers names nothing. -/
theorem IsRootOf.kind {w : Workspace} {markers : List String} {origin r : Place}
    (h : IsRootOf w markers origin r) (horigin : origin.isProper = true) :
    r = origin ∨ (∃ es, w.tree.find? r = some (.dir es)) ∨
      (∃ c, w.tree.find? r = some (.file c)) ∧ (∀ q, q <+: origin → ¬ HasGit w q) ∧
        ∃ m ∈ markers, WrittenPath.ofString m = ⟨"", []⟩ := by
  cases h with
  | git hnearest =>
    obtain ⟨t, ht, _⟩ := hnearest.holds
    exact .inr (.inl (Tree.exists_dir_of_find?_concat ht))
  | marked hnone hnearest =>
    obtain ⟨m, hm, hentry⟩ := hnearest.holds
    rcases kind_of_hasEntry (isProper_of_isPrefix horigin hnearest.above) hentry with habs | hdir | hfile
    · -- an absolute marker is found from the origin as well
      have hmarked : Marked w markers origin := by
        refine ⟨m, hm, ?_⟩
        rw [WrittenPath.append, if_pos habs] at hentry ⊢
        exact hentry
      have hdeepest := hnearest.deepest origin (List.prefix_refl _) hmarked
      exact .inl (hnearest.above.eq_of_length_le hdeepest.length_le)
    · exact .inr (.inl hdir)
    · exact .inr (.inr ⟨hfile.1, hnone, m, hm, hfile.2⟩)
  | unmarked => exact .inl rfl

/-! ## Detecting -/

/-- The place where detection starts: the current directory, or the place of a path. -/
inductive StartsAt (w : Workspace) : Option String → Place → Prop
  | here {p : Place} (cwd : w.cwd = some p) (reached : w.reach p = .ok p) : StartsAt w none p
  | empty {p : Place} (cwd : w.cwd = some p) (reached : w.reach p = .ok p) : StartsAt w (some "") p
  | path {s : String} {p : Place} (ne : s ≠ "") (place : w.placeOf s = .ok p) : StartsAt w (some s) p

theorem StartsAt.isProper {w : Workspace} (hw : w.isProper = true) {start : Option String} {p : Place}
    (h : StartsAt w start p) : p.isProper = true := by
  have hcwd : w.cwd = some p → p.isProper = true := by
    intro hcwd
    have hall := (Bool.and_eq_true_iff.mp hw).2
    rwa [hcwd] at hall
  cases h with
  | here h _ => exact hcwd h
  | empty h _ => exact hcwd h
  | path _ hplace => exact Workspace.isProper_placeOf hw hplace

/-- There is no link to itself on the way to a start. -/
theorem StartsAt.reached {w : Workspace} {start : Option String} {p : Place}
    (h : StartsAt w start p) : w.reach p = .ok p := by
  cases h with
  | here _ hreached => exact hreached
  | empty _ hreached => exact hreached
  | path _ hplace => exact Workspace.reach_of_placeOf hplace

/-- From a start, detection looks at the directories around it. -/
theorem detect_of_startsAt {w : Workspace} {start : Option String} {p : Place}
    (h : StartsAt w start p) (given : Option (List String)) :
    detect w start given = .ok (around w (markersOf given) (directoryOf w p)) := by
  unfold detect
  cases h with
  | here hcwd hreached =>
    simp only [Workspace.currentPlace, hcwd, hreached, Bind.bind, Except.bind]
  | empty hcwd hreached =>
    simp only [Workspace.currentPlace, hcwd, hreached, Bind.bind, Except.bind]
  | path hne hplace => simp only [hplace, Bind.bind, Except.bind]

theorem startsAt_text {w : Workspace} {q : Place} (hq : q.isProper = true)
    (hreached : w.reach q = .ok q) : StartsAt w (some q.text) q := by
  refine .path ?_ ((Workspace.placeOf_text w hq).trans hreached)
  intro hempty
  have hlen := congrArg String.length hempty
  simp [Place.text] at hlen

/-- There is a file at the place. -/
def IsFileAt (w : Workspace) (p : Place) : Prop :=
  ∃ c, w.tree.find? p = some (.file c)

/-- A file is in a directory, since the tree as a whole is one. -/
theorem IsFileAt.exists_dir {w : Workspace} (hroot : w.tree.isDir = true) {p : Place}
    (h : IsFileAt w p) : ∃ d n es, p = d ++ [n] ∧ w.tree.find? d = some (.dir es) := by
  obtain ⟨c, hc⟩ := h
  rcases List.eq_nil_or_concat p with rfl | ⟨d, n, rfl⟩
  · rw [Option.some.inj hc] at hroot
    cases hroot
  · rw [List.concat_eq_append] at hc ⊢
    obtain ⟨es, hes⟩ := Tree.exists_dir_of_find?_concat hc
    exact ⟨d, n, es, rfl, hes⟩

/-- The origin of a search: a start that is a file stands for the directory that holds it. -/
inductive IsOrigin (w : Workspace) (p : Place) : Place → Prop
  | file (file : IsFileAt w p) : IsOrigin w p p.dropLast
  | other (other : ¬ IsFileAt w p) : IsOrigin w p p

theorem isOrigin_directoryOf {w : Workspace} {p : Place} (hp : p.isProper = true) :
    IsOrigin w p (directoryOf w p) := by
  unfold directoryOf Workspace.isFile
  rw [Workspace.find?_path w (Place.dots_not_mem hp)]
  cases hfind : w.tree.find? p with
  | none =>
    refine .other fun ⟨c, hc⟩ => ?_
    rw [hfind] at hc
    cases hc
  | some t =>
    cases t with
    | file c => exact .file ⟨c, hfind⟩
    | dir es | loop =>
      refine .other fun ⟨c, hc⟩ => ?_
      rw [hfind] at hc
      cases hc

theorem IsOrigin.eq_directoryOf {w : Workspace} {p origin : Place} (h : IsOrigin w p origin)
    (hp : p.isProper = true) : directoryOf w p = origin := by
  have hdirectory : IsOrigin w p (directoryOf w p) := isOrigin_directoryOf hp
  generalize directoryOf w p = o at hdirectory
  cases h with
  | file hfile =>
    cases hdirectory with
    | file => rfl
    | other hother => exact absurd hfile hother
  | other hother =>
    cases hdirectory with
    | file hfile => exact absurd hfile hother
    | other => rfl

/-- The search starts at the start itself, or at the directory around it. -/
theorem IsOrigin.isPrefix {w : Workspace} {p origin : Place} (h : IsOrigin w p origin) :
    origin <+: p := by
  cases h with
  | file => exact List.dropLast_prefix p
  | other => exact List.prefix_refl p

theorem IsOrigin.not_isFileAt {w : Workspace} (hroot : w.tree.isDir = true) {p origin : Place}
    (h : IsOrigin w p origin) : ¬ IsFileAt w origin := by
  cases h with
  | file hfile =>
    obtain ⟨d, n, es, rfl, hes⟩ := hfile.exists_dir hroot
    rintro ⟨c, hc⟩
    rw [List.dropLast_concat, hes] at hc
    cases hc
  | other hother => exact hother

/-- What is found for an origin. -/
structure FoundRoot (w : Workspace) (given : Option (List String)) (origin r : Place) : Prop where
  nearest : IsRootOf w (markersOf given) origin r
  directory : r = origin ∨ IsFileAt w r ∨ ∃ es, w.tree.find? r = some (.dir es)
  /-- The root is its own root. -/
  again : ¬ IsFileAt w r → detect w (some r.text) given = .ok r
  between : ∀ q : Place, r <+: q → q <+: origin → q ≠ r → detect w (some q.text) given = .ok r
  /-- The only roots that are files. -/
  file : IsFileAt w r → r ≠ origin ∧ (∃ m ∈ markersOf given, WrittenPath.ofString m = ⟨"", []⟩) ∧
    detect w (some r.text) given = .ok r.dropLast

/-- A place that is reached can be given by its text. -/
theorem detect_text {w : Workspace} {q origin r : Place} (hq : q.isProper = true)
    (hreached : w.reach q = .ok q) (horigin : IsOrigin w q origin) {given : Option (List String)}
    (h : IsRootOf w (markersOf given) origin r) : detect w (some q.text) given = .ok r := by
  have hproper := isProper_directoryOf w hq
  rw [horigin.eq_directoryOf hq] at hproper
  rw [detect_of_startsAt (startsAt_text hq hreached), horigin.eq_directoryOf hq,
    around_of_isRootOf hproper h]

/-- A blank marker makes every directory the root around it, where nothing is under version control. -/
theorem isRootOf_of_blank {w : Workspace} {markers : List String} {d : Place} (hd : d.isProper = true)
    {es : List (String × Tree)} (hdir : w.tree.find? d = some (.dir es))
    (hnone : ∀ q, q <+: d → ¬ HasGit w q) {m : String} (hm : m ∈ markers)
    (hblank : WrittenPath.ofString m = ⟨"", []⟩) : IsRootOf w markers d d := by
  have happend : d.path.append (.ofString m) = d.path := by
    rw [hblank]
    exact congrArg (WrittenPath.mk "/") (List.append_nil d)
  have hentry : w.hasEntry (d.path.append (.ofString m)) = true := by
    rw [happend, Workspace.hasEntry, Workspace.find?_path w (Place.dots_not_mem hd), hdir]
    rfl
  exact .marked hnone ⟨List.prefix_refl d, ⟨m, hm, hentry⟩, fun q hq _ => hq⟩

theorem foundRoot_of_isRootOf {w : Workspace} (hroot : w.tree.isDir = true)
    {given : Option (List String)} {origin r : Place} (horigin : origin.isProper = true)
    (hreached : w.reach origin = .ok origin) (hfree : ¬ IsFileAt w origin)
    (h : IsRootOf w (markersOf given) origin r) : FoundRoot w given origin r := by
  have hr := isProper_of_isPrefix horigin h.above
  have habove : ∀ {q : Place}, q <+: origin → w.reach q = .ok q := reach_of_isPrefix horigin hreached
  refine ⟨h, ?_, ?_, ?_, ?_⟩
  · rcases h.kind horigin with heq | hdir | ⟨hfile, _⟩
    · exact .inl heq
    · exact .inr (.inr hdir)
    · exact .inr (.inl hfile)
  · intro hother
    exact detect_text hr (habove h.above) (.other hother) (h.between (List.prefix_refl r) h.above)
  · intro q hrq hq hne
    have hproper := isProper_of_isPrefix horigin hq
    by_cases hfile : IsFileAt w q
    · -- a file between them stands for the directory that holds it, which is between them too
      obtain ⟨d, n, _, rfl, _⟩ := hfile.exists_dir hroot
      have hrd : r <+: d := (List.prefix_concat_iff.mp hrq).resolve_left (Ne.symm hne)
      refine detect_text hproper (habove hq) (.file hfile) ?_
      rw [List.dropLast_concat]
      exact h.between hrd ((List.prefix_append d [n]).trans hq)
    · exact detect_text hproper (habove hq) (.other hfile) (h.between hrq hq)
  · intro hfile
    have hne : r ≠ origin := by
      rintro rfl
      exact hfree hfile
    rcases h.kind horigin with heq | ⟨es, hes⟩ | ⟨_, hnone, m, hm, hblank⟩
    · exact absurd heq hne
    · obtain ⟨c, hc⟩ := hfile
      rw [hes] at hc
      cases hc
    · refine ⟨hne, ⟨m, hm, hblank⟩, detect_text hr (habove h.above) (.file hfile) ?_⟩
      obtain ⟨d, n, es, rfl, hes⟩ := hfile.exists_dir hroot
      have hd : d <+: origin := (List.prefix_append d [n]).trans h.above
      rw [List.dropLast_concat]
      exact isRootOf_of_blank (isProper_of_isPrefix horigin hd) hes (fun q hq => hnone q (hq.trans hd))
        hm hblank

/-- **Detection finds the nearest root, and finds it again** from the root and from every place between it
    and the origin. A root that is a file is the exception: from there the directory that holds it is
    found. -/
theorem detect_nearest {w : Workspace} (hw : w.isProper = true) (hroot : w.tree.isDir = true)
    {start : Option String} {p origin : Place} (hstart : StartsAt w start p)
    (horigin : IsOrigin w p origin) (given : Option (List String)) :
    ∃ r, detect w start given = .ok r ∧ FoundRoot w given origin r := by
  have hp := hstart.isProper hw
  have hproper := isProper_directoryOf w hp
  refine ⟨_, detect_of_startsAt hstart given, ?_⟩
  rw [horigin.eq_directoryOf hp] at hproper ⊢
  exact foundRoot_of_isRootOf hroot hproper (reach_of_isPrefix hp hstart.reached horigin.isPrefix)
    (horigin.not_isFileAt hroot) (isRootOf_around w (markersOf given) hproper)

/-- A module of a shop, whose own marker, one of the default ones, is nearer than that of the shop; and
    a place below a file, where a blank marker takes the file for the root. -/
theorem detect_nearest_shop :
    let w : Workspace :=
      { tree := .dir [("shop", .dir
          [("pom.xml", .file (.text "")), ("notes", .file (.text "")),
           ("web", .dir [("pom.xml", .file (.text "")),
             ("src", .dir [("A.java", .file (.text "class A"))])])])]
        cwd := some ["shop", "web"]
        home := ["home"]
        now := { year := 2024, month := 1, day := 1 } }
    w.isProper = true ∧ w.tree.isDir = true ∧
      StartsAt w (some "src/A.java") ["shop", "web", "src", "A.java"] ∧
      IsOrigin w ["shop", "web", "src", "A.java"] ["shop", "web", "src"] ∧
      detect w (some "src/A.java") none = .ok ["shop", "web"] ∧
      FoundRoot w none ["shop", "web", "src"] ["shop", "web"] ∧
      detect w (some "/shop/notes/x") (some ["."]) = .ok ["shop", "notes"] ∧
      FoundRoot w (some ["."]) ["shop", "notes", "x"] ["shop", "notes"] := by
  intro w
  have hw : w.isProper = true := by decide +kernel
  have hsource : StartsAt w (some "src/A.java") ["shop", "web", "src", "A.java"] :=
    .path (by decide) (by decide +kernel)
  have hnote : StartsAt w (some "/shop/notes/x") ["shop", "notes", "x"] :=
    .path (by decide) (by decide +kernel)
  have horigin : IsOrigin w ["shop", "web", "src", "A.java"] ["shop", "web", "src"] :=
    .file ⟨.text "class A", rfl⟩
  have hbelow : IsOrigin w ["shop", "notes", "x"] ["shop", "notes", "x"] :=
    .other fun ⟨c, hc⟩ => by cases hc
  have hdetect : detect w (some "src/A.java") none = .ok ["shop", "web"] := by decide +kernel
  have hdetectNote : detect w (some "/shop/notes/x") (some ["."]) = .ok ["shop", "notes"] := by
    decide +kernel
  refine ⟨hw, rfl, hsource, horigin, hdetect, ?_, hdetectNote, ?_⟩
  · obtain ⟨r, hr, hfound⟩ := detect_nearest hw rfl hsource horigin none
    rw [hdetect] at hr
    cases hr
    exact hfound
  · obtain ⟨r, hr, hfound⟩ := detect_nearest hw rfl hnote hbelow (some ["."])
    rw [hdetectNote] at hr
    cases hr
    exact hfound

end Root

end SpringRoutes
