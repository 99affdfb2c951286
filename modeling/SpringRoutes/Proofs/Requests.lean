import SpringRoutes.Proofs.CacheFolder

/-!
# `SpringRoutes.Proofs.Requests` — what one request does

The steps of a request, each with its outcome:

* the root that it is about is a place of names (`Project.isProper_of_rootOf`), and one that was
  checked is a directory whose settings can be read (`Project.exists_dir_of_checkedRoot`);
* persisting a store in memory does nothing, and persisting one with a file saves it
  (`Store.persist_of_file_eq_none`, `Store.persist_of_isWritable`);
* with a store in memory a scan gives what the store has, or a new table that the store then has. If
  the scanner fails, the store has lost what a new table was to replace (`Project.scan_shared`).
-/

namespace SpringRoutes

open Store (Entry)

/-! ## Roots -/

/-- The root around a place of names is one of them, or of those above it. -/
theorem Root.isProper_around (w : Workspace) (markers : List String) {p : Place}
    (h : p.isProper = true) : (around w markers p).isProper = true := by
  have hnearest : ∀ {ms q}, nearest? w ms p = some q → q.isProper = true := by
    intro ms q hq
    obtain ⟨k, _, rfl⟩ := List.mem_map.mp (List.mem_of_find?_eq_some hq)
    exact Place.isProper_iff.mpr fun n hn => Place.isProper_iff.mp h n (List.mem_of_mem_take hn)
  unfold around
  cases hgit : nearest? w [".git"] p with
  | some q => exact hnearest hgit
  | none =>
    cases hmarker : nearest? w markers p with
    | some q => exact hnearest hmarker
    | none => exact h

theorem Root.isProper_directoryOf (w : Workspace) {p : Place} (h : p.isProper = true) :
    (directoryOf w p).isProper = true := by
  unfold directoryOf
  split
  · exact Place.isProper_iff.mpr fun n hn =>
      Place.isProper_iff.mp h n (List.dropLast_subset p hn)
  · exact h

namespace Project

theorem isProper_of_rootOf {w : Workspace} (hw : w.isProper = true) {path : Option String}
    {root : Place} (h : rootOf w path = .ok root) : root.isProper = true := by
  cases path with
  | some path => exact Workspace.isProper_placeOf hw h
  | none =>
    -- without a path the root is found from the current directory
    unfold rootOf Root.detect Workspace.currentPlace at h
    simp only [Bind.bind, Except.bind] at h
    cases hcwd : w.cwd with
    | none =>
      rw [hcwd] at h
      cases h
    | some here =>
      rw [hcwd] at h
      simp only at h
      have hhere : here.isProper = true := by
        have hall := (Bool.and_eq_true_iff.mp hw).2
        rwa [hcwd] at hall
      split at h
      · cases h
      · cases hreach : w.reach here with
        | error e =>
          rw [hreach] at h
          cases h
        | ok place =>
          rw [hreach] at h
          obtain rfl := (Workspace.reach_eq_ok.mp hreach).2
          cases h
          exact Root.isProper_around w _ (Root.isProper_directoryOf w hhere)

/-- A root that was checked is the root of the path, a directory, and its settings can be read. -/
theorem of_checkedRoot {w : Workspace} {path : Option String} {root : Place}
    (h : checkedRoot w path = .ok root) :
    rootOf w path = .ok root ∧ Discovery.checkProject w root root.text = .ok () ∧
      ∃ s, Settings.load w root.path = .ok s := by
  unfold checkedRoot at h
  simp only [Bind.bind, Except.bind] at h
  cases hplace : rootOf w path with
  | error e =>
    rw [hplace] at h
    cases h
  | ok place =>
    rw [hplace] at h
    simp only at h
    cases hcheck : Discovery.checkProject w place place.text with
    | error e =>
      rw [hcheck] at h
      cases h
    | ok _ =>
      rw [hcheck] at h
      simp only at h
      cases hload : Settings.load w place.path with
      | error e =>
        rw [hload] at h
        cases h
      | ok s =>
        rw [hload] at h
        cases h
        exact ⟨rfl, hcheck, s, hload⟩

theorem exists_dir_of_checkProject {w : Workspace} {root : Place} (hroot : root.isProper = true)
    {shown : String} (h : Discovery.checkProject w root shown = .ok ()) :
    ∃ ds, w.tree.find? root = some (.dir ds) := by
  refine (Workspace.isDir_path (Place.dots_not_mem hroot)).mp ?_
  unfold Discovery.checkProject at h
  cases hdir : w.isDir root.path with
  | true => rfl
  | false =>
    rw [hdir] at h
    split at h <;> cases h

/-- The root of a checked project is a directory, and its settings can be read. -/
theorem exists_dir_of_checkedRoot {w : Workspace} (hw : w.isProper = true) {path : Option String}
    {root : Place} (h : checkedRoot w path = .ok root) :
    root.isProper = true ∧ (∃ ds, w.tree.find? root = some (.dir ds)) ∧
      ∃ s, Settings.load w root.path = .ok s := by
  obtain ⟨hplace, hcheck, hload⟩ := of_checkedRoot h
  have hroot := isProper_of_rootOf hw hplace
  exact ⟨hroot, exists_dir_of_checkProject hroot hcheck, hload⟩

end Project

/-! ## Persisting -/

namespace Store

theorem persist_of_file_eq_none {s : Store} (h : s.file = none) (w : Workspace) :
    s.persist w = (s, w, none) := by
  unfold persist
  rw [h]
  cases s.isDirty <;> rfl

theorem persist_of_not_isDirty {s : Store} (h : s.isDirty = false) (w : Workspace) :
    s.persist w = (s, w, none) := by
  unfold persist
  rw [h]

/-- A changed store whose document can be written is saved. -/
theorem persist_of_isWritable {s : Store} {file : WrittenPath} (hdirty : s.isDirty = true)
    (hfile : s.file = some file) (hwritable : s.toJson.isWritable = true) (w : Workspace) :
    (s.persist w).2 = w.save file (.text s.toJson.render) ∧
      ((s.persist w).2.2 = none → (s.persist w).1 = { s with isDirty := false }) := by
  unfold persist
  rw [hdirty, hfile]
  simp only
  rw [if_pos hwritable]
  obtain ⟨w', fault⟩ := w.save file (.text s.toJson.render)
  cases fault with
  | none => exact ⟨rfl, fun _ => rfl⟩
  | some e => exact ⟨rfl, nofun⟩

theorem persist_of_save {s : Store} {w w' : Workspace} {file : WrittenPath}
    (hdirty : s.isDirty = true) (hfile : s.file = some file)
    (hwritable : s.toJson.isWritable = true)
    (hsave : w.save file (.text s.toJson.render) = (w', none)) :
    s.persist w = ({ s with isDirty := false }, w', none) := by
  obtain ⟨hchange, hstore⟩ := persist_of_isWritable hdirty hfile hwritable w
  rw [hsave] at hchange
  exact Prod.ext (hstore (congrArg Prod.snd hchange)) hchange

/-- The store `s'` has a table of the time `now` under the key, and otherwise what `s` has. -/
structure HasPut (s : Store) (key : String) (routes : List Route) (now : Moment) (s' : Store) :
    Prop where
  file : s'.file = s.file
  self : s'.entries.lookup key = some (.ofRoutes routes now)
  other : ∀ k, k ≠ key → s'.entries.lookup k = s.entries.lookup k

theorem hasPut_put (s : Store) (key : String) (routes : List Route) (now : Moment) :
    s.HasPut key routes now (s.put key routes now) where
  file := rfl
  self := by
    change (Entries.put s.entries key _).lookup key = _
    rw [Entries.lookup_put_self]
  other k hk := by
    change (Entries.put s.entries key _).lookup k = _
    rw [Entries.lookup_put_of_ne _ hk]

/-- What was dropped before does not show. -/
theorem hasPut_put_remove (s : Store) (key : String) (routes : List Route) (now : Moment) :
    s.HasPut key routes now ((s.remove key).put key routes now) where
  file := file_remove s key
  self := (hasPut_put (s.remove key) key routes now).self
  other k hk := by
    rw [(hasPut_put (s.remove key) key routes now).other k hk, entries_remove,
      Entries.lookup_drop_of_ne hk]

end Store

/-! ## Requests -/

namespace Project

/-- A scan that gives a table ends as persisting the table does. -/
theorem scanInto_of_scanner {scanner : Scanner} (c : Cache) {w : Workspace} {root : Place}
    (s : Store) (events : List Event) {routes : List Route}
    (hscan : (scanner w root).result = .ok routes) :
    let kept := (s.put root.text routes w.now).persist w
    (scanInto scanner c w root s events).reply.result
        = (match kept.2.2 with
          | none => .ok ⟨root, routes, false⟩
          | some e => .error e) ∧
      (scanInto scanner c w root s events).workspace = kept.2.1 ∧
      (scanInto scanner c w root s events).cache = c.keep kept.1 := by
  unfold scanInto
  simp only [hscan]
  obtain ⟨s', w', fault⟩ := (s.put root.text routes w.now).persist w
  cases fault <;> exact ⟨rfl, rfl, rfl⟩

/-- A scan that gives a table, which is then persisted. -/
theorem scanInto_of_ok {scanner : Scanner} (c : Cache) {w w' : Workspace} {root : Place}
    {s s' : Store} (events : List Event) {routes : List Route}
    (hscan : (scanner w root).result = .ok routes)
    (hpersist : (s.put root.text routes w.now).persist w = (s', w', none)) :
    (scanInto scanner c w root s events).reply.result = .ok ⟨root, routes, false⟩ ∧
      (scanInto scanner c w root s events).workspace = w' ∧
      (scanInto scanner c w root s events).cache = c.keep s' := by
  have h := scanInto_of_scanner c s events hscan
  rwa [hpersist] at h

/-- A scan that gives no table persists nothing. The store in memory stays as it was given. -/
theorem scanInto_of_error {scanner : Scanner} (c : Cache) {w : Workspace} {root : Place}
    (s : Store) (events : List Event) {e : Failure} (hscan : (scanner w root).result = .error e) :
    (scanInto scanner c w root s events).reply.result = .error e ∧
      (scanInto scanner c w root s events).workspace = w ∧
      (scanInto scanner c w root s events).cache = c.keep s := by
  simp [scanInto, hscan]

/-- A store from which something is dropped, and which is then persisted. -/
theorem forget_of_ok {c : Cache} {w w' : Workspace} {path : Option String} {root : Place}
    {s s' : Store} (hroot : rootOf w path = .ok root)
    (hopen : (c.openStore w root).result = .ok s)
    (hpersist : (s.remove root.text).persist w = (s', w', none)) :
    (forget c w path).reply.result = .ok (s.contains root.text) ∧
      (forget c w path).workspace = w' ∧ (forget c w path).cache = c.keep s' := by
  unfold forget
  simp [hroot, hopen, hpersist]

/-- What a scan with a store in memory comes to, once its root has been checked. The store gives its
    table and is left alone; or there is a new table, which the store is given; or there is none, and
    if one was asked for, the store has lost the table that it had. -/
inductive ScanShared (scanner : Scanner) (s : Store) (w : Workspace) (root : Place) :
    Bool → Outcome Table → Prop
  | kept {events : List Event} {routes : List Route} (h : s.routes? root.text = some routes) :
      ScanShared scanner s w root false ⟨⟨events, .ok ⟨root, routes, true⟩⟩, w, .shared s⟩
  | new {refresh : Bool} {events : List Event} {routes : List Route} {s' : Store}
      (asked : refresh = true ∨ s.routes? root.text = none)
      (scanned : (scanner w root).result = .ok routes)
      (h : s.HasPut root.text routes w.now s') :
      ScanShared scanner s w root refresh ⟨⟨events, .ok ⟨root, routes, false⟩⟩, w, .shared s'⟩
  | failed {events : List Event} {e : Failure} (h : s.routes? root.text = none)
      (scanned : (scanner w root).result = .error e) :
      ScanShared scanner s w root false ⟨⟨events, .error e⟩, w, .shared s⟩
  | lost {events : List Event} {e : Failure} (scanned : (scanner w root).result = .error e) :
      ScanShared scanner s w root true ⟨⟨events, .error e⟩, w, .shared (s.remove root.text)⟩

theorem scanShared_of_scanInto {scanner : Scanner} {w : Workspace} {s before s' : Store}
    {root : Place} {refresh : Bool} {routes : List Route} (events : List Event)
    (hscan : (scanner w root).result = .ok routes)
    (hasked : refresh = true ∨ s.routes? root.text = none)
    (hput : s.HasPut root.text routes w.now (before.put root.text routes w.now))
    (hs : s.file = none) :
    ScanShared scanner s w root refresh (scanInto scanner (.shared s') w root before events) := by
  obtain ⟨hresult, hworkspace, hcache⟩ := scanInto_of_ok (.shared s') events hscan
    (Store.persist_of_file_eq_none (hput.file.trans hs) w)
  generalize scanInto scanner (.shared s') w root before events = o at hresult hworkspace hcache
  obtain ⟨⟨_, result⟩, w', c⟩ := o
  change result = _ at hresult
  change w' = w at hworkspace
  change c = .shared _ at hcache
  subst hcache hresult hworkspace
  exact .new hasked hscan hput

/-- **A scan with a store in memory** of a root that was checked. -/
theorem scan_shared (scanner : Scanner) {w : Workspace} {s : Store} (hs : s.file = none)
    {path : Option String} {root : Place} (hroot : checkedRoot w path = .ok root)
    (refresh : Bool) :
    ScanShared scanner s w root refresh (scan scanner (.shared s) w path refresh) := by
  unfold scan
  simp only [hroot, Cache.openStore, Reply.result_pure]
  cases refresh with
  | true =>
    simp only [if_true]
    cases hscan : (scanner w root).result with
    | ok routes =>
      exact scanShared_of_scanInto _ hscan (.inl rfl)
        (Store.hasPut_put_remove s root.text routes w.now) hs
    | error e =>
      unfold scanInto
      simp only [hscan]
      exact .lost hscan
  | false =>
    simp only [Bool.false_eq_true, if_false]
    cases hkept : s.routes? root.text with
    | some kept => exact .kept hkept
    | none =>
      cases hscan : (scanner w root).result with
      | ok routes =>
        exact scanShared_of_scanInto _ hscan (.inr hkept)
          (Store.hasPut_put s root.text routes w.now) hs
      | error e =>
        unfold scanInto
        simp only [hscan]
        exact .failed hkept hscan

/-- A scan whose root does not pass the check does nothing. -/
theorem scan_of_checkedRoot_error (scanner : Scanner) (c : Cache) {w : Workspace}
    {path : Option String} {e : Failure} (h : checkedRoot w path = .error e) (refresh : Bool) :
    scan scanner c w path refresh = fail c w [] e := by
  unfold scan
  rw [h]

end Project

end SpringRoutes
