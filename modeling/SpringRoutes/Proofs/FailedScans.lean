import SpringRoutes.Proofs.Requests

/-!
# `SpringRoutes.Proofs.FailedScans` — what a scan that fails leaves behind

When a new table is asked for, a scan drops the old one before it looks at the sources, and keeps the
new one only at its end. `Project.scan_error_leaves` says what is left when it fails, which it does at
one of three points (`Project.Leaves`):

* before it drops anything: there is no such project, its settings or its store cannot be read. Then
  nothing has changed;
* while it looks at the sources: the directories go too deep, or a source is a link to itself
  (`Scan.Scanned`). The files are as they were, **but a store in memory has lost the old table**. A
  project's own store has not, since what was dropped is still in its file;
* when it saves the project's own store. Whatever was read can be written again
  (`Store.writable_of_load`), so what can go wrong is that something else has the name of the folder
  or of the file, and then nothing is made, or that the file system does not take the file. **Then the
  folder for results may have been made for nothing** (`Workspace.save_in_folder_cases`).

A store in memory is not saved, so with one the third point does not come.
-/

namespace SpringRoutes

open Store (Entry)

/-! ## Documents that can be written -/

namespace Store

/-- An entry that can be written: no key comes twice, and no integer is too long. -/
structure Entry.Writable (e : Entry) : Prop where
  distinct : Json.IsDistinct (.object e)
  writable : (Json.object e).isWritable = true

/-- Entries whose document can be written. -/
structure Writable (es : List (String × Entry)) : Prop where
  distinct : (es.map (·.1)).Nodup
  entries : ∀ e ∈ es, e.2.Writable

theorem writable_nil : Writable [] where
  distinct := List.nodup_nil
  entries _ he := absurd he List.not_mem_nil

/-- The entries of a document that was read: their order within the document does not matter. -/
theorem writable_entriesOf {j : Json} (hj : Json.IsDistinct j) (hwritable : j.isWritable = true) :
    Writable (entriesOf j) where
  distinct := nodup_entriesOf hj
  entries e he := by
    obtain ⟨_, es, fields, _, _, hes, hf, _, heq⟩ := mem_entriesOf.mp he
    have hentries : (Json.object es).isWritable = true := by
      cases j with
      | object fields => exact Json.every_object.mp hwritable _ (Entries.mem_of_lookup hes)
      | _ => cases hes
    cases isDistinct_entries hj hes with
    | object _ _ hvalues =>
      have hdistinct := hvalues _ hf
      have hfields := Json.every_canonical hdistinct (Json.every_object.mp hentries _ hf)
      have hordered := Json.isOrdered_canonical hdistinct
      rw [Json.canonical, ← heq] at hfields hordered
      exact ⟨Json.isDistinct_of_isOrdered hordered, hfields⟩

/-- **What was read can be written.** -/
theorem writable_of_load {w : Workspace} {file : WrittenPath} {s : Store}
    (h : (load w file).result = .ok s) : Writable s.entries := by
  obtain ⟨_, _, hnone | ⟨text, j, hj, heq⟩⟩ := load_eq_ok h
  · rw [hnone]
    exact writable_nil
  · rw [heq]
    exact writable_entriesOf (Json.isDistinct_of_parse hj) (Json.isWritable_of_parse hj)

theorem Writable.remove {s : Store} (h : Writable s.entries) (key : String) :
    Writable (s.remove key).entries where
  distinct := nodup_remove key h.distinct
  entries := forall_mem_remove key h.entries

/-- Routes that were scanned can be written, since their lines have few digits. -/
theorem Writable.put {s : Store} (h : Writable s.entries) (key : String) {routes : List Route}
    (hroutes : ∀ r ∈ routes, r.Within Content.maxLength) (now : Moment) :
    Writable (s.put key routes now).entries := by
  obtain ⟨hdistinct, _, hwritable⟩ := Json.isPlain_iff.mp (keeps_ofRoutes .standard hroutes now).plain
  exact ⟨nodup_put key h.distinct routes now,
    forall_mem_put key h.entries ⟨hdistinct, hwritable⟩⟩

theorem Writable.isWritable_toJson {s : Store} (h : Writable s.entries) :
    s.toJson.isWritable = true := by
  have hentry : ∀ f ∈ entryFields s.entries, Json.IsDistinct f.2 ∧ f.2.isWritable = true := by
    intro f hf
    obtain ⟨e, he, rfl⟩ := mem_entryFields.mp hf
    exact ⟨(h.entries e he).distinct, (h.entries e he).writable⟩
  have hkeys : ((entryFields s.entries).map (·.1)).Nodup := by
    rw [entryFields, List.map_map]
    exact h.distinct
  have hfields : ∀ f ∈ [("version", Json.int 1), ("entries", .object (entryFields s.entries))],
      Json.IsDistinct f.2 ∧ f.2.isWritable = true := by
    simp only [List.forall_mem_cons]
    exact ⟨⟨.int 1, by decide⟩,
      ⟨.object _ hkeys fun f hf => (hentry f hf).1,
        Json.every_object.mpr fun f hf => (hentry f hf).2⟩,
      fun _ hf => absurd hf List.not_mem_nil⟩
  exact Json.every_canonical (.object _ (by simp) fun f hf => (hfields f hf).1)
    (Json.every_object.mpr fun f hf => (hfields f hf).2)

end Store

/-! ## Failures -/

/-- The cache when the entry of a key has been dropped from the store in memory. -/
def Cache.dropping (c : Cache) (key : String) : Cache :=
  match c with
  | .shared s => .shared (s.remove key)
  | .perProject => .perProject

namespace Project

/-- What a scan that fails leaves of the files and of the cache. -/
inductive Leaves (limit : Option Nat) (c : Cache) (w : Workspace) (path : Option String)
    (refresh : Bool) : Failure → Workspace → Cache → Prop
  /-- There is no such project, or its settings cannot be read. -/
  | refused {e : Failure} (check : checkedRoot w path = .error e) :
      Leaves limit c w path refresh e w c
  /-- The project's own store cannot be read. -/
  | unread {e : Failure} {root : Place} (check : checkedRoot w path = .ok root)
      (own : c = .perProject) (load : (Store.load w (Cache.fileOf root)).result = .error e) :
      Leaves limit c w path refresh e w c
  /-- The sources give no table. -/
  | unscanned {e : Failure} {root : Place} {s : Settings} (check : checkedRoot w path = .ok root)
      (load : Settings.load w root.path = .ok s)
      (scanned : Scan.Scanned limit w root s (.error e)) :
      Leaves limit c w path refresh e w (if refresh then c.dropping root.text else c)
  /-- Something stands in the way of the folder for results, or is wrong with it. -/
  | unsaved {e : Failure} {root : Place} {t : Tree} (check : checkedRoot w path = .ok root)
      (own : c = .perProject) (there : w.tree.find? (root ++ [cacheFolder]) = some t) :
      Leaves limit c w path refresh e w c
  /-- There is a folder for results now, and nothing in it. -/
  | folderMade {e : Failure} {root : Place} (check : checkedRoot w path = .ok root)
      (own : c = .perProject) (missing : w.tree.find? (root ++ [cacheFolder]) = none)
      (refused : w.platform.accepts (Cache.fileOf root) = false) :
      Leaves limit c w path refresh e
        { w with tree := w.tree.set (root ++ [cacheFolder]) (.dir []) } c

/-- What a request comes to either has a result or leaves behind what failures leave. -/
def LeavesIfFailed (limit : Option Nat) (c : Cache) (w : Workspace) (path : Option String)
    (refresh : Bool) (o : Outcome Table) : Prop :=
  ∀ e, o.reply.result = .error e → Leaves limit c w path refresh e o.workspace o.cache

section Failures

variable {limit : Option Nat} {w : Workspace} {path : Option String} {root : Place}
  (hroot : checkedRoot w path = .ok root) (refresh : Bool)

include hroot

/-- A scan into a project's own store, which has been read: it fails at the sources, or when the store
    is saved. -/
theorem leaves_scanInto (hproper : root.isProper = true) {ds : List (String × Tree)}
    (hdir : w.tree.find? root = some (.dir ds))
    (ht : w.tree.every isName (Option.all Content.fits) = true) {settings : Settings}
    (hload : Settings.load w root.path = .ok settings) {s : Store}
    (hfile : s.file = some (Cache.fileOf root)) (hs : Store.Writable s.entries)
    (events : List Event) :
    LeavesIfFailed limit .perProject w path refresh
      (scanInto (Scan.within limit) .perProject w root s events) := by
  have hscanned := Scan.within_scanned limit ht hproper hdir hload
  intro e he
  cases hscan : (Scan.within limit w root).result with
  | error e' =>
    obtain ⟨hresult, hworkspace, hcache⟩ := scanInto_of_error .perProject s events hscan
    cases hresult.symm.trans he
    rw [hworkspace, hcache]
    rw [hscan] at hscanned
    have hleaves : Leaves limit .perProject w path refresh e w _ :=
      .unscanned hroot hload hscanned
    cases refresh with
    | true => exact hleaves
    | false => exact hleaves
  | ok routes =>
    have hwithin : ∀ r ∈ routes, r.Within Content.maxLength := by
      rw [hscan] at hscanned
      cases hscanned with
      | table os _ _ hos => exact fun r hr => Scan.within_of_outlines ht hos hr
    obtain ⟨hresult, hworkspace, hcache⟩ := scanInto_of_scanner .perProject s events hscan
    obtain ⟨hsave, _⟩ := Store.persist_of_isWritable (s := s.put root.text routes w.now) rfl hfile
      (hs.put root.text hwithin w.now).isWritable_toJson w
    rw [he, hsave] at hresult
    rw [hworkspace, hcache, hsave]
    have hsaved : Workspace.SavedInFolder w (root ++ [cacheFolder]) (Cache.fileOf root)
        (w.save (Cache.fileOf root) (.text (s.put root.text routes w.now).toJson.render)) :=
      Workspace.save_in_folder_cases hproper (by decide) (by decide) hdir _
    generalize w.save (Cache.fileOf root) _ = change at hsaved hresult
    cases hsaved with
    | saved w' => cases hresult
    | unchanged e' hthere => exact .unsaved hroot rfl hthere
    | folderMade e' hmissing hrefused => exact .folderMade hroot rfl hmissing hrefused

/-- A project with a store of its own: the store is opened, scanned into and saved. -/
theorem leaves_scan_perProject (hw : w.isProper = true)
    (ht : w.tree.every isName (Option.all Content.fits) = true) :
    LeavesIfFailed limit .perProject w path refresh
      (scan (Scan.within limit) .perProject w path refresh) := by
  obtain ⟨hproper, ⟨ds, hdir⟩, settings, hload⟩ := exists_dir_of_checkedRoot hw hroot
  unfold scan
  simp only [hroot, Cache.openStore]
  cases hopen : (Store.load w (Cache.fileOf root)).result with
  | error e =>
    intro e' he
    cases he
    exact .unread hroot rfl hopen
  | ok s =>
    have hs := Store.writable_of_load hopen
    have hfile := (Store.load_eq_ok hopen).1
    cases refresh with
    | true =>
      simp only [if_true]
      exact leaves_scanInto hroot true hproper hdir ht hload
        ((Store.file_remove s _).trans hfile) (hs.remove root.text) _
    | false =>
      simp only [Bool.false_eq_true, if_false]
      cases s.routes? root.text with
      | some routes =>
        intro e he
        cases he
      | none => exact leaves_scanInto hroot false hproper hdir ht hload hfile hs _

/-- A shared store is not saved, so only the scan itself can fail. -/
theorem leaves_scan_shared (hw : w.isProper = true) {content : Option Content → Bool}
    (ht : w.tree.every isName content = true) {s : Store} (hs : s.file = none) :
    LeavesIfFailed limit (.shared s) w path refresh
      (scan (Scan.within limit) (.shared s) w path refresh) := by
  obtain ⟨hproper, ⟨ds, hdir⟩, settings, hload⟩ := exists_dir_of_checkedRoot hw hroot
  have hscanned := Scan.within_scanned limit ht hproper hdir hload
  have hshared := scan_shared (Scan.within limit) hs hroot refresh
  generalize scan (Scan.within limit) (.shared s) w path refresh = o at hshared ⊢
  intro e he
  cases hshared with
  | kept _ | new _ _ _ => cases he
  | failed _ hscan =>
    cases he
    rw [hscan] at hscanned
    exact .unscanned hroot hload hscanned
  | lost hscan =>
    cases he
    rw [hscan] at hscanned
    exact .unscanned hroot hload hscanned

end Failures

/-- **What a scan that fails leaves behind.** With one store in memory, whatever it holds, or with a
    file in each project, whatever is in the tree (names are names, and no file is longer than files
    can be), and with any limit to how deep directories are entered: a scan that fails changes nothing,
    with two exceptions. When a new table is asked for and the sources give none, a store in memory
    loses the old one. And when the file system does not take the file of the project's own store, an
    empty folder may be left. -/
theorem scan_error_leaves (limit : Option Nat) {w : Workspace} (hw : w.isProper = true)
    (ht : w.tree.every isName (Option.all Content.fits) = true) {c : Cache}
    (hc : ∀ s, c = .shared s → s.file = none) (path : Option String) (refresh : Bool)
    {e : Failure} (h : (scan (Scan.within limit) c w path refresh).reply.result = .error e) :
    Leaves limit c w path refresh e (scan (Scan.within limit) c w path refresh).workspace
      (scan (Scan.within limit) c w path refresh).cache := by
  cases hroot : checkedRoot w path with
  | error e' =>
    rw [scan_of_checkedRoot_error _ c hroot] at h ⊢
    cases h
    exact .refused hroot
  | ok root =>
    cases c with
    | shared s => exact leaves_scan_shared hroot refresh hw ht (hc s rfl) e h
    | perProject => exact leaves_scan_perProject hroot refresh hw ht e h

/-- A new table is asked for where a source has become a link to itself, and the store in memory loses
    the old one. And a file system that takes no file three names deep is left with a folder. -/
theorem scan_error_leaves_shop :
    let w : Workspace :=
      { tree := .dir [("shop", .dir [("L.java", .loop)])]
        cwd := some ["shop"]
        home := ["home"]
        now := { year := 2024, month := 1, day := 1 } }
    let s : Store := { entries := [("/shop", .ofRoutes [] w.now)] }
    let o := scan (Scan.within none) (.shared s) w none true
    let v : Workspace :=
      { w with
        tree := .dir [("shop", .dir [])]
        platform := { Platform.standard with accepts := fun p => decide (p.parts.length < 3) } }
    let u := scan (Scan.within none) .perProject v none false
    (w.isProper = true ∧ w.tree.every isName (Option.all Content.fits) = true ∧ s.file = none ∧
      (∃ e, o.reply.result = .error e ∧ Leaves none (.shared s) w none true e o.workspace o.cache) ∧
      s.contains "/shop" = true ∧ ∃ s', o.cache = .shared s' ∧ s'.contains "/shop" = false) ∧
    v.isProper = true ∧ v.tree.every isName (Option.all Content.fits) = true ∧
      (∃ e, u.reply.result = .error e ∧ Leaves none .perProject v none false e u.workspace u.cache) ∧
      v.hasEntry (Place.path ["shop", ".restmap"]) = false ∧
      u.workspace.hasEntry (Place.path ["shop", ".restmap"]) = true := by
  intro w s o v u
  have hw : w.isProper = true := by decide +kernel
  have ht : w.tree.every isName (Option.all Content.fits) = true := by decide +kernel
  have hv : v.isProper = true := by decide +kernel
  have ht' : v.tree.every isName (Option.all Content.fits) = true := by decide +kernel
  have hroot : checkedRoot w none = .ok ["shop"] := by decide +kernel
  have hfails : ∀ r : Except Failure Table, r.toOption.isNone = true → ∃ e, r = .error e := by
    intro r hr
    cases r with
    | ok t => cases hr
    | error e => exact ⟨e, rfl⟩
  obtain ⟨e, he⟩ := hfails (scan (Scan.within none) (.shared s) w none true).reply.result
    (by decide +kernel)
  obtain ⟨e', he'⟩ := hfails (scan (Scan.within none) .perProject v none false).reply.result
    (by decide +kernel)
  have hmemory : ∀ s', Cache.shared s = .shared s' → s'.file = none := by
    intro s' hs
    rw [← Cache.shared.inj hs]
  have hlost : ∀ after cache, Leaves none (.shared s) w none true e after cache →
      ∃ s', cache = .shared s' ∧ s'.contains "/shop" = false := by
    intro after cache hleaves
    cases hleaves with
    | refused hcheck => cases hcheck.symm.trans hroot
    | unread _ hown _ | unsaved _ hown _ | folderMade _ hown _ _ => cases hown
    | unscanned hcheck _ _ =>
      cases hcheck.symm.trans hroot
      exact ⟨_, rfl, by decide +kernel⟩
  have hleaves := scan_error_leaves none hw ht hmemory none true he
  have hleaves' := scan_error_leaves none hv ht' (c := .perProject) (fun _ hs => by cases hs) none
    false he'
  -- the outcomes are not computed here
  with_reducible
    exact ⟨⟨hw, ht, rfl, ⟨e, he, hleaves⟩, by decide +kernel, hlost _ _ hleaves⟩, hv, ht',
      ⟨e', he', hleaves'⟩, by decide +kernel, by decide +kernel⟩

end Project

end SpringRoutes
