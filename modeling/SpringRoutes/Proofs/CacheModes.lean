import SpringRoutes.Proofs.Requests
import SpringRoutes.Proofs.Sessions

/-!
# `SpringRoutes.Proofs.CacheModes` — one store for all projects, or a file in each

Results are kept in one store in memory, or in a file of each project that is read at every request.
Nobody can tell which: over every session of requests, clock moves and edits of the files, the two
give the same answers (`perProject_answers_eq_shared`).

The two sessions run on different trees, since one of them has folders with results in it. The
relation between them (`Agrees`) says that the trees are equal *without* those folders, and that the
folder of each project holds what the store in memory has under that project's key (`CacheAt`). It
holds at the start (`agrees_start`), and each request and each permitted edit keeps it
(`Project.matches_scan`, `Project.matches_forget`, `agrees_edit`). That a scan does not see the
folders is `Scan.standard_without`, that a file gives its entries back is `Store.load_of_file`, and that the
projects do not share files or keys is `eq_of_prefix_concat` and `Place.text_injective`.
-/

namespace SpringRoutes

open Store (Entry)

/-! ## The relation -/

/-- The session with a file in each project, in the workspace `w`, agrees with the session with the
    store `s` for all projects, in the same workspace without the folders for results. -/
structure Agrees (w : Workspace) (s : Store) : Prop where
  proper : w.isProper = true
  ordinary : (w.without cacheFolder).tree.isOrdinary = true
  file : s.file = none
  kept : ∀ root : Place, root.isOrdinary = true →
    CacheAt w.platform.entryRoom w.tree root (s.kept root.text)

/-- The session `own`, with a file in each project, agrees with the session `common`. -/
def Session.Agree (own common : Session) : Prop :=
  own.cache = .perProject ∧ common.workspace = own.workspace.without cacheFolder ∧
    ∃ s, common.cache = .shared s ∧ Agrees own.workspace s

theorem without_of_isOrdinary {t : Tree} (h : t.isOrdinary = true) :
    t.without cacheFolder = t :=
  Tree.without_of_every (fun _ hn => (isOrdinaryName_iff.mp hn).2) t h

/-- In a tree without folders for results, an empty store agrees with them. -/
theorem agrees_start {w : Workspace} (hw : w.isProper = true) (ht : w.tree.isOrdinary = true) :
    Agrees w {} where
  proper := hw
  ordinary := by
    change (w.tree.without cacheFolder).isOrdinary = true
    rw [without_of_isOrdinary ht]
    exact ht
  file := rfl
  kept root _ := .absent <| Tree.find?_eq_none_of_every ht
    (List.mem_append_right root (List.mem_singleton_self cacheFolder)) (by decide)

/-- The folders of different projects lie apart. -/
theorem eq_of_prefix_concat {p q : List String} {x : String} (hx : x ∉ q)
    (h : p ++ [x] <+: q ++ [x]) : p = q := by
  rcases List.prefix_concat_iff.mp h with heq | hpre
  · exact List.append_cancel_right heq
  · exact absurd (hpre.subset (List.mem_append_right p (List.mem_singleton_self x))) hx

/-- **A saved store.** When the folder of a project comes to hold what the store in memory comes to
    have under its key, and nothing else changes, the sessions go on agreeing, and the tree is the
    same without the folders. -/
theorem agrees_save {w : Workspace} {s s' st : Store} (h : Agrees w s) {root : Place}
    (hroot : root.isOrdinary = true) {ds : List (String × Tree)}
    (hdir : w.tree.find? root = some (.dir ds)) (hkeeps : Store.Keeps w.platform.entryRoom st.entries)
    (hfile : s'.file = none) (hself : s'.kept root.text = st.entries)
    (hother : ∀ key, key ≠ root.text → s'.entries.lookup key = s.entries.lookup key) :
    Agrees (w.withCache root (.text st.toJson.render)) s' ∧
      (w.withCache root (.text st.toJson.render)).without cacheFolder
        = w.without cacheFolder := by
  generalize hw' : w.withCache root (.text st.toJson.render) = w'
  obtain ⟨hproper, hnot⟩ := Place.isOrdinary_iff.mp hroot
  have hwithout : w'.without cacheFolder = w.without cacheFolder := by
    subst hw'
    unfold Workspace.without Workspace.withCache
    rw [Tree.without_set_hidden hnot hdir (h.kept root hroot).isDir]
  have hplatform : w'.platform = w.platform := by
    subst hw'
    rfl
  refine ⟨⟨?_, ?_, hfile, ?_⟩, hwithout⟩
  · subst hw'
    exact h.proper
  · rw [hwithout]
    exact h.ordinary
  · intro other hord
    obtain ⟨hproper', hnot'⟩ := Place.isOrdinary_iff.mp hord
    rw [hplatform]
    by_cases heq : other = root
    · subst heq
      -- the project whose folder was written
      rw [hself]
      refine .present st hkeeps ?_
      subst hw'
      exact Tree.find?_set_self ..
    · -- any other project has another key and another folder
      have hkey : other.text ≠ root.text :=
        fun htext => heq (Place.text_injective hproper' hproper htext)
      have hfind : w'.tree.find? (other ++ [cacheFolder])
          = w.tree.find? (other ++ [cacheFolder]) := by
        subst hw'
        exact Tree.find?_set_of_apart _ _ (fun hp => heq (eq_of_prefix_concat hnot' hp).symm)
          fun hp => heq (eq_of_prefix_concat hnot hp)
      rw [Store.kept_congr (hother _ hkey)]
      exact (h.kept other hord).congr hfind

/-- There are no links in the tree: not outside of the folders for results, where it is ordinary, and
    not inside, where there is only a file. -/
theorem Agrees.find?_ne_loop {w : Workspace} {s : Store} (h : Agrees w s) (p : Place) :
    w.tree.find? p ≠ some .loop := by
  intro hloop
  by_cases hmem : cacheFolder ∈ p
  · obtain ⟨root, rest, rfl, hnot⟩ := List.eq_append_cons_of_mem hmem
    have hord : Place.isOrdinary root = true := by
      rw [Tree.find?_append] at hloop
      obtain ⟨u, hu, _⟩ := Option.bind_eq_some_iff.mp hloop
      have hfind : (w.without cacheFolder).tree.find? root = some (u.without cacheFolder) := by
        change (w.tree.without cacheFolder).find? root = _
        rw [Tree.find?_without hnot, hu]
        rfl
      exact List.all_eq_true.mpr (Tree.every_find? h.ordinary hfind).2
    rw [← List.singleton_append, ← List.append_assoc, Tree.find?_append] at hloop
    have hkept := h.kept root hord
    generalize s.kept (Place.text root) = es at hkept
    cases hkept with
    | absent hfolder =>
      rw [hfolder] at hloop
      cases hloop
    | present st _ hfolder =>
      rw [hfolder, Option.bind_some] at hloop
      cases rest with
      | nil => cases hloop
      | cons n rest =>
        obtain ⟨v, hv, hloop⟩ := Option.bind_eq_some_iff.mp hloop
        obtain ⟨_, rfl⟩ := Prod.mk.inj (List.mem_singleton.mp (Entries.mem_of_lookup hv))
        cases rest with
        | nil => cases hloop
        | cons m rest => cases hloop
  · have hfind : (w.without cacheFolder).tree.find? p = some .loop := by
      change (w.tree.without cacheFolder).find? p = _
      rw [Tree.find?_without hmem, hloop]
      rfl
    exact Tree.find?_ne_loop h.ordinary p hfind

/-- Paths lead to the same places with and without the folders for results. -/
theorem Agrees.placeOf_without {w : Workspace} {s : Store} (h : Agrees w s) (path : String) :
    (w.without cacheFolder).placeOf path = w.placeOf path := by
  have hreach : ∀ p, (w.without cacheFolder).reach p = w.reach p := by
    intro p
    rw [Workspace.reach_of_find?_ne_loop h.find?_ne_loop,
      Workspace.reach_of_find?_ne_loop (Tree.find?_ne_loop h.ordinary)]
  unfold Workspace.placeOf Workspace.resolve
  simp only [hreach]
  rfl

/-! ## Requests -/

/-- The outcomes of one request in the two sessions have the same result, and the sessions agree
    after it. -/
def Outcome.Matches {α : Type} (own common : Outcome α) : Prop :=
  common.reply.result = own.reply.result ∧
    Session.Agree ⟨own.workspace, own.cache⟩ ⟨common.workspace, common.cache⟩

/-- Opening the store of a project gives what the store in memory has under its key. -/
theorem Agrees.result_load {w : Workspace} {s : Store} (h : Agrees w s) {root : Place}
    (hroot : root.isOrdinary = true) :
    (Store.load w (Cache.fileOf root)).result = .ok (s.own root) :=
  result_load_fileOf (Place.isOrdinary_iff.mp hroot).1 (h.kept root hroot)

/-- Dropping the entry of a project from its own store and from the store in memory. The file is
    written only if there was an entry. -/
theorem Agrees.persist_remove {w : Workspace} {s : Store} (h : Agrees w s) {root : Place}
    (hroot : root.isOrdinary = true)
    (haccepts : w.platform.accepts (Cache.fileOf root) = true) :
    ∃ w', ((s.own root).remove root.text).persist w
        = ({ (s.own root).remove root.text with isDirty := false }, w', none) ∧
      w'.without cacheFolder = w.without cacheFolder ∧ Agrees w' (s.remove root.text) := by
  have hcache := h.kept root hroot
  have hcontains := Store.contains_congr (Store.lookup_own s root)
  cases hthere : s.contains root.text with
  | false =>
    rw [Store.remove_of_not_contains hthere,
      Store.remove_of_not_contains (hcontains.trans hthere)]
    exact ⟨w, Store.persist_of_not_isDirty rfl w, rfl, h⟩
  | true =>
    -- an entry comes from a file, so there is a directory to write the file into
    have hdir : ∃ ds, w.tree.find? root = some (.dir ds) := by
      obtain ⟨e, he⟩ := Option.isSome_iff_exists.mp hthere
      rw [Store.kept, he] at hcache
      exact hcache.exists_dir
    obtain ⟨ds, hdir⟩ := hdir
    have hsave := save_fileOf (Place.isOrdinary_iff.mp hroot).1 haccepts hdir hcache
    have hfile : ((s.own root).remove root.text).file = some (Cache.fileOf root) :=
      Store.file_remove ..
    have hempty := Store.entries_remove_own s root
    have hkeeps : Store.Keeps w.platform.entryRoom ((s.own root).remove root.text).entries := by
      rw [hempty]
      exact Store.keeps_nil
    have hself : (s.remove root.text).kept root.text
        = ((s.own root).remove root.text).entries := by
      rw [hempty, Store.kept_remove]
    obtain ⟨hagrees, hwithout⟩ := agrees_save h hroot hdir hkeeps
      ((Store.file_remove s root.text).trans h.file) hself fun key hkey => by
        rw [Store.entries_remove, Entries.lookup_drop_of_ne hkey]
    exact ⟨_, Store.persist_of_save (Store.remove_of_contains (hcontains.trans hthere)) hfile
      (Store.isWritable_toJson hkeeps) (hsave _), hwithout, hagrees⟩

namespace Project

/-- A new scan: it gives a table, and both caches come to hold that table for the project. -/
theorem matches_scanInto {w : Workspace} {s : Store} (h : Agrees w s) {root : Place}
    (hroot : root.isOrdinary = true) (hcheck : Discovery.checkProject w root root.text = .ok ())
    {settings : Settings} (hload : Settings.load w root.path = .ok settings)
    (haccepts : w.platform.accepts (Cache.fileOf root) = true)
    {own common : Store} (hown : own.file = some (Cache.fileOf root))
    (hentries : ∀ e : Entry, Entries.put own.entries root.text e = [(root.text, e)])
    (hcommon : common.file = none)
    (hother : ∀ key, key ≠ root.text → common.entries.lookup key = s.entries.lookup key)
    (before : Store) (events events' : List Event) :
    (scanInto Scan.standard .perProject w root own events).Matches
      (scanInto Scan.standard (.shared before) (w.without cacheFolder) root common events') := by
  obtain ⟨hproper, hnot⟩ := Place.isOrdinary_iff.mp hroot
  obtain ⟨ds, hdir⟩ := exists_dir_of_checkProject hproper hcheck
  have hload' : Settings.load (w.without cacheFolder) root.path = .ok settings := by
    rw [Settings.load_without (by decide) w rfl hnot, hload]
  have hdir' : (w.without cacheFolder).tree.find? root
      = some (.dir (Tree.withoutEntries cacheFolder ds)) := by
    change (w.tree.without cacheFolder).find? root = _
    rw [Tree.find?_without hnot, hdir]
    rfl
  obtain ⟨routes, hroutes, hwithin⟩ := Scan.standard_ok h.ordinary hroot hdir' hload'
  -- both sessions scan the same table, and at the same time
  have hownRoutes := hroutes
  rw [Scan.standard_without h.ordinary hroot] at hownRoutes
  have hkeeps : Store.Keeps w.platform.entryRoom (own.put root.text routes w.now).entries := by
    change Store.Keeps _ (Entries.put own.entries root.text _)
    rw [hentries]
    exact Store.keeps_singleton _ (Store.keeps_ofRoutes w.platform hwithin w.now)
  have hput := Store.hasPut_put common root.text routes w.now
  have hself : (common.put root.text routes w.now).kept root.text
      = (own.put root.text routes w.now).entries := by
    change _ = Entries.put own.entries root.text _
    rw [hentries, Store.kept, hput.self]
    rfl
  have hrest : ∀ key, key ≠ root.text →
      (common.put root.text routes w.now).entries.lookup key = s.entries.lookup key :=
    fun key hkey => (hput.other key hkey).trans (hother key hkey)
  have hmemory : (common.put root.text routes w.now).file = none := hcommon
  obtain ⟨hagrees, hwithout⟩ := agrees_save h hroot hdir hkeeps hmemory hself hrest
  have hsaved := Store.persist_of_save (s := own.put root.text routes w.now) rfl hown
    (Store.isWritable_toJson hkeeps) (save_fileOf hproper haccepts hdir (h.kept root hroot) _)
  obtain ⟨hresult, hworkspace, hcache⟩ :=
    scanInto_of_ok .perProject events hownRoutes hsaved
  obtain ⟨hresult', hworkspace', hcache'⟩ :=
    scanInto_of_ok (.shared before) events' hroutes
      (Store.persist_of_file_eq_none hmemory (w.without cacheFolder))
  refine ⟨?_, hcache, ?_, _, hcache', ?_⟩
  · rw [hresult, hresult']
  · rw [hworkspace, hworkspace', hwithout]
  · rw [hworkspace]
    exact hagrees

theorem matches_fail {w : Workspace} {s : Store} (h : Agrees w s) {α : Type}
    (events events' : List Event) (e : Failure) :
    (fail .perProject w events e : Outcome α).Matches
      (fail (.shared s) (w.without cacheFolder) events' e) :=
  ⟨rfl, rfl, rfl, s, rfl, h⟩

section Requests

variable {w : Workspace} {s : Store} (h : Agrees w s) {path : String}
  (hpath : ∀ root, w.placeOf path = .ok root → w.permitsRoot root = true)

include h hpath

theorem of_placeOf {root : Place} (hplace : w.placeOf path = .ok root) :
    root.isOrdinary = true ∧ w.platform.accepts (Cache.fileOf root) = true := by
  obtain ⟨hnot, haccepts⟩ := Bool.and_eq_true_iff.mp (hpath root hplace)
  have hfolder : cacheFolder ∉ root := by simpa using hnot
  exact ⟨Place.isOrdinary_iff.mpr ⟨Workspace.isProper_placeOf h.proper hplace, hfolder⟩, haccepts⟩

theorem checkedRoot_without :
    checkedRoot (w.without cacheFolder) (some path) = checkedRoot w (some path) := by
  unfold checkedRoot rootOf
  simp only
  rw [h.placeOf_without path]
  cases hroot : w.placeOf path with
  | error e => rfl
  | ok root =>
    have hnot := (Place.isOrdinary_iff.mp (of_placeOf h hpath hroot).1).2
    simp only [Bind.bind, Except.bind]
    rw [Discovery.checkProject_without w hnot, Settings.load_without (by decide) w rfl hnot]

theorem matches_scan (refresh : Bool) :
    (scan Scan.standard .perProject w (some path) refresh).Matches
      (scan Scan.standard (.shared s) (w.without cacheFolder) (some path) refresh) := by
  unfold scan
  rw [checkedRoot_without h hpath]
  cases hroot : checkedRoot w (some path) with
  | error e => exact matches_fail h _ _ e
  | ok root =>
    obtain ⟨hplace, hcheck, settings, hload⟩ := of_checkedRoot hroot
    obtain ⟨hord, haccepts⟩ := of_placeOf h hpath hplace
    simp only [Cache.openStore, h.result_load hord, Reply.result_pure]
    -- a refresh drops the entry before the scan; that is not yet written
    cases refresh with
    | true =>
      simp only [if_true]
      refine matches_scanInto h hord hcheck hload haccepts ?_ ?_ ?_ ?_ s _ _
      · exact Store.file_remove ..
      · intro e
        rw [Store.entries_remove_own]
        rfl
      · rw [Store.file_remove, h.file]
      · intro key hkey
        rw [Store.entries_remove, Entries.lookup_drop_of_ne hkey]
    | false =>
      simp only [Bool.false_eq_true, if_false]
      rw [Store.routes?_congr (Store.lookup_own s root)]
      cases s.routes? root.text with
      | some routes => exact ⟨rfl, rfl, rfl, s, rfl, h⟩
      | none =>
        exact matches_scanInto h hord hcheck hload haccepts rfl (Store.put_kept s root.text) h.file
          (fun _ _ => rfl) s _ _

theorem matches_info :
    (info .perProject w (some path)).Matches
      (info (.shared s) (w.without cacheFolder) (some path)) := by
  have hsameRoot : rootOf (w.without cacheFolder) (some path) = rootOf w (some path) :=
    h.placeOf_without path
  unfold info
  rw [hsameRoot]
  cases hplace : rootOf w (some path) with
  | error e => exact matches_fail h _ _ e
  | ok root =>
    have hord := (of_placeOf h hpath hplace).1
    refine ⟨?_, rfl, rfl, s, rfl, h⟩
    simp only [Cache.openStore, h.result_load hord, Reply.result_pure]
    exact congrArg Except.ok (Store.info_congr (Store.lookup_own s root) w.now).symm

theorem matches_forget :
    (forget .perProject w (some path)).Matches
      (forget (.shared s) (w.without cacheFolder) (some path)) := by
  have hsameRoot : rootOf (w.without cacheFolder) (some path) = rootOf w (some path) :=
    h.placeOf_without path
  cases hplace : rootOf w (some path) with
  | error e =>
    unfold forget
    rw [hsameRoot, hplace]
    exact matches_fail h _ _ e
  | ok root =>
    obtain ⟨hord, haccepts⟩ := of_placeOf h hpath hplace
    have hfile : (s.remove root.text).file = none := by rw [Store.file_remove, h.file]
    have hcontains := Store.contains_congr (Store.lookup_own s root)
    obtain ⟨w', hpersist, hwithout, hagrees⟩ := h.persist_remove hord haccepts
    obtain ⟨hresult, hworkspace, hownCache⟩ :=
      forget_of_ok (c := .perProject) hplace (h.result_load hord) hpersist
    obtain ⟨hresult', hworkspace', hcache'⟩ :=
      forget_of_ok (c := .shared s) (hsameRoot.trans hplace) rfl
        (Store.persist_of_file_eq_none hfile (w.without cacheFolder))
    refine ⟨?_, hownCache, ?_, _, hcache', ?_⟩
    · rw [hresult, hresult', hcontains]
    · rw [hworkspace, hworkspace', hwithout]
    · rw [hworkspace]
      exact hagrees

end Requests

end Project

/-! ## Edits -/

/-- A way that starts at a place without a folder for results, and leads to such a folder, leads
    nowhere. -/
theorem find?_eq_none_of_isFreeBelow {w : Workspace} {place : Place}
    (h : w.isFreeBelow place = true) {rest : List String} (hrest : cacheFolder ∈ rest) :
    w.tree.find? (place ++ rest) = none := by
  unfold Workspace.isFreeBelow at h
  rw [Tree.find?_append]
  cases hfind : w.tree.find? place with
  | none => rfl
  | some t =>
    rw [hfind] at h
    exact Tree.find?_eq_none_of_every h hrest (by decide)

/-- A place outside the folders for results either lies apart from the folder of a project, or above
    it. -/
theorem apart_or_above {place : Place} (h : cacheFolder ∉ place) (root : Place) :
    (¬ place <+: root ++ [cacheFolder] ∧ ¬ root ++ [cacheFolder] <+: place) ∨
      ∃ rest, root ++ [cacheFolder] = place ++ rest ∧ cacheFolder ∈ rest := by
  have hmem : cacheFolder ∈ root ++ [cacheFolder] :=
    List.mem_append_right root (List.mem_singleton_self cacheFolder)
  by_cases hpre : place <+: root ++ [cacheFolder]
  · obtain ⟨rest, hrest⟩ := hpre
    rw [← hrest, List.mem_append] at hmem
    exact .inr ⟨rest, hrest.symm, hmem.resolve_left h⟩
  · exact .inl ⟨hpre, fun hpre' => h (hpre'.subset hmem)⟩

theorem find?_put {w : Workspace} {place : Place} {t : Tree} (hplace : cacheFolder ∉ place)
    (ht : t.isOrdinary = true) (hfree : w.isFreeBelow place = true) (root : Place) :
    (w.tree.set place t).find? (root ++ [cacheFolder])
      = w.tree.find? (root ++ [cacheFolder]) := by
  rcases apart_or_above hplace root with ⟨hpq, hqp⟩ | ⟨rest, heq, hrest⟩
  · exact Tree.find?_set_of_apart w.tree t hpq hqp
  -- neither what was there nor what is put there has a folder for results
  · rw [heq, Tree.find?_set_append, find?_eq_none_of_isFreeBelow hfree hrest]
    exact Tree.find?_eq_none_of_every ht hrest (by decide)

theorem find?_remove {w : Workspace} {place : Place} (hplace : cacheFolder ∉ place)
    (hfree : w.isFreeBelow place = true) (root : Place) :
    (w.tree.erase place).find? (root ++ [cacheFolder])
      = w.tree.find? (root ++ [cacheFolder]) := by
  rcases apart_or_above hplace root with ⟨hpq, hqp⟩ | ⟨rest, heq, hrest⟩
  · exact Tree.find?_erase_of_apart w.tree hpq hqp
  · rw [heq, find?_eq_none_of_isFreeBelow hfree hrest]
    exact Tree.find?_erase_append w.tree place (List.ne_nil_of_mem hrest)

/-- **A permitted edit** does the same to the tree with and without the folders for results. -/
theorem agrees_edit {w : Workspace} {s : Store} (h : Agrees w s) {e : Edit}
    (he : w.permitsEdit e = true) :
    Agrees (w.edit e) s ∧ (w.without cacheFolder).edit e = (w.edit e).without cacheFolder := by
  cases e with
  | setClock now => exact ⟨⟨h.proper, h.ordinary, h.file, h.kept⟩, rfl⟩
  | enter place hplace =>
    exact ⟨⟨Workspace.isProper_edit h.proper (.enter place hplace), h.ordinary, h.file, h.kept⟩, rfl⟩
  | put place t =>
    rw [Workspace.permitsEdit, Bool.and_eq_true, Bool.and_eq_true] at he
    obtain ⟨⟨hplace, ht⟩, hfree⟩ := he
    have hnot := (Place.isOrdinary_iff.mp hplace).2
    have htree : (w.tree.set place t).without cacheFolder
        = (w.tree.without cacheFolder).set place t := by
      rw [Tree.without_set hnot, without_of_isOrdinary ht]
    refine ⟨⟨h.proper, ?_, h.file, ?_⟩, ?_⟩
    · change ((w.tree.set place t).without cacheFolder).isOrdinary = true
      rw [htree]
      exact Tree.every_set h.ordinary (List.all_eq_true.mp hplace) ht
    · intro root hroot
      exact (h.kept root hroot).congr (find?_put hnot ht hfree root)
    · unfold Workspace.edit Workspace.without
      rw [htree]
  | remove place =>
    rw [Workspace.permitsEdit, Bool.and_eq_true] at he
    obtain ⟨hplace, hfree⟩ := he
    have hnot : cacheFolder ∉ place := by simpa using hplace
    have htree := Tree.without_erase hnot w.tree
    refine ⟨⟨Workspace.isProper_edit h.proper (.remove place), ?_, h.file, ?_⟩, ?_⟩
    · change ((w.tree.erase place).without cacheFolder).isOrdinary = true
      rw [htree]
      exact Tree.every_erase place h.ordinary
    · intro root hroot
      exact (h.kept root hroot).congr (find?_remove hnot hfree root)
    · unfold Workspace.edit Workspace.without
      rw [htree]

/-! ## Sessions agree -/

/-- **One event.** Both sessions give the same answer to it, and agree after it. -/
theorem step_agree {own common : Session} (h : own.Agree common) {a : Act}
    (ha : own.workspace.permits a = true) :
    (common.step Scan.standard a).1 = (own.step Scan.standard a).1 ∧
      (own.step Scan.standard a).2.Agree (common.step Scan.standard a).2 := by
  obtain ⟨w, c⟩ := own
  obtain ⟨w', c'⟩ := common
  obtain ⟨rfl, rfl, s, rfl, hs⟩ := h
  cases a with
  | edit e =>
    obtain ⟨hagrees, hedit⟩ := agrees_edit hs ha
    exact ⟨rfl, rfl, hedit, s, rfl, hagrees⟩
  | request r =>
    obtain ⟨path, hr, hpath⟩ : ∃ path, r.path = some path ∧
        ∀ root, w.placeOf path = .ok root → w.permitsRoot root = true := by
      cases hr : r.path with
      | none =>
        simp only [Workspace.permits, hr] at ha
        cases ha
      | some path =>
        refine ⟨path, rfl, fun root hroot => ?_⟩
        simpa only [Workspace.permits, hr, Option.map_some, hroot] using ha
    cases r with
    | scan _ refresh =>
      cases hr
      obtain ⟨hresult, hagree⟩ := Project.matches_scan hs hpath refresh
      exact ⟨congrArg (fun r => some (Answer.table r)) hresult, hagree⟩
    | info _ =>
      cases hr
      obtain ⟨hresult, hagree⟩ := Project.matches_info hs hpath
      exact ⟨congrArg (fun r => some (Answer.info r)) hresult, hagree⟩
    | forget _ =>
      cases hr
      obtain ⟨hresult, hagree⟩ := Project.matches_forget hs hpath
      exact ⟨congrArg (fun r => some (Answer.forgotten r)) hresult, hagree⟩

/-- Whole sessions, by induction on their events. -/
theorem answers_of_agree {own common : Session} (h : own.Agree common) {acts : List Act}
    (hacts : own.permits Scan.standard acts = true) :
    common.answers Scan.standard acts = own.answers Scan.standard acts := by
  induction acts generalizing own common with
  | nil => rfl
  | cons a acts ih =>
    rw [Session.permits, Bool.and_eq_true] at hacts
    obtain ⟨hanswer, hagree⟩ := step_agree h hacts.1
    rw [Session.answers, Session.answers, hanswer, ih hagree hacts.2]

/-- A request is permitted in both sessions or in neither. -/
theorem permits_request {own common : Session} (h : own.Agree common) (r : Request) :
    own.workspace.permits (.request r) = common.workspace.permits (.request r) := by
  obtain ⟨w, c⟩ := own
  obtain ⟨w', c'⟩ := common
  obtain ⟨rfl, rfl, s, rfl, hs⟩ := h
  have hplace : (w.without cacheFolder).placeOf = w.placeOf := funext hs.placeOf_without
  unfold Workspace.permits
  simp only [hplace]
  rfl

/-- Once the files are left alone, the session with one store tells what is permitted in the other. -/
theorem permits_of_agree {own common : Session} (h : own.Agree common) {acts : List Act}
    (hacts : own.permits Scan.standard acts = true) {asked : List Request}
    (hasked : common.permits Scan.standard (acts ++ asked.map .request) = true) :
    own.permits Scan.standard (acts ++ asked.map .request) = true := by
  induction acts generalizing own common with
  | nil =>
    induction asked generalizing own common with
    | nil => rfl
    | cons r asked ih =>
      obtain ⟨hr, hrest⟩ := Bool.and_eq_true_iff.mp hasked
      have hown := (permits_request h r).trans hr
      exact Bool.and_eq_true_iff.mpr ⟨hown, ih (step_agree h hown).2 rfl hrest⟩
  | cons a acts ih =>
    obtain ⟨ha, hacts⟩ := Bool.and_eq_true_iff.mp hacts
    obtain ⟨_, hrest⟩ := Bool.and_eq_true_iff.mp hasked
    exact Bool.and_eq_true_iff.mpr ⟨ha, ih (step_agree h ha).2 hacts hrest⟩

theorem agree_start {w : Workspace} (hw : w.isProper = true) (ht : w.tree.isOrdinary = true) :
    (Session.mk w .perProject).Agree ⟨w, .shared {}⟩ := by
  refine ⟨rfl, ?_, {}, rfl, agrees_start hw ht⟩
  unfold Workspace.without
  rw [without_of_isOrdinary ht]

end SpringRoutes
