import SpringRoutes.Proofs.CacheFolder

/-!
# `SpringRoutes.Proofs.StoreRuns` — a persisted store loses nothing

A store that was opened on a file is changed in memory and persisted now and then. Whenever
persisting succeeds, whether the file was written or was up to date, the file opens to a store with
the same entries, and so with the same answers (`reopened_after_persist`).

The invariant `OpenStore.InStep` carries that over every run of calls. Its point is the mark for
changes: **a store without it has the entries that its file opens to**. That is so right after
opening, also when the file is missing, is no store, or has entries that opening leaves out; every
change sets the mark; and persisting takes it away only after it has written the file. What others do
in the meantime leaves the content of the file alone, and nothing else of it matters
(`Store.load_congr`).
-/

namespace SpringRoutes

open Store (Entry)

/-! ## Opening -/

/-- What a file holds, if there is one. -/
def Workspace.contentAt? (w : Workspace) (file : WrittenPath) : Option Content :=
  (w.read file).toOption

namespace Store

/-- **Opening depends on nothing but the content of the file** and the platform. -/
theorem load_congr {w w' : Workspace} {file : WrittenPath} (hplatform : w'.platform = w.platform)
    (h : w'.contentAt? file = w.contentAt? file) :
    (load w' file).result = (load w file).result := by
  unfold Workspace.contentAt? at h
  cases hnull : file.hasNull with
  | true =>
    have hread : ∀ v : Workspace, v.readText file = .error .nullByte := by
      intro v
      unfold Workspace.readText Workspace.read
      rw [if_pos hnull]
      rfl
    unfold load
    simp only
    rw [hread w, hread w']
  | false =>
    rcases Workspace.read_cases w hnull with ⟨c, hc⟩ | ⟨f, hf⟩
    · rcases Workspace.read_cases w' hnull with ⟨c', hc'⟩ | ⟨f', hf'⟩
      · rw [hc, hc'] at h
        cases h
        unfold load Workspace.readText
        rw [hc, hc', hplatform]
      · rw [hc, hf'] at h
        cases h
    · rcases Workspace.read_cases w' hnull with ⟨c', hc'⟩ | ⟨f', hf'⟩
      · rw [hf, hc'] at h
        cases h
      · rw [load_of_fault hf, load_of_fault hf']

/-- Whether all numbers in the entries of a store are integers. -/
def isIntegral (s : Store) : Bool :=
  s.entries.all fun e => (Json.object e.2).isIntegral

theorem settled_of_load {w : Workspace} {file : WrittenPath} {s : Store}
    (h : (load w file).result = .ok s) (hintegral : s.isIntegral = true) :
    Settled w.platform.entryRoom s.entries := by
  have hall := List.all_eq_true.mp hintegral
  obtain ⟨_, _, hnone | ⟨text, j, hj, heq⟩⟩ := load_eq_ok h
  · rw [hnone]
    exact keeps_nil.settled
  · rw [heq] at hall ⊢
    have hroom := Json.nestsIn_of_parse hj
    rw [w.platform.jsonDepth_eq] at hroom
    exact settled_entriesOf (Json.isDistinct_of_parse hj) hroom hall

/-! ## Changes keep entries settled -/

theorem settled_put {p : Platform} {s : Store} (h : Settled p.entryRoom s.entries) (key : String)
    (routes : List Route) (now : Moment) : Settled p.entryRoom (s.put key routes now).entries where
  distinct := nodup_put key h.distinct routes now
  entries := forall_mem_put key h.entries (settled_ofRoutes p routes now)

theorem settled_remove {room : Nat} {s : Store} (h : Settled room s.entries) (key : String) :
    Settled room (s.remove key).entries where
  distinct := nodup_remove key h.distinct
  entries := forall_mem_remove key h.entries

/-! ## Persisting -/

/-- **What persisting does** to a store with a file: nothing when there is no change, or else it
    writes the file and takes the mark away, or fails and keeps the mark. It fails only for a number
    that is too long, or because the file cannot be saved, and leaves the platform alone. -/
theorem persist_cases {s : Store} {file : WrittenPath} (hfile : s.file = some file)
    (w : Workspace) :
    (s.isDirty = false ∧ s.persist w = (s, w, none)) ∨
    (s.isDirty = true ∧ s.toJson.isWritable = true ∧
      ∃ w', w.save file (.text s.toJson.render) = (w', none) ∧
        s.persist w = ({ s with isDirty := false }, w', none)) ∨
    (s.isDirty = true ∧ ∃ w' e, s.persist w = (s, w', some e) ∧ w'.platform = w.platform ∧
      (s.toJson.isWritable = false ∨
        (w.save file (.text s.toJson.render)).2 = some e)) := by
  unfold persist
  rw [hfile]
  cases hdirty : s.isDirty with
  | false => exact .inl ⟨rfl, rfl⟩
  | true =>
    dsimp only
    cases hwritable : s.toJson.isWritable with
    | true =>
      rw [if_pos rfl]
      have hplatform := w.platform_save file (.text s.toJson.render)
      generalize w.save file (.text s.toJson.render) = saved at hplatform ⊢
      obtain ⟨w', fault⟩ := saved
      cases fault with
      | none => exact .inr (.inl ⟨rfl, rfl, w', rfl, rfl⟩)
      | some e => exact .inr (.inr ⟨rfl, w', e, rfl, hplatform, .inr rfl⟩)
    | false =>
      rw [if_neg Bool.false_ne_true]
      have hplatform := w.platform_makeDirs file.parent
      generalize w.makeDirs file.parent = made at hplatform ⊢
      obtain ⟨w', fault⟩ := made
      cases fault with
      | none => exact .inr (.inr ⟨rfl, w', _, rfl, hplatform, .inl rfl⟩)
      | some e => exact .inr (.inr ⟨rfl, w', e, rfl, hplatform, .inl rfl⟩)

/-- A store that was saved comes back with its entries in order. -/
theorem load_of_save {s : Store} {w w' : Workspace} {file : WrittenPath}
    (h : Settled w.platform.entryRoom s.entries) (hwritable : s.toJson.isWritable = true)
    (hsave : w.save file (.text s.toJson.render) = (w', none)) :
    (load w' file).result = .ok { file := some file, entries := inOrder s.entries } := by
  have hplatform := w.platform_save file (.text s.toJson.render)
  rw [hsave] at hplatform
  refine load_of_read (hplatform ▸ keeps_inOrder h hwritable) ?_
  rw [← toJson_eq_document h]
  exact Workspace.read_of_save hsave

/-! ## Equal stores -/

/-- Two stores have the same entries, and so give the same answers to all questions. -/
structure Same (s t : Store) : Prop where
  entries : t.entries.Perm s.entries
  entry : ∀ key, t.entries.lookup key = s.entries.lookup key
  keys : t.keys = s.keys
  contains : ∀ key, t.contains key = s.contains key
  routes : ∀ key, t.routes? key = s.routes? key
  info : ∀ key now, t.info key now = s.info key now

theorem same_of_perm {s t : Store} (hs : (s.entries.map (·.1)).Nodup)
    (h : t.entries.Perm s.entries) : Same s t where
  entries := h
  entry := Entries.lookup_perm hs h
  keys := mergeSort_eq_of_perm (h.map (·.1))
  contains key := contains_congr (Entries.lookup_perm hs h key)
  routes key := routes?_congr (Entries.lookup_perm hs h key)
  info key := info_congr (Entries.lookup_perm hs h key)

end Store

/-! ## Runs of calls -/

/-- A call on an open store, or something that happens between two calls. -/
inductive StoreCall
  | put (root : String) (routes : List Route)
  | remove (root : String)
  | clear
  | routes (root : String)
  | info (root : String)
  | persist
  /-- What others do: the clock moves, directories and files change. The platform stays. -/
  | meanwhile (w : Workspace)

/-- A store that is in use, and the files around it. -/
structure OpenStore where
  workspace : Workspace
  store : Store

namespace OpenStore

/-- Change the store under the key of a root. A root that denotes no place changes nothing. -/
def changeAt (o : OpenStore) (root : String) (change : String → Store) : OpenStore :=
  match o.workspace.placeOf root with
  | .ok place => { o with store := change place.text }
  | .error _ => o

/-- One call. Questions change nothing. -/
def step (o : OpenStore) : StoreCall → OpenStore
  | .put root routes => o.changeAt root fun key => o.store.put key routes o.workspace.now
  | .remove root => o.changeAt root fun key => o.store.remove key
  | .clear => { o with store := o.store.clear }
  | .routes _ | .info _ => o
  | .persist =>
    let (store, workspace, _) := o.store.persist o.workspace
    ⟨workspace, store⟩
  | .meanwhile w => { o with workspace := { w with platform := o.workspace.platform } }

/-- Calls one after another. -/
def run (o : OpenStore) (calls : List StoreCall) : OpenStore :=
  calls.foldl step o

/-- Whether a call leaves the content of the file to the store. -/
def permits (o : OpenStore) (file : WrittenPath) : StoreCall → Bool
  | .meanwhile w => w.contentAt? file = o.workspace.contentAt? file
  | _ => true

/-- Whether nobody else writes the file during a run of calls. -/
def isOnlyWriter (file : WrittenPath) (o : OpenStore) : List StoreCall → Bool
  | [] => true
  | c :: calls => o.permits file c && isOnlyWriter file (o.step c) calls

/-! ## The invariant -/

/-- The store belongs to the file, and has the entries that the file opens to unless it is marked
    as changed. -/
structure InStep (file : WrittenPath) (o : OpenStore) : Prop where
  opened : o.store.file = some file
  settled : Store.Settled o.workspace.platform.entryRoom o.store.entries
  unchanged : o.store.isDirty = false → ∃ fresh : Store,
    (Store.load o.workspace file).result = .ok fresh ∧ fresh.entries.Perm o.store.entries

theorem inStep_start {w : Workspace} {file : WrittenPath} {s : Store}
    (h : (Store.load w file).result = .ok s) (hintegral : s.isIntegral = true) :
    InStep file ⟨w, s⟩ where
  opened := (Store.load_eq_ok h).1
  settled := Store.settled_of_load h hintegral
  unchanged _ := ⟨s, h, List.Perm.refl _⟩

/-- A change that is marked keeps the invariant. -/
theorem inStep_of_isDirty {file : WrittenPath} {o : OpenStore} (hfile : o.store.file = some file)
    (hsettled : Store.Settled o.workspace.platform.entryRoom o.store.entries)
    (hdirty : o.store.isDirty = true) : InStep file o where
  opened := hfile
  settled := hsettled
  unchanged hclean := by
    rw [hdirty] at hclean
    cases hclean

theorem inStep_changeAt {file : WrittenPath} {o : OpenStore} (h : InStep file o) (root : String)
    {change : String → Store} (hchange : ∀ key, InStep file { o with store := change key }) :
    InStep file (o.changeAt root change) := by
  unfold changeAt
  cases o.workspace.placeOf root with
  | ok place => exact hchange place.text
  | error e => exact h

/-- **Persisting keeps the invariant**, also when it fails halfway. -/
theorem inStep_persist {file : WrittenPath} {o : OpenStore} (h : InStep file o) :
    InStep file (o.step .persist) := by
  rcases Store.persist_cases h.opened o.workspace with
    ⟨_, hsame⟩ | ⟨_, hwritable, w', hsave, hsaved⟩ | ⟨hdirty, w', e, hfailed, hplatform, _⟩
  · unfold step
    rw [hsame]
    exact h
  · have hplatform := o.workspace.platform_save file (.text o.store.toJson.render)
    rw [hsave] at hplatform
    unfold step
    rw [hsaved]
    exact ⟨h.opened, hplatform ▸ h.settled, fun _ =>
      ⟨_, Store.load_of_save h.settled hwritable hsave, Store.inOrder_perm _⟩⟩
  · unfold step
    rw [hfailed]
    exact inStep_of_isDirty h.opened (hplatform ▸ h.settled) hdirty

/-- **One call keeps the invariant.** -/
theorem inStep_step {file : WrittenPath} {o : OpenStore} (h : InStep file o) {c : StoreCall}
    (hc : o.permits file c = true) : InStep file (o.step c) := by
  cases c with
  | put root routes =>
    unfold step
    refine inStep_changeAt h root fun key => ?_
    exact inStep_of_isDirty h.opened (Store.settled_put h.settled _ _ _) rfl
  | remove root =>
    unfold step
    refine inStep_changeAt h root fun key => ?_
    cases hthere : o.store.contains key with
    | false =>
      -- there was nothing to drop, so nothing has changed
      rw [Store.remove_of_not_contains hthere]
      exact h
    | true =>
      exact inStep_of_isDirty ((Store.file_remove ..).trans h.opened)
        (Store.settled_remove h.settled _) (Store.remove_of_contains hthere)
  | clear => exact inStep_of_isDirty h.opened Store.keeps_nil.settled rfl
  | routes root => exact h
  | info root => exact h
  | persist => exact inStep_persist h
  | meanwhile w =>
    refine ⟨h.opened, h.settled, ?_⟩
    intro hclean
    obtain ⟨fresh, hload, hperm⟩ := h.unchanged hclean
    -- files are read alike on all platforms
    have hsame : (Store.load (o.step (.meanwhile w)).workspace file).result
        = (Store.load o.workspace file).result :=
      Store.load_congr (w := o.workspace) rfl (of_decide_eq_true hc)
    exact ⟨fresh, hsame.trans hload, hperm⟩

/-- Whole runs, by induction on their calls. -/
theorem inStep_run {file : WrittenPath} {o : OpenStore} (h : InStep file o)
    {calls : List StoreCall} (hcalls : isOnlyWriter file o calls = true) :
    InStep file (o.run calls) := by
  induction calls generalizing o with
  | nil => exact h
  | cons c calls ih =>
    rw [isOnlyWriter, Bool.and_eq_true] at hcalls
    exact ih (inStep_step h hcalls.1) hcalls.2

end OpenStore

/-- **A persisted store loses nothing.** Open a store on a file, missing or with integers for all
    its numbers, and let any calls follow while nobody else writes the file. A store that is then
    persisted, whether it was written or was up to date, keeps its entries in memory, and its file
    opens to a store with the same ones. Persisting fails only for a changed store, with a number
    that is too long or a file that cannot be saved. -/
theorem reopened_after_persist {w : Workspace} {file : WrittenPath} {s : Store}
    (hopen : (Store.load w file).result = .ok s) (hintegral : s.isIntegral = true)
    {calls : List StoreCall} (hcalls : OpenStore.isOnlyWriter file ⟨w, s⟩ calls = true) :
    let o := (OpenStore.mk w s).run calls
    match o.store.persist o.workspace with
    | (s', w', none) =>
      s'.entries = o.store.entries ∧
        ∃ fresh, (Store.load w' file).result = .ok fresh ∧ Store.Same s' fresh
    | (_, _, some e) =>
      o.store.isDirty = true ∧
        (o.store.toJson.isWritable = false ∨
          (o.workspace.save file (.text o.store.toJson.render)).2 = some e) := by
  intro o
  have h : o.InStep file := OpenStore.inStep_run (OpenStore.inStep_start hopen hintegral) hcalls
  have hafter := OpenStore.inStep_persist h
  unfold OpenStore.step at hafter
  rcases Store.persist_cases h.opened o.workspace with
    ⟨hclean, hsame⟩ | ⟨_, _, w', _, hsaved⟩ | ⟨hdirty, w', e, hfailed, _, hwhy⟩
  · rw [hsame] at hafter ⊢
    obtain ⟨fresh, hload, hperm⟩ := hafter.unchanged hclean
    exact ⟨rfl, fresh, hload, Store.same_of_perm hafter.settled.distinct hperm⟩
  · rw [hsaved] at hafter ⊢
    obtain ⟨fresh, hload, hperm⟩ := hafter.unchanged rfl
    exact ⟨rfl, fresh, hload, Store.same_of_perm hafter.settled.distinct hperm⟩
  · rw [hfailed]
    exact ⟨hdirty, hwhy⟩

/-- A file with an unknown field, and with an entry that is none, is opened; routes are put in, and
    another file appears before the store is persisted. -/
theorem reopened_after_persist_note :
    let file : WrittenPath := ⟨"/", ["shop", "routes.json"]⟩
    let text := "\x7b\"version\": 1, \"entries\": \x7b\"/a\": null, " ++
      "\"/b\": \x7b\"updated_at\": \"\\u00e9\", \"records\": [], \"note\": [7]\x7d\x7d\x7d"
    let w : Workspace :=
      { tree := .dir [("shop", .dir [("routes.json", .file (.text text))])]
        cwd := some ["shop"]
        home := ["home"]
        now := { year := 2024, month := 1, day := 1 } }
    let calls : List StoreCall :=
      [.put "." [], .remove "/gone", .info "/b",
       .meanwhile { w with
        tree := .dir [("shop", .dir [("B.java", .file (.text "")),
          ("routes.json", .file (.text text))])] }]
    ∃ s, (Store.load w file).result = .ok s ∧ s.isIntegral = true ∧
      OpenStore.isOnlyWriter file ⟨w, s⟩ calls = true ∧
      let o := (OpenStore.mk w s).run calls
      o.store.contains "/b" = true ∧ o.store.contains "/shop" = true ∧
      ∃ s' w', o.store.persist o.workspace = (s', w', none) ∧
        s'.entries = o.store.entries ∧
          ∃ fresh, (Store.load w' file).result = .ok fresh ∧ Store.Same s' fresh := by
  intro file text w calls
  have hall : (Store.load w file).result.toOption.any (fun s =>
      let o := (OpenStore.mk w s).run calls
      s.isIntegral && OpenStore.isOnlyWriter file ⟨w, s⟩ calls &&
        o.store.contains "/b" && o.store.contains "/shop" &&
        (o.store.persist o.workspace).2.2.isNone) = true := by decide +kernel
  cases hopen : (Store.load w file).result with
  | error e =>
    rw [hopen] at hall
    cases hall
  | ok s =>
    rw [hopen] at hall
    simp only [Except.toOption, Option.any_some, Bool.and_eq_true] at hall
    obtain ⟨⟨⟨⟨hintegral, hcalls⟩, hb⟩, hshop⟩, hsaved⟩ := hall
    refine ⟨s, rfl, hintegral, hcalls, hb, hshop, ?_⟩
    have hpersist := reopened_after_persist hopen hintegral hcalls
    revert hsaved hpersist
    generalize (OpenStore.mk w s).run calls = o
    dsimp only
    obtain ⟨s', w', fault⟩ := o.store.persist o.workspace
    intro hsaved hpersist
    cases fault with
    | none => exact ⟨s', w', rfl, hpersist⟩
    | some e => cases hsaved

end SpringRoutes
