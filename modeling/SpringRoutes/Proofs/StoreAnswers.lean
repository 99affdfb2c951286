import SpringRoutes.Proofs.Requests
import SpringRoutes.Proofs.StoreRuns

/-!
# `SpringRoutes.Proofs.StoreAnswers` — a store answers every question about a key alike

Whether a store has something for a project is decided in five ways: by the routes that it gives,
by the list of its keys, twice by the information about the project, and by whether there is
something to drop. These look at different things (an entry, whether it has fields, its list of
records, a name in a list), and agree because **every entry of a store has a list of records**
(`Sound`). Opening a file leaves out what is no entry, putting routes makes one, and nothing else
makes any.

`sound_step` and `sound_run` carry that over every run of calls, whatever happens to the files in
the meantime, and `answers_agree` draws the conclusion.
-/

namespace SpringRoutes

open Store (Entry)

namespace Store

/-! ## Sound stores -/

/-- Every entry has a list of records and a time. The records themselves may be malformed, and the
    time of any kind. -/
def Sound (s : Store) : Prop :=
  ∀ e ∈ s.entries, Entry.isValid e.2 = true

/-- A store as it is opened: in memory, or on a file that can be loaded. -/
inductive Opened (w : Workspace) : Store → Prop
  | inMemory : Opened w {}
  | onFile {file : WrittenPath} {s : Store} (h : (load w file).result = .ok s) : Opened w s

/-- **Opening leaves out what is no entry.** -/
theorem Opened.sound {w : Workspace} {s : Store} (h : Opened w s) : s.Sound := by
  cases h with
  | inMemory => exact nofun
  | onFile hload =>
    obtain ⟨_, _, hnone | ⟨text, j, hj, heq⟩⟩ := load_eq_ok hload
    · intro e he
      rw [hnone] at he
      cases he
    · intro e he
      rw [heq] at he
      obtain ⟨_, es, fields, _, _, hes, hmem, hvalid, hfields⟩ := mem_entriesOf.mp he
      -- the fields of an entry are put in order, and a list of records stays one
      have hobject := isDistinct_entries (Json.isDistinct_of_parse hj) hes
      have hkeys : (fields.map (·.1)).Nodup := by
        cases hobject with
        | object _ _ hall =>
          cases hall _ hmem with
          | object _ hdistinct _ => exact hdistinct
      rw [hfields]
      exact Entry.isValid_canonicalFields hkeys hvalid

theorem Sound.put {s : Store} (h : s.Sound) (key : String) (routes : List Route) (now : Moment) :
    (s.put key routes now).Sound :=
  forall_mem_put (P := fun e => e.isValid = true) key h (settled_ofRoutes .standard routes now).valid

theorem Sound.remove {s : Store} (h : s.Sound) (key : String) : (s.remove key).Sound :=
  forall_mem_remove (P := fun e => e.isValid = true) key h

/-- Persisting changes no entry, whether or not it succeeds. -/
theorem entries_persist (s : Store) (w : Workspace) : (s.persist w).1.entries = s.entries := by
  cases hfile : s.file with
  | none =>
    rw [persist_of_file_eq_none hfile]
  | some file =>
    rcases persist_cases hfile w with ⟨_, hsame⟩ | ⟨_, _, w', _, hsaved⟩ | ⟨_, w', e, hfailed, _⟩
    · rw [hsame]
    · rw [hsaved]
    · rw [hfailed]

end Store

/-! ## Runs -/

/-- A root that stands for no key changes nothing. -/
theorem OpenStore.sound_changeAt {o : OpenStore} (h : o.store.Sound) (root : String)
    {change : String → Store} (hchange : ∀ key, (change key).Sound) :
    (o.changeAt root change).store.Sound := by
  unfold changeAt
  split
  · exact hchange _
  · exact h

/-- **One call keeps a store sound.** -/
theorem OpenStore.sound_step {o : OpenStore} (h : o.store.Sound) (c : StoreCall) :
    (o.step c).store.Sound := by
  cases c with
  | put root routes => exact sound_changeAt h root fun key => h.put key routes _
  | remove root => exact sound_changeAt h root fun key => h.remove key
  | clear => exact nofun
  | routes root => exact h
  | info root => exact h
  | persist =>
    show (o.store.persist o.workspace).1.Sound
    unfold Store.Sound
    rw [Store.entries_persist]
    exact h
  | meanwhile w => exact h

/-- Whole runs, by induction on their calls. -/
theorem OpenStore.sound_run {o : OpenStore} (h : o.store.Sound) (calls : List StoreCall) :
    (o.run calls).store.Sound := by
  induction calls generalizing o with
  | nil => exact h
  | cons c calls ih => exact ih (sound_step h c)

/-! ## Answers -/

namespace Store

theorem mem_keys_iff {s : Store} {key : String} :
    key ∈ s.keys ↔ (s.entries.lookup key).isSome = true := by
  unfold keys
  rw [List.mem_mergeSort, ← Option.ne_none_iff_isSome, ne_eq, List.lookup_eq_none_iff]
  constructor
  · intro hmem hall
    obtain ⟨e, he, rfl⟩ := List.mem_map.mp hmem
    simpa using hall e he
  · intro hnot
    by_contra hmem
    apply hnot
    intro e he
    have hne : key ≠ e.1 := by
      rintro rfl
      exact hmem (List.mem_map_of_mem he)
    simpa using hne

/-- What a store answers about a key, depending on whether it has something for it. -/
structure AnswersAt (s : Store) (key : String) (now : Moment) (isThere : Bool) : Prop where
  routes : (s.routes? key).isSome = isThere
  listed : key ∈ s.keys ↔ isThere = true
  hasCache : (s.info key now).hasCache = isThere
  root : (s.info key now).root = if isThere then some key else none
  /-- The reply of dropping the key. -/
  dropped : s.contains key = isThere
  /-- Dropping the key changes the entries only if there is something to drop. -/
  changes : (s.remove key).entries ≠ s.entries ↔ isThere = true
  count : (s.info key now).count = ((s.routes? key).map List.length).getD 0

theorem Entry.isEmpty_of_isValid {e : Entry} (h : e.isValid = true) : e.isEmpty = false := by
  cases e with
  | nil => cases h
  | cons f e => rfl

/-- No entry of a sound store counts as none. -/
theorem Sound.entry?_eq {s : Store} (h : s.Sound) (key : String) :
    s.entry? key = s.entries.lookup key := by
  unfold entry?
  cases hl : s.entries.lookup key with
  | none => rfl
  | some e =>
    have hvalid : Entry.isValid e = true := h _ (Entries.mem_of_lookup hl)
    rw [Option.filter_some_pos (by rw [Entry.isEmpty_of_isValid hvalid]; rfl)]

/-- **In a sound store an entry is all that the answers depend on.** -/
theorem Sound.answersAt {s : Store} (h : s.Sound) (key : String) (now : Moment) :
    s.AnswersAt key now (s.contains key) := by
  have hroutes : (s.routes? key).isSome = s.contains key := by
    unfold routes? contains
    rw [h.entry?_eq]
    cases hl : s.entries.lookup key with
    | none => rfl
    | some e =>
      have hvalid : Entry.isValid e = true := h _ (Entries.mem_of_lookup hl)
      exact (Bool.and_eq_true_iff.mp hvalid).1
  refine ⟨hroutes, mem_keys_iff, hroutes, ?_, rfl, ?_, ?_⟩
  · show (s.entry? key).map (fun _ => key) = _
    rw [h.entry?_eq, contains]
    cases s.entries.lookup key <;> rfl
  · cases hthere : s.contains key with
    | false => simp [remove_of_not_contains hthere]
    | true =>
      refine iff_of_true ?_ rfl
      intro heq
      have hgone := Entries.lookup_drop_self s.entries key
      rw [← entries_remove, heq] at hgone
      unfold contains at hthere
      rw [hgone] at hthere
      cases hthere
  · show ((s.routes? key).getD []).length = _
    cases s.routes? key <;> rfl

end Store

/-- **Every reachable store answers consistently.** Open a store in memory or on any file that
    loads, and let any calls follow. Then all answers about a key agree on whether there is something
    for it: whether routes are given, whether the key is listed, whether the information says so and
    names the key, and whether dropping it says that something was dropped, and drops something. The
    number in the information is that of the routes that are given, and zero when none are. -/
theorem answers_agree {w : Workspace} {s : Store} (hopen : s.Opened w) (calls : List StoreCall)
    (key : String) (now : Moment) :
    ∃ isThere, ((OpenStore.mk w s).run calls).store.AnswersAt key now isThere := by
  have hsound : ((OpenStore.mk w s).run calls).store.Sound :=
    OpenStore.sound_run hopen.sound calls
  exact ⟨_, hsound.answersAt key now⟩

/-- A file with an entry whose records are all malformed, and one whose records are no list. The
    first is an entry without routes, the second is none; a third is put in, persisted and
    dropped. -/
theorem answers_agree_malformed :
    let file : WrittenPath := ⟨"/", ["shop", "routes.json"]⟩
    let text := "\x7b\"version\": 1, \"entries\": \x7b" ++
      "\"/a\": \x7b\"updated_at\": [], \"records\": [7, \x7b\"line\": 1\x7d]\x7d, " ++
      "\"/b\": \x7b\"updated_at\": \"\", \"records\": 7\x7d\x7d\x7d"
    let w : Workspace :=
      { tree := .dir [("shop", .dir [("routes.json", .file (.text text))])]
        cwd := some ["shop"]
        home := ["home"]
        now := { year := 2024, month := 1, day := 1 } }
    let calls : List StoreCall := [.put "." [], .persist, .remove "/shop/."]
    ∃ s : Store, (Store.load w file).result = .ok s ∧ s.Opened w ∧
      let store := ((OpenStore.mk w s).run calls).store
      store.isDirty = true ∧ store.AnswersAt "/a" w.now true ∧ store.AnswersAt "/b" w.now false ∧
        store.AnswersAt "/shop" w.now false := by
  intro file text w calls
  have hall : (Store.load w file).result.toOption.any (fun s =>
      let store := ((OpenStore.mk w s).run calls).store
      store.isDirty && store.contains "/a" && !store.contains "/b" && !store.contains "/shop")
        = true := by decide +kernel
  cases hopen : (Store.load w file).result with
  | error e =>
    rw [hopen] at hall
    cases hall
  | ok s =>
    rw [hopen] at hall
    simp only [Except.toOption, Option.any_some, Bool.and_eq_true, Bool.not_eq_true'] at hall
    obtain ⟨⟨⟨hdirty, ha⟩, hb⟩, hshop⟩ := hall
    have hagree := answers_agree (.onFile hopen) calls
    have hat : ∀ {key there}, ((OpenStore.mk w s).run calls).store.contains key = there →
        ((OpenStore.mk w s).run calls).store.AnswersAt key w.now there := by
      rintro key _ rfl
      obtain ⟨isThere, hkey⟩ := hagree key w.now
      rwa [hkey.dropped]
    exact ⟨s, rfl, .onFile hopen, hdirty, hat ha, hat hb, hat hshop⟩

end SpringRoutes
