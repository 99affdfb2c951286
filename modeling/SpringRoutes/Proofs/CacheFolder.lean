import SpringRoutes.Proofs.StoreFile

/-!
# `SpringRoutes.Proofs.CacheFolder` — the folder in which a project keeps its results

A project's own store is read from its folder at every request and written back when it has changed.
`CacheAt` says which entries the folder holds; opening the store gives them (`result_load_fileOf`),
and saving a store makes the folder hold that store (`save_fileOf`). `Store.kept` is the part of a
store for all projects that such a folder corresponds to, and `Store.own` the store made of it.
-/

namespace SpringRoutes

open Store (Entry)

/-! ## Entries of a store -/

namespace Store

/-- What a store has under a key, as the entries of a store of its own. -/
def kept (s : Store) (key : String) : List (String × Entry) :=
  (s.entries.lookup key).toList.map fun e => (key, e)

theorem kept_congr {s s' : Store} {key : String}
    (h : s'.entries.lookup key = s.entries.lookup key) : s'.kept key = s.kept key := by
  unfold kept
  rw [h]

/-- What is kept for a key is what the store has under it. -/
theorem lookup_kept (s : Store) (key : String) :
    (s.kept key).lookup key = s.entries.lookup key := by
  unfold kept
  cases s.entries.lookup key with
  | none => rfl
  | some e => exact List.lookup_cons_self

/-- The store of its own that a project has in place of the store for all projects. -/
def own (s : Store) (root : Place) : Store :=
  { file := some (Cache.fileOf root), entries := s.kept root.text }

theorem lookup_own (s : Store) (root : Place) :
    (s.own root).entries.lookup root.text = s.entries.lookup root.text :=
  lookup_kept s root.text

/-- A new entry takes the place of the one that is kept. -/
theorem put_kept (s : Store) (key : String) (e : Entry) :
    Entries.put (s.kept key) key e = [(key, e)] := by
  unfold kept
  cases s.entries.lookup key with
  | none => rfl
  | some d => exact if_pos rfl

/-- Dropping a key that is not there changes nothing, so the two ways to drop are one. -/
theorem entries_remove (s : Store) (key : String) :
    (s.remove key).entries = Entries.drop s.entries key := by
  unfold remove contains
  cases hl : s.entries.lookup key with
  | some e => rfl
  | none =>
    refine (List.filter_eq_self.mpr ?_).symm
    intro e he
    have hne := List.lookup_eq_none_iff.mp hl e he
    simpa using Ne.symm (bne_iff_ne.mp (by simpa using hne))

theorem file_remove (s : Store) (key : String) : (s.remove key).file = s.file := by
  unfold remove
  split <;> rfl

section Changes

variable {s : Store} (key : String)

theorem nodup_put (h : (s.entries.map (·.1)).Nodup) (routes : List Route) (now : Moment) :
    ((s.put key routes now).entries.map (·.1)).Nodup := by
  exact Entries.nodup_put h key _

/-- What holds of every entry and of the new one holds after putting it. -/
theorem forall_mem_put {P : Entry → Prop} (h : ∀ e ∈ s.entries, P e.2) {routes : List Route}
    {now : Moment} (hnew : P (.ofRoutes routes now)) :
    ∀ e ∈ (s.put key routes now).entries, P e.2 := by
  exact Entries.forall_mem_put h hnew

theorem nodup_remove (h : (s.entries.map (·.1)).Nodup) :
    ((s.remove key).entries.map (·.1)).Nodup := by
  rw [entries_remove]
  exact h.sublist (List.filter_sublist.map _)

/-- What holds of every entry holds of those that are left. -/
theorem forall_mem_remove {P : Entry → Prop} (h : ∀ e ∈ s.entries, P e.2) :
    ∀ e ∈ (s.remove key).entries, P e.2 := by
  rw [entries_remove]
  exact fun e he => h e (List.mem_filter.mp he).1

end Changes

theorem remove_of_contains {s : Store} {key : String} (h : s.contains key = true) :
    (s.remove key).isDirty = true := by
  rw [remove, h]
  rfl

/-- Only a key that is there is dropped. -/
theorem remove_of_not_contains {s : Store} {key : String} (h : s.contains key = false) :
    s.remove key = s := by
  rw [remove, h]
  rfl

theorem filter_kept (s : Store) (key : String) :
    Entries.drop (s.kept key) key = [] := by
  unfold kept
  cases s.entries.lookup key with
  | none => rfl
  | some d => exact List.filter_cons_of_neg (by simp)

/-- A project that is dropped leaves its own store empty. -/
theorem entries_remove_own (s : Store) (root : Place) :
    ((s.own root).remove root.text).entries = [] := by
  rw [entries_remove]
  exact filter_kept s root.text

/-- Nothing is kept for a key that was dropped. -/
theorem kept_remove (s : Store) (key : String) : (s.remove key).kept key = [] := by
  rw [kept, entries_remove, Entries.lookup_drop_self]
  rfl

/-- An entry without fields has no records either. -/
theorem routes?_eq (s : Store) (key : String) :
    s.routes? key = (s.entries.lookup key).bind Entry.routes? := by
  unfold routes? entry?
  cases s.entries.lookup key with
  | none => rfl
  | some e =>
    cases e with
    | nil => rfl
    | cons f e => rfl

/-- A store answers questions about a key by what it has under the key. -/
theorem routes?_congr {s s' : Store} {key : String}
    (h : s'.entries.lookup key = s.entries.lookup key) : s'.routes? key = s.routes? key := by
  rw [routes?_eq, routes?_eq, h]

theorem contains_congr {s s' : Store} {key : String}
    (h : s'.entries.lookup key = s.entries.lookup key) : s'.contains key = s.contains key := by
  unfold contains
  rw [h]

theorem info_congr {s s' : Store} {key : String}
    (h : s'.entries.lookup key = s.entries.lookup key) (now : Moment) :
    s'.info key now = s.info key now := by
  unfold info entry?
  rw [routes?_congr h, h]

end Store

/-! ## The folder of a project -/

/-- The folder for results of the project at `root` holds these entries, with room for so many
    brackets in each: there is none, or a file of a store in it. -/
inductive CacheAt (room : Nat) (t : Tree) (root : Place) : List (String × Entry) → Prop
  | absent (h : t.find? (root ++ [cacheFolder]) = none) : CacheAt room t root []
  | present (s : Store) (keeps : Store.Keeps room s.entries)
      (h : t.find? (root ++ [cacheFolder])
        = some (.dir [(Cache.fileName, .file (.text s.toJson.render))])) : CacheAt room t root s.entries

/-- The file of a project lies in the folder of the project. -/
theorem fileOf_eq_path (root : Place) :
    Cache.fileOf root = Place.path (root ++ [cacheFolder] ++ [Cache.fileName]) := rfl

theorem isProper_folder {root : Place} (h : root.isProper = true) :
    Place.isProper (root ++ [cacheFolder]) = true :=
  Workspace.isProper_concat h (by decide)

/-- Opening a project's own store gives what its folder holds. -/
theorem result_load_fileOf {w : Workspace} {root : Place} (hroot : root.isProper = true)
    {es : List (String × Entry)} (h : CacheAt w.platform.entryRoom w.tree root es) :
    (Store.load w (Cache.fileOf root)).result
      = .ok { file := some (Cache.fileOf root), entries := es } := by
  have hproper : Place.isProper (root ++ [cacheFolder] ++ [Cache.fileName]) = true :=
    Workspace.isProper_concat (isProper_folder hroot) (by decide)
  rw [fileOf_eq_path]
  cases h with
  | absent h =>
    -- neither the file nor its folder is there
    refine Store.load_of_missing w hproper ?_
    rw [Tree.find?_append, h]
    rfl
  | present s hkeeps h =>
    refine Store.load_of_file hproper hkeeps ?_
    rw [Tree.find?_append, h]
    rfl

/-- The store of a project depends on nothing outside its folder. -/
theorem CacheAt.congr {room : Nat} {t t' : Tree} {root : Place} {es : List (String × Entry)}
    (h : CacheAt room t root es)
    (hsame : t'.find? (root ++ [cacheFolder]) = t.find? (root ++ [cacheFolder])) :
    CacheAt room t' root es := by
  cases h with
  | absent h => exact .absent (hsame.trans h)
  | present s hkeeps h => exact .present s hkeeps (hsame.trans h)

/-- Where the folder of a project should be there is no file. -/
theorem CacheAt.isDir {room : Nat} {t : Tree} {root : Place} {es : List (String × Entry)}
    (h : CacheAt room t root es) : ∀ u, t.find? (root ++ [cacheFolder]) = some u → u.isDir = true := by
  intro u hu
  cases h with
  | absent h =>
    rw [h] at hu
    cases hu
  | present s _ h =>
    rw [h] at hu
    cases hu
    rfl

/-- A project with a folder is a directory. -/
theorem CacheAt.exists_dir {room : Nat} {t : Tree} {root : Place} {e : String × Entry}
    {es : List (String × Entry)} (h : CacheAt room t root (e :: es)) :
    ∃ ds, t.find? root = some (.dir ds) := by
  generalize hall : e :: es = all at h
  cases h with
  | absent h => cases hall
  | present s _ h =>
    rw [Tree.find?_append] at h
    obtain ⟨u, hu, h⟩ := Option.bind_eq_some_iff.mp h
    cases u with
    | file c | loop => cases h
    | dir ds => exact ⟨ds, hu⟩

/-- The workspace after a project's own file has been written. -/
def Workspace.withCache (w : Workspace) (root : Place) (c : Content) : Workspace :=
  { w with tree := w.tree.set (root ++ [cacheFolder]) (.dir [(Cache.fileName, .file c)]) }

/-- Saving a store to its project makes the folder hold exactly that store, if the file system takes
    the file. -/
theorem save_fileOf {w : Workspace} {root : Place} (hroot : root.isProper = true)
    (haccepts : w.platform.accepts (Cache.fileOf root) = true)
    {ds : List (String × Tree)} (hdir : w.tree.find? root = some (.dir ds))
    {room : Nat} {es : List (String × Entry)} (h : CacheAt room w.tree root es) (c : Content) :
    w.save (Cache.fileOf root) c = (w.withCache root c, none) := by
  have hfolder := Tree.find?_child hdir cacheFolder
  cases h with
  | absent h =>
    rw [hfolder] at h
    exact Workspace.save_in_folder hroot (by decide) (by decide) haccepts hdir (.inr ⟨h, rfl⟩)
      (fun _ hd => by cases hd) c
  | present s _ h =>
    rw [hfolder] at h
    refine Workspace.save_in_folder hroot (by decide) (by decide) haccepts hdir (.inl h) ?_ c
    intro t ht
    cases ht
    exact ⟨_, rfl⟩

end SpringRoutes
