import Mathlib.Data.List.Induction
import SpringRoutes.Proofs.History
import SpringRoutes.Proofs.StoreAnswers

/-!
# `SpringRoutes.Proofs.KeyedStore` — a store is a map from keys to tables

Calls name projects by their roots, and a store keeps tables by keys. Which key a root has depends on
where the call is made: on the current directory and on the home directory. So a run of calls is
read with the surroundings of each call (`OpenStore.trace`), and what a call does is said about one
key: it puts routes there (`Puts`), it drops what is there (`Drops`), or it leaves the key alone.

`lookup_step_of_puts`, `lookup_step_of_drops` and `lookup_step_of_not_changes` are these three cases
for one call. Over a run **what a call brings about lasts** until a call that ends it (`run_of_since`),
so the last call that changes a key decides (`OpenStore.followsCalls`). What it put is given back as it
was, since an entry gives its routes back (`Store.Entry.routes?_ofRoutes`).
-/

namespace SpringRoutes

open Store (Entry)

/-! ## What a call does to a key -/

/-- The key of a root. A root that denotes no place has none. -/
def Workspace.keyOf? (w : Workspace) (root : String) : Option String :=
  (w.placeOf root).toOption.map Place.text

namespace StoreCall

/-- The call, made in these surroundings, puts the routes under the key. -/
def Puts (key : String) (routes : List Route) (x : Workspace × StoreCall) : Prop :=
  ∃ root, x.2 = .put root routes ∧ x.1.keyOf? root = some key

/-- The call, made in these surroundings, drops what is kept under the key. -/
def Drops (key : String) (x : Workspace × StoreCall) : Prop :=
  x.2 = .clear ∨ ∃ root, x.2 = .remove root ∧ x.1.keyOf? root = some key

/-- The call, made in these surroundings, concerns what is kept under the key. -/
def Changes (key : String) (x : Workspace × StoreCall) : Prop :=
  Drops key x ∨ ∃ routes, Puts key routes x

end StoreCall

namespace OpenStore

open StoreCall

/-- A root with a key changes the store under that key. -/
theorem changeAt_of_keyOf? {o : OpenStore} {root key : String} (change : String → Store)
    (h : o.workspace.keyOf? root = some key) :
    o.changeAt root change = { o with store := change key } := by
  unfold Workspace.keyOf? at h
  unfold changeAt
  cases hplace : o.workspace.placeOf root with
  | error e =>
    rw [hplace] at h
    cases h
  | ok place =>
    rw [hplace] at h
    cases h
    rfl

@[simp] theorem workspace_changeAt (o : OpenStore) (root : String) (change : String → Store) :
    (o.changeAt root change).workspace = o.workspace := by
  unfold changeAt
  split <;> rfl

/-- A change under another key is none under this one. -/
theorem lookup_changeAt_of_ne {o : OpenStore} {root key : String} {change : String → Store}
    (hkey : o.workspace.keyOf? root ≠ some key)
    (hchange : ∀ other, key ≠ other →
      (change other).entries.lookup key = o.store.entries.lookup key) :
    (o.changeAt root change).store.entries.lookup key = o.store.entries.lookup key := by
  unfold Workspace.keyOf? at hkey
  unfold changeAt
  cases hplace : o.workspace.placeOf root with
  | error e => rfl
  | ok place =>
    rw [hplace] at hkey
    refine hchange place.text ?_
    rintro rfl
    exact hkey rfl

section Step

variable {o : OpenStore} {c : StoreCall} {key : String}

theorem lookup_step_of_puts {routes : List Route} (h : Puts key routes (o.workspace, c)) :
    (o.step c).store.entries.lookup key = some (.ofRoutes routes o.workspace.now) := by
  obtain ⟨root, rfl, hkey⟩ := h
  rw [step, changeAt_of_keyOf? _ hkey]
  exact (Store.hasPut_put o.store key routes o.workspace.now).self

theorem lookup_step_of_drops (h : Drops key (o.workspace, c)) :
    (o.step c).store.entries.lookup key = none := by
  rcases h with rfl | ⟨root, rfl, hkey⟩
  · rfl
  · rw [step, changeAt_of_keyOf? _ hkey]
    show (o.store.remove key).entries.lookup key = none
    rw [Store.entries_remove, Entries.lookup_drop_self]

/-- **Any other call leaves the key alone.** -/
theorem lookup_step_of_not_changes (h : ¬ Changes key (o.workspace, c)) :
    (o.step c).store.entries.lookup key = o.store.entries.lookup key := by
  cases c with
  | put root routes =>
    refine lookup_changeAt_of_ne (fun hkey => h (.inr ⟨routes, root, rfl, hkey⟩)) ?_
    intro other hne
    exact (Store.hasPut_put o.store other routes o.workspace.now).other key hne
  | remove root =>
    refine lookup_changeAt_of_ne (fun hkey => h (.inl (.inr ⟨root, rfl, hkey⟩))) ?_
    intro other hne
    rw [Store.entries_remove, Entries.lookup_drop_of_ne hne]
  | clear => exact absurd (.inl (.inl rfl)) h
  | routes root => rfl
  | info root => rfl
  | persist =>
    show (o.store.persist o.workspace).1.entries.lookup key = _
    rw [Store.entries_persist]
  | meanwhile w => rfl

/-- A key stays empty as long as nothing is put there. -/
theorem lookup_step_eq_none (hnone : o.store.entries.lookup key = none)
    (h : ¬ ∃ routes, Puts key routes (o.workspace, c)) :
    (o.step c).store.entries.lookup key = none := by
  by_cases hdrops : Drops key (o.workspace, c)
  · exact lookup_step_of_drops hdrops
  · rw [lookup_step_of_not_changes (not_or.mpr ⟨hdrops, h⟩), hnone]

end Step

/-! ## Runs -/

/-- The calls of a run, each with the surroundings in which it is made. -/
def trace (o : OpenStore) : List StoreCall → List (Workspace × StoreCall)
  | [] => []
  | c :: calls => (o.workspace, c) :: trace (o.step c) calls

theorem run_concat (o : OpenStore) (calls : List StoreCall) (c : StoreCall) :
    o.run (calls ++ [c]) = (o.run calls).step c := by
  unfold run
  rw [List.foldl_append]
  rfl

theorem trace_concat (o : OpenStore) (calls : List StoreCall) (c : StoreCall) :
    o.trace (calls ++ [c]) = o.trace calls ++ [((o.run calls).workspace, c)] := by
  induction calls generalizing o with
  | nil => rfl
  | cons d calls ih =>
    rw [List.cons_append, trace, trace, ih]
    rfl

section Run

variable {o : OpenStore} {calls : List StoreCall} {key : String}

section Lasting

variable {P : OpenStore → Prop} {ends : Workspace × StoreCall → Prop}
  (hstep : ∀ (o : OpenStore) c, ¬ ends (o.workspace, c) → P o → P (o.step c))

include hstep

/-- **What a call brings about lasts** until a call that ends it. -/
theorem run_of_since {x : Workspace × StoreCall}
    (hx : ∀ (o : OpenStore) c, (o.workspace, c) = x → P (o.step c))
    (h : Since (o.trace calls) x ends) : P (o.run calls) := by
  -- from the last call back, since either this call is the one, or the one is before it
  induction calls using List.reverseRecOn with
  | nil => exact absurd h since_nil
  | append_singleton calls c ih =>
    rw [trace_concat, since_concat] at h
    rw [run_concat]
    rcases h with hlast | ⟨hsince, hc⟩
    · exact hx _ c hlast
    · exact hstep _ c hc (ih hsince)

/-- What holds at first lasts if no call ends it. -/
theorem run_of_forall (hstart : P o) (h : ∀ x ∈ o.trace calls, ¬ ends x) : P (o.run calls) := by
  induction calls generalizing o with
  | nil => exact hstart
  | cons c calls ih =>
    obtain ⟨hc, hcalls⟩ := List.forall_mem_cons.mp h
    exact ih (hstep o c hc hstart) hcalls

end Lasting

/-- A table stays until the next change of its key. -/
theorem lookup_run_of_puts {routes : List Route} {x : Workspace × StoreCall}
    (hx : Puts key routes x) (h : Since (o.trace calls) x (Changes key)) :
    ∃ now, (o.run calls).store.entries.lookup key = some (.ofRoutes routes now) := by
  -- at which time it was put is not said, since the clock may be set in between
  refine run_of_since (P := fun o =>
    ∃ now, o.store.entries.lookup key = some (.ofRoutes routes now)) ?_ ?_ h
  · rintro o c hc ⟨now, hnow⟩
    exact ⟨now, (lookup_step_of_not_changes hc).trans hnow⟩
  · rintro o c rfl
    exact ⟨_, lookup_step_of_puts hx⟩

/-- A key that was dropped stays empty until something is put there. -/
theorem lookup_run_of_drops {x : Workspace × StoreCall} (hx : Drops key x)
    (h : Since (o.trace calls) x fun y => ∃ routes, Puts key routes y) :
    (o.run calls).store.entries.lookup key = none := by
  refine run_of_since (P := fun o => o.store.entries.lookup key = none) ?_ ?_ h
  · intro o c hc hnone
    exact lookup_step_eq_none hnone hc
  · rintro o c rfl
    exact lookup_step_of_drops hx

theorem lookup_run_eq_none (hnone : o.store.entries.lookup key = none)
    (h : ∀ x ∈ o.trace calls, ∀ routes, ¬ Puts key routes x) :
    (o.run calls).store.entries.lookup key = none := by
  refine run_of_forall (P := fun o => o.store.entries.lookup key = none) ?_ hnone
    (fun x hx => not_exists.mpr (h x hx))
  intro o c hc hnone
  exact lookup_step_eq_none hnone hc

theorem lookup_run_of_not_changes (h : ∀ x ∈ o.trace calls, ¬ Changes key x) :
    (o.run calls).store.entries.lookup key = o.store.entries.lookup key := by
  refine run_of_forall (P := fun o' => o'.store.entries.lookup key = o.store.entries.lookup key)
    ?_ rfl h
  intro o' c hc hsame
  exact (lookup_step_of_not_changes hc).trans hsame

end Run

/-- What a store gives for a key follows from the calls that were made. -/
structure FollowsCalls (o : OpenStore) (calls : List StoreCall) (key : String) : Prop where
  /-- The routes that were put last are given back, all of them as they were and in order. -/
  kept : ∀ x routes, Puts key routes x → Since (o.trace calls) x (Changes key) →
    (o.run calls).store.routes? key = some routes
  /-- Nothing is given after the key was dropped or all keys were, and nothing was put since. -/
  dropped : ∀ x, Drops key x → Since (o.trace calls) x (fun y => ∃ routes, Puts key routes y) →
    (o.run calls).store.routes? key = none
  /-- Nothing is given when there was nothing at first and nothing was put. -/
  empty : o.store.entries = [] → (∀ x ∈ o.trace calls, ∀ routes, ¬ Puts key routes x) →
    (o.run calls).store.routes? key = none
  /-- Calls about other keys change neither the routes nor the information. -/
  apart : (∀ x ∈ o.trace calls, ¬ Changes key x) →
    (o.run calls).store.routes? key = o.store.routes? key ∧
      ∀ now, (o.run calls).store.info key now = o.store.info key now

/-- **A store is a faithful map.** Take any store with any entries, and any calls about any roots,
    wherever they are made and whatever happens in between. For every key the store then gives the
    routes that were put there last, unless they were dropped since; after that it gives none, and none
    if it was empty and nothing was put. Calls about other keys do not matter. -/
theorem followsCalls (o : OpenStore) (calls : List StoreCall) (key : String) :
    o.FollowsCalls calls key where
  kept x routes hx h := by
    obtain ⟨now, hlookup⟩ := lookup_run_of_puts hx h
    rw [Store.routes?_eq, hlookup]
    exact Entry.routes?_ofRoutes routes now
  dropped x hx h := by
    rw [Store.routes?_eq, lookup_run_of_drops hx h]
    rfl
  empty hempty h := by
    rw [Store.routes?_eq, lookup_run_eq_none (by rw [hempty]; rfl) h]
    rfl
  apart h := by
    have hsame := lookup_run_of_not_changes h
    exact ⟨Store.routes?_congr hsame, Store.info_congr hsame⟩

/-- One project is named in three ways: from inside it, from the directory of another project, and by
    its place. Its second table, with truth values for lines, is kept although the other project is
    dropped later; a root that denotes no place does nothing. -/
theorem followsCalls_shop :
    let w : Workspace :=
      { tree := .dir [("shop", .dir []), ("bank", .dir [])]
        cwd := some ["shop"]
        home := ["home"]
        now := { year := 2024, month := 1, day := 1 } }
    let bank : Workspace := { w with cwd := some ["bank"] }
    let r : Route :=
      { verb := "GET", path := "/a", file := "/shop/A.java", line := .flag true, typeName := "A",
        implLine := some (.flag false) }
    let calls : List StoreCall :=
      [.put "." [], .meanwhile bank, .put "." [r], .put "../shop" [r, r], .remove ".",
       .put "~nobody/x" []]
    let store := ((OpenStore.mk w {}).run calls).store
    store.routes? "/shop" = some [r, r] ∧ store.routes? "/bank" = none ∧
      store.routes? "/home" = none := by
  intro w bank r calls store
  have hshop : w.keyOf? "." = some "/shop" := by decide +kernel
  have hbank : bank.keyOf? "." = some "/bank" := by decide +kernel
  have hup : bank.keyOf? "../shop" = some "/shop" := by decide +kernel
  have hnone : bank.keyOf? "~nobody/x" = none := by decide +kernel
  have htrace : (OpenStore.mk w {}).trace calls =
      [(w, .put "." []), (w, .meanwhile bank), (bank, .put "." [r]), (bank, .put "../shop" [r, r]),
       (bank, .remove "."), (bank, .put "~nobody/x" [])] := by
    have hstays : { bank with platform := w.platform } = bank := rfl
    simp [calls, trace, step, hstays]
  have h := followsCalls (OpenStore.mk w {}) calls
  refine ⟨?_, ?_, ?_⟩
  · refine (h "/shop").kept (bank, .put "../shop" [r, r]) [r, r] ⟨_, rfl, hup⟩
      ⟨[(w, .put "." []), (w, .meanwhile bank), (bank, .put "." [r])], _, htrace, ?_⟩
    simp [Changes, Drops, Puts, hbank, hnone]
  · refine (h "/bank").dropped (bank, .remove ".") (.inr ⟨_, rfl, hbank⟩)
      ⟨[(w, .put "." []), (w, .meanwhile bank), (bank, .put "." [r]), (bank, .put "../shop" [r, r])],
        _, htrace, ?_⟩
    simp [Puts, hnone]
  · refine (h "/home").empty rfl ?_
    rw [htrace]
    simp [Puts, hshop, hbank, hup, hnone]

end OpenStore

end SpringRoutes
