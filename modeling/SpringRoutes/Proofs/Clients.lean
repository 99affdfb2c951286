import SpringRoutes.Proofs.Entries
import SpringRoutes.Table.Client

/-!
# `SpringRoutes.Proofs.Clients` — client routes are added first come, first served

Resolving clients walks over their candidates and keeps a growing table. The result has a plain
description: the table as it was, followed by the **first candidate of every path that the table
does not have**.

* `interfaceNamed?` is the interface of a name without an index: the first one in the order of the
  sources (`contract?_interfaceIndex`);
* `candidates` lists what clients offer, client by client, and `clientCandidates_eq` shows that it
  is what resolving walks over;
* `firstNew` is the part that is added; its lemmas say which candidates it holds, and
  `addNew_eq_append` that adding appends it;
* `resolveClients_first_wins` puts these together.
-/

namespace SpringRoutes

/-! ## The interface that a name stands for -/

/-- The first interface with a name. -/
def interfaceNamed? (os : List Outline) (name : String) : Option Outline :=
  os.find? fun o => o.isInterface && o.isNamed && decide (o.name = name)

theorem lookup_interfaceIndex (os : List Outline) (n : String) :
    (interfaceIndex os).lookup n = interfaceNamed? os n := by
  unfold interfaceNamed?
  induction os with
  | nil => rfl
  | cons o os ih =>
    unfold interfaceIndex
    by_cases hi : (o.isInterface && o.isNamed) = true
    · rw [if_pos hi, List.lookup_cons]
      by_cases hn : o.name = n
      · rw [List.find?_cons_of_pos (by simp [hi, hn])]
        simp [hn]
      · -- an entry in front drops only later entries of its own name
        have hne : (n == o.name) = false := by simp [Ne.symm hn]
        rw [hne, List.find?_cons_of_neg (by simp [hn]), Entries.lookup_drop_of_ne (Ne.symm hn)]
        exact ih
    · rw [if_neg hi, List.find?_cons_of_neg (by simp [hi])]
      exact ih

theorem contract?_interfaceIndex (os : List Outline) (name : Option String) :
    contract? (interfaceIndex os) name = name.bind (interfaceNamed? os) := by
  unfold contract?
  simp only [lookup_interfaceIndex]

theorem interfaceNamed?_eq_some {os : List Outline} {n : String} {o : Outline}
    (h : interfaceNamed? os n = some o) :
    o ∈ os ∧ o.isInterface = true ∧ o.isNamed = true ∧ o.name = n := by
  have hp := List.find?_some h
  simp only [Bool.and_eq_true, decide_eq_true_eq] at hp
  exact ⟨List.mem_of_find?_eq_some h, hp.1.1, hp.1.2, hp.2⟩

/-! ## What clients offer -/

/-- The route that a client sees through a method of `declaring`. -/
def clientRoute (client declaring : Outline) (base : Option String) (m : Method) : Route where
  verb := Verb.normalize (m.mapping.map (·.verb))
  path := RoutePath.join base (m.mapping.map (·.path))
  file := declaring.path
  line := .number m.line
  typeName := client.name ++ clientSuffix
  methodName := some m.name
  clientName := client.client.bind (·.name)

/-- The methods with a routing annotation. -/
def Outline.routed (o : Outline) : List Method :=
  o.methods.filter (·.mapping.isSome)

/-- The base path for the methods of the interface that a client extends. -/
def inheritedBase (client interface : Outline) : Option String :=
  if RoutePath.normalize client.clientPath = "" then interface.basePath else client.clientPath

/-- What clients offer, in the order of the sources: for each client the routed methods of the
    interface that it extends, then, if its type has a routing annotation, its own. -/
def candidates (sources : List (Option Outline)) : List Route :=
  ((named sources).filter (·.client.isSome)).flatMap fun client =>
    ((client.extended.bind (interfaceNamed? (named sources))).toList.flatMap fun interface =>
      interface.routed.map (clientRoute client interface (inheritedBase client interface)))
    ++ (client.basePath.toList.flatMap fun path =>
      client.routed.map (clientRoute client client (client.clientPath.or (some path))))

/-- What is made of the methods with a routing annotation, in their order. -/
theorem filterMap_mapping {make : Method → Mapping → Route} {route : Method → Route}
    (h : ∀ m a, m.mapping = some a → make m a = route m) (ms : List Method) :
    ms.filterMap (fun m => m.mapping.map (make m)) = (ms.filter (·.mapping.isSome)).map route := by
  induction ms with
  | nil => rfl
  | cons m ms ih =>
    rw [List.filterMap_cons]
    cases hm : m.mapping with
    | none =>
      rw [List.filter_cons_of_neg (by simp [hm])]
      exact ih
    | some a =>
      rw [List.filter_cons_of_pos (by simp [hm]), List.map_cons, ← ih, ← h m a hm]
      rfl

theorem routesThrough_eq (client declaring : Outline) (base : Option String) :
    routesThrough client declaring base
      = declaring.routed.map (clientRoute client declaring base) := by
  refine filterMap_mapping ?_ declaring.methods
  intro m a hm
  rw [clientRoute, hm]
  rfl

theorem clientCandidates_eq (sources : List (Option Outline)) :
    clientCandidates sources = candidates sources := by
  show ((named sources).filter (·.client.isSome)).flatMap
      (clientRoutes (interfaceIndex (named sources))) = _
  unfold candidates
  congr 1
  funext client
  unfold clientRoutes extendedRoutes annotatedRoutes
  rw [contract?_interfaceIndex]
  congr 1
  · cases client.extended.bind (interfaceNamed? (named sources)) with
    | none => rfl
    | some interface => simp [routesThrough_eq, inheritedBase]
  · cases client.basePath with
    | none => rfl
    | some path => simp [routesThrough_eq]

/-! ## The first candidate of every new path -/

/-- The first candidate of every path that is not taken. -/
def firstNew (taken : List String) : List Route → List Route
  | [] => []
  | c :: cs =>
    if c.path ∈ taken then firstNew taken cs else c :: firstNew (taken ++ [c.path]) cs

/-- **Adding appends the first new candidates.** The taken paths are those of the growing table. -/
theorem addNew_eq_append (table cs : List Route) :
    addNew table cs = table ++ firstNew (table.map (·.path)) cs := by
  induction cs generalizing table with
  | nil => simp [addNew, firstNew]
  | cons c cs ih =>
    have htaken : (table.any fun r => decide (r.path = c.path)) = true
        ↔ c.path ∈ table.map (·.path) := by
      simp [List.any_eq_true]
    unfold addNew firstNew
    by_cases hc : c.path ∈ table.map (·.path)
    · rw [if_pos hc, if_pos (htaken.mpr hc), ih]
    · rw [if_neg hc, if_neg (mt htaken.mp hc), ih, List.map_append, List.append_assoc]
      rfl

theorem firstNew_sublist (taken : List String) (cs : List Route) :
    (firstNew taken cs).Sublist cs := by
  induction cs generalizing taken with
  | nil => exact List.Sublist.slnil
  | cons c cs ih =>
    unfold firstNew
    split
    · exact (ih taken).cons c
    · exact (ih _).cons_cons c

theorem firstNew_fresh {taken : List String} {cs : List Route} {r : Route}
    (h : r ∈ firstNew taken cs) : r.path ∉ taken := by
  induction cs generalizing taken with
  | nil => cases h
  | cons c cs ih =>
    unfold firstNew at h
    split at h
    · exact ih h
    · next hc =>
      rcases List.mem_cons.mp h with rfl | hr
      · exact hc
      · intro hmem
        exact ih hr (List.mem_append_left _ hmem)

theorem firstNew_nodup (taken : List String) (cs : List Route) :
    ((firstNew taken cs).map (·.path)).Nodup := by
  induction cs generalizing taken with
  | nil => exact List.nodup_nil
  | cons c cs ih =>
    unfold firstNew
    split
    · exact ih taken
    · rw [List.map_cons, List.nodup_cons]
      refine ⟨?_, ih _⟩
      intro hmem
      obtain ⟨r, hr, hpath⟩ := List.mem_map.mp hmem
      refine firstNew_fresh hr ?_
      rw [hpath]
      exact List.mem_append_right _ (List.mem_singleton.mpr rfl)

theorem mem_paths_firstNew {taken : List String} {cs : List Route} {p : String} :
    p ∈ (firstNew taken cs).map (·.path) ↔ p ∈ cs.map (·.path) ∧ p ∉ taken := by
  induction cs generalizing taken with
  | nil => simp [firstNew]
  | cons c cs ih =>
    unfold firstNew
    split
    · next hc =>
      rw [ih, List.map_cons, List.mem_cons]
      constructor
      · rintro ⟨hp, ht⟩
        exact ⟨Or.inr hp, ht⟩
      · rintro ⟨rfl | hp, ht⟩
        · exact absurd hc ht
        · exact ⟨hp, ht⟩
    · next hc =>
      rw [List.map_cons, List.map_cons, List.mem_cons, List.mem_cons, ih, List.mem_append,
        List.mem_singleton]
      by_cases hp : p = c.path
      · subst hp
        simp [hc]
      · simp [hp]

theorem find?_of_mem_firstNew {taken : List String} {cs : List Route} {r : Route}
    (h : r ∈ firstNew taken cs) : cs.find? (fun c => decide (c.path = r.path)) = some r := by
  induction cs generalizing taken with
  | nil => cases h
  | cons c cs ih =>
    have hfresh := firstNew_fresh h
    unfold firstNew at h
    split at h
    · next hc =>
      -- the path of `c` is taken and that of `r` is not
      have hne : c.path ≠ r.path := fun heq => hfresh (heq ▸ hc)
      rw [List.find?_cons_of_neg (by simp [hne]), ih h]
    · rcases List.mem_cons.mp h with rfl | hr
      · rw [List.find?_cons_of_pos (by simp)]
      · have hne : c.path ≠ r.path := by
          intro heq
          refine firstNew_fresh hr ?_
          rw [← heq]
          exact List.mem_append_right _ (List.mem_singleton.mpr rfl)
        rw [List.find?_cons_of_neg (by simp [hne]), ih hr]

/-- Nothing is new once every path is taken. -/
theorem firstNew_eq_nil {taken : List String} {cs : List Route}
    (h : ∀ p ∈ cs.map (·.path), p ∈ taken) : firstNew taken cs = [] := by
  refine List.eq_nil_iff_forall_not_mem.mpr ?_
  intro r hr
  exact firstNew_fresh hr (h r.path (List.mem_map.mpr ⟨r, (firstNew_sublist _ _).subset hr, rfl⟩))

theorem addNew_idem (table cs : List Route) : addNew (addNew table cs) cs = addNew table cs := by
  rw [addNew_eq_append (addNew table cs)]
  rw [firstNew_eq_nil, List.append_nil]
  -- a candidate's path was in the table, or has been added
  intro p hp
  rw [addNew_eq_append, List.map_append, List.mem_append, mem_paths_firstNew]
  by_cases ht : p ∈ table.map (·.path)
  · exact Or.inl ht
  · exact Or.inr ⟨hp, ht⟩

theorem resolveClients_eq_append (sources : List (Option Outline)) (table : List Route) :
    resolveClients sources table
      = table ++ firstNew (table.map (·.path)) (candidates sources) := by
  unfold resolveClients
  rw [clientCandidates_eq, addNew_eq_append]

/-- **Client resolution is first-wins.** The table stays in front. What follows it has every
    candidate path that the table lacks exactly once, in the order of the candidates and each time
    with the first candidate of that path; doing it again adds nothing. -/
theorem resolveClients_first_wins (sources : List (Option Outline)) (table : List Route) :
    (∃ new : List Route,
      resolveClients sources table = table ++ new
        ∧ (new.map (·.path)).Nodup
        ∧ (∀ p ∈ new.map (·.path), p ∉ table.map (·.path))
        ∧ (∀ p, p ∈ new.map (·.path) ↔
            p ∈ (candidates sources).map (·.path) ∧ p ∉ table.map (·.path))
        ∧ new.Sublist (candidates sources)
        ∧ ∀ r ∈ new, (candidates sources).find? (fun c => decide (c.path = r.path)) = some r)
      ∧ resolveClients sources (resolveClients sources table) = resolveClients sources table := by
  refine ⟨⟨firstNew (table.map (·.path)) (candidates sources), ?_⟩, ?_⟩
  · refine ⟨resolveClients_eq_append sources table, firstNew_nodup _ _, ?_,
      fun p => mem_paths_firstNew, firstNew_sublist _ _, fun r hr => find?_of_mem_firstNew hr⟩
    intro p hp
    exact (mem_paths_firstNew.mp hp).2
  · exact addNew_idem table (clientCandidates sources)

end SpringRoutes
