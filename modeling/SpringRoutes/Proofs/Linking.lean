import SpringRoutes.Proofs.Clients

/-!
# `SpringRoutes.Proofs.Linking` — the routes of controllers, one by one

Linking finds interfaces through an index and emits routes controller by controller. `link_eq` says
what it emits without the index, and `link_eq_origins` says it route by route: every linked route has
an `Origin`, which is the position of its controller among the sources, whether the route is the
controller's own or comes from its interface, and the position of its method among those that give
such routes. All origins that there are occur, each once, and in order.
-/

namespace SpringRoutes

/-! ## Routes of one method -/

/-- The interface that a controller implements, if it is among the sources. -/
def contractOf? (sources : List (Option Outline)) (controller : Outline) : Option Outline :=
  controller.implemented.bind (interfaceNamed? (named sources))

/-- The methods whose routes a controller declares itself. -/
def Outline.direct (o : Outline) : List Method :=
  (o.methods.filter fun m => !m.isOverride).filter (·.mapping.isSome)

/-- The route that a controller inherits through a method of an interface. -/
def inheritedRoute (controller interface : Outline) (m : Method) : Route where
  verb := Verb.normalize (m.mapping.map (·.verb))
  path := RoutePath.join interface.basePath (m.mapping.map (·.path))
  file := interface.path
  line := .number m.line
  typeName := interface.name
  methodName := some m.name
  implFile := some controller.path
  implLine := some (.number (controller.lineOf m.name))
  implType := controller.typeName

/-- The route that a controller declares with one of its methods. -/
def ownRoute (controller : Outline) (interface : Option Outline) (m : Method) : Route where
  verb := Verb.normalize (m.mapping.map (·.verb))
  path := RoutePath.join (controller.basePath.or (interface.bind (·.basePath)))
    (m.mapping.map (·.path))
  file := controller.path
  line := .number m.line
  typeName := controller.name
  methodName := some m.name

theorem inheritedRoutes_eq (controller interface : Outline) :
    inheritedRoutes controller interface
      = interface.routed.map (inheritedRoute controller interface) := by
  refine filterMap_mapping ?_ interface.methods
  intro m a hm
  rw [inheritedRoute, hm]
  rfl

theorem filterMap_direct (make : Method → Option Route) (ms : List Method) :
    (ms.filterMap fun m => if m.isOverride then none else make m)
      = (ms.filter fun m => !m.isOverride).filterMap make := by
  rw [List.filterMap_filter]
  congr 1
  funext m
  cases m.isOverride <;> rfl

theorem ownRoutes_eq (controller : Outline) (interface : Option Outline) :
    ownRoutes controller interface = controller.direct.map (ownRoute controller interface) := by
  unfold ownRoutes
  dsimp only
  rw [filterMap_direct]
  refine filterMap_mapping ?_ _
  intro m a hm
  rw [ownRoute, hm]
  rfl

/-! ## Linking without an index -/

/-- The routes of a controller, those of its interface first. -/
def linkedRoutes (sources : List (Option Outline)) (controller : Outline) : List Route :=
  ((contractOf? sources controller).toList.flatMap fun interface =>
    interface.routed.map (inheritedRoute controller interface))
  ++ controller.direct.map (ownRoute controller (contractOf? sources controller))

theorem link_eq (sources : List (Option Outline)) :
    link sources
      = ((named sources).filter (·.isEntryPoint)).flatMap (linkedRoutes sources) := by
  show ((named sources).filter (·.isEntryPoint)).flatMap
      (controllerRoutes (interfaceIndex (named sources))) = _
  congr 1
  funext controller
  unfold controllerRoutes linkedRoutes contractOf?
  dsimp only
  rw [contract?_interfaceIndex, ownRoutes_eq]
  congr 1
  cases controller.implemented.bind (interfaceNamed? (named sources)) with
  | none => rfl
  | some interface => simp [inheritedRoutes_eq]

/-! ## Origins -/

/-- Where a linked route comes from. -/
structure Origin where
  /-- The position of the controller among the sources. -/
  source : Nat
  /-- Whether the controller declares the route itself. -/
  isOwn : Bool
  /-- The position of the method among those that give such routes. -/
  method : Nat
  deriving Repr, DecidableEq

/-- The order of linking: by controller, inherited routes before own ones, by method. -/
def Origin.Before (a b : Origin) : Prop :=
  a.source < b.source ∨ a.source = b.source ∧
    (a.isOwn = false ∧ b.isOwn = true ∨ a.isOwn = b.isOwn ∧ a.method < b.method)

/-- The controller at a position of the sources. -/
def controllerAt? (sources : List (Option Outline)) (k : Nat) : Option Outline :=
  sources[k]?.join.filter fun o => o.isNamed && o.isEntryPoint

/-- The routes that the controller at a position inherits. -/
def inheritedAt (sources : List (Option Outline)) (k : Nat) : List Route :=
  (controllerAt? sources k).toList.flatMap fun controller =>
    (contractOf? sources controller).toList.flatMap fun interface =>
      interface.routed.map (inheritedRoute controller interface)

/-- The routes that the controller at a position declares itself. -/
def ownAt (sources : List (Option Outline)) (k : Nat) : List Route :=
  (controllerAt? sources k).toList.flatMap fun controller =>
    controller.direct.map (ownRoute controller (contractOf? sources controller))

/-- The route of an origin. -/
def routeAt? (sources : List (Option Outline)) (a : Origin) : Option Route :=
  if a.isOwn then (ownAt sources a.source)[a.method]? else (inheritedAt sources a.source)[a.method]?

/-- The origins at a position. -/
def originsAt (sources : List (Option Outline)) (k : Nat) : List Origin :=
  (List.range (inheritedAt sources k).length).map (⟨k, false, ·⟩)
    ++ (List.range (ownAt sources k).length).map (⟨k, true, ·⟩)

/-- All origins. -/
def origins (sources : List (Option Outline)) : List Origin :=
  (List.range sources.length).flatMap (originsAt sources)

theorem source_of_mem_originsAt {sources : List (Option Outline)} {k : Nat} {a : Origin}
    (h : a ∈ originsAt sources k) : a.source = k := by
  rcases List.mem_append.mp h with h | h
  · obtain ⟨_, _, rfl⟩ := List.mem_map.mp h
    rfl
  · obtain ⟨_, _, rfl⟩ := List.mem_map.mp h
    rfl

theorem originsAt_ordered (sources : List (Option Outline)) (k : Nat) :
    (originsAt sources k).Pairwise Origin.Before := by
  have hkind : ∀ own n, ((List.range n).map (⟨k, own, ·⟩ : Nat → Origin)).Pairwise Origin.Before := by
    intro own n
    rw [List.pairwise_map]
    exact List.pairwise_lt_range.imp fun hlt => .inr ⟨rfl, .inr ⟨rfl, hlt⟩⟩
  refine List.pairwise_append.mpr ⟨hkind .., hkind .., ?_⟩
  intro a ha b hb
  obtain ⟨_, _, rfl⟩ := List.mem_map.mp ha
  obtain ⟨_, _, rfl⟩ := List.mem_map.mp hb
  exact .inr ⟨rfl, .inl ⟨rfl, rfl⟩⟩

theorem origins_ordered (sources : List (Option Outline)) :
    (origins sources).Pairwise Origin.Before := by
  refine List.pairwise_flatMap.mpr ⟨fun k _ => originsAt_ordered sources k, ?_⟩
  refine List.pairwise_lt_range.imp fun hlt a ha b hb => ?_
  rw [← source_of_mem_originsAt ha, ← source_of_mem_originsAt hb] at hlt
  exact .inl hlt

/-- Beyond the sources there are no controllers, and so no routes. -/
theorem lt_length_of_routeAt? {sources : List (Option Outline)} {a : Origin}
    (h : (routeAt? sources a).isSome = true) : a.source < sources.length := by
  rcases Nat.lt_or_ge a.source sources.length with hlt | hge
  · exact hlt
  · have hnone : controllerAt? sources a.source = none := by
      unfold controllerAt?
      rw [List.getElem?_eq_none hge]
      rfl
    simp [routeAt?, inheritedAt, ownAt, hnone] at h

theorem mem_origins {sources : List (Option Outline)} {a : Origin} :
    a ∈ origins sources ↔ (routeAt? sources a).isSome = true := by
  have hat : a ∈ originsAt sources a.source ↔ (routeAt? sources a).isSome = true := by
    obtain ⟨k, own, j⟩ := a
    cases own <;> simp [originsAt, routeAt?]
  constructor
  · intro h
    obtain ⟨k, _, ha⟩ := List.mem_flatMap.mp h
    obtain rfl := source_of_mem_originsAt ha
    exact hat.mp ha
  · intro h
    exact List.mem_flatMap.mpr
      ⟨a.source, List.mem_range.mpr (lt_length_of_routeAt? h), hat.mpr h⟩

/-! ## Linking by origins -/

theorem map_getElem?_range {α : Type} (l : List α) :
    (List.range l.length).map (fun j => l[j]?) = l.map some := by
  refine List.ext_getElem? fun j => ?_
  rw [List.getElem?_map, List.getElem?_map]
  rcases Nat.lt_or_ge j l.length with hlt | hge
  · rw [List.getElem?_range hlt]
    simp [hlt]
  · rw [List.getElem?_eq_none hge, List.getElem?_eq_none (by simpa using hge)]
    rfl

theorem flatMap_getElem?_range {α β : Type} (l : List α) (f : Option α → List β) :
    (List.range l.length).flatMap (fun j => f l[j]?) = l.flatMap fun a => f (some a) := by
  rw [← List.flatMap_map (fun j => l[j]?) f, map_getElem?_range, List.flatMap_map]

theorem map_routeAt?_originsAt (sources : List (Option Outline)) (k : Nat) :
    (originsAt sources k).map (routeAt? sources)
      = (inheritedAt sources k ++ ownAt sources k).map some := by
  rw [originsAt, List.map_append, List.map_map, List.map_map, List.map_append,
    ← map_getElem?_range, ← map_getElem?_range]
  rfl

/-- What is made of the named outlines with a property, source by source. -/
theorem flatMap_named (sources : List (Option Outline)) (p : Outline → Bool)
    (make : Outline → List Route) :
    ((named sources).filter p).flatMap make
      = sources.flatMap fun o => (o.filter fun o => o.isNamed && p o).toList.flatMap make := by
  induction sources with
  | nil => rfl
  | cons o sources ih =>
    rw [List.flatMap_cons, ← ih]
    cases o with
    | none => rfl
    | some o =>
      unfold named
      rw [List.filterMap_cons]
      by_cases hn : o.isNamed = true
      · by_cases hp : p o = true
        · simp [Option.filter_some, hn, hp]
        · simp [Option.filter_some, hn, hp]
      · simp [Option.filter_some, hn]

/-- **Linking emits the routes of all origins in order.** -/
theorem link_eq_origins (sources : List (Option Outline)) :
    (link sources).map some = (origins sources).map (routeAt? sources) := by
  have hat : ∀ k, inheritedAt sources k ++ ownAt sources k
      = (controllerAt? sources k).toList.flatMap (linkedRoutes sources) := by
    intro k
    unfold inheritedAt ownAt
    cases controllerAt? sources k with
    | none => rfl
    | some controller => simp [linkedRoutes]
  rw [origins, List.map_flatMap]
  simp only [map_routeAt?_originsAt, hat]
  rw [← List.map_flatMap, link_eq, flatMap_named]
  congr 1
  exact (flatMap_getElem?_range sources fun o =>
    (o.join.filter fun o => o.isNamed && o.isEntryPoint).toList.flatMap (linkedRoutes sources)).symm

end SpringRoutes
