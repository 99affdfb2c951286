import SpringRoutes.Proofs.Clients
import SpringRoutes.Proofs.Methods

/-!
# `SpringRoutes.Proofs.Navigation` — every route points into the sources

A route is shown to people who follow it: to the line that declares it, and to the method that
implements it. `Navigable` says what they find there, and `routeTable_navigable` that every route of
every table can be followed. The proof goes through the three passes backwards: a route is one of a
client or of a controller, it was made from a method of some outline, and that method was read off a
line (`nameAt?_of_mem_methods`).
-/

namespace SpringRoutes

open Text

/-! ## Sources -/

/-- A source file. -/
structure Source where
  path : String
  text : String

/-- The outline of a source. -/
def Source.outline (s : Source) : Outline :=
  Outline.ofText s.path s.text

/-- The outlines of sources; none is missing. -/
def outlinesOf (sources : List Source) : List (Option Outline) :=
  sources.map fun s => some s.outline

/-- The first source that declares an interface with a name. -/
def declaring? (sources : List Source) (name : String) : Option Source :=
  sources.find? fun s =>
    decide (s.outline.kind = .ofInterface ∧ s.outline.typeName = some name)

/-! ## What a route leads to -/

/-- The line of the route exists in `s`, is neither blank nor a comment, and names the method. -/
def PointsInto (s : Source) (r : Route) : Prop :=
  ∃ (n : Nat) (line : List Char) (name : String),
    r.line = .number n ∧ 1 ≤ n ∧ n ≤ lineCount s.text ∧ lineAt? s.text n = some line
      ∧ line ≠ [] ∧ (∀ mark ∈ commentMarks, ¬ mark <+: line)
      ∧ methodName? line = some name ∧ r.methodName = some name

/-- The route is one of the interface that `s` declares, and is implemented in `file`: by the entry
    point there that implements the interface, on the line of its first method of that name, or on
    the first line when it has none. -/
def ImplementedIn (sources : List Source) (s : Source) (r : Route) (file : String) : Prop :=
  declaring? sources r.typeName = some s
    ∧ ∃ c ∈ sources, c.path = file
      ∧ c.outline.isEntryPoint = true
      ∧ (∃ type, c.outline.typeName = some type ∧ r.implType = some type)
      ∧ c.outline.implemented = some r.typeName
      ∧ ((∃ m, c.outline.methods.find? (fun m => decide (some m.name = r.methodName)) = some m
            ∧ r.implLine = some (.number m.line))
          ∨ (∀ m ∈ c.outline.methods, some m.name ≠ r.methodName)
            ∧ r.implLine = some (.number 1))

/-- The route is one that a client sees in `s`: in its own source, or in that of the interface that
    it extends. -/
def SeenByClient (sources : List Source) (s : Source) (r : Route) : Prop :=
  ∃ c ∈ sources, ∃ client type,
    c.outline.client = some client
      ∧ c.outline.typeName = some type ∧ r.typeName = type ++ " [Feign]"
      ∧ r.clientName = client.name
      ∧ (s = c ∨ ∃ extended, c.outline.extended = some extended
          ∧ declaring? sources extended = some s)

/-- Whoever follows a route of the table of `sources` finds what it promises. -/
def Navigable (sources : List Source) (r : Route) : Prop :=
  ∃ s ∈ sources, s.path = r.file
    ∧ PointsInto s r
    ∧ (∀ file, r.implFile = some file → ImplementedIn sources s r file)
    ∧ (r ∈ (routeTable (outlinesOf sources)).drop (link (outlinesOf sources)).length →
        SeenByClient sources s r)

/-! ## Outlines and their sources -/

theorem named_outlinesOf (sources : List Source) :
    named (outlinesOf sources) = (sources.map Source.outline).filter (·.isNamed) := by
  have hsome : (id : Option Outline → _) ∘ (fun s : Source => some s.outline)
      = some ∘ Source.outline := rfl
  rw [named, outlinesOf, List.filterMap_map, hsome, List.filterMap_eq_map]

theorem mem_named_outlinesOf {sources : List Source} {o : Outline}
    (h : o ∈ named (outlinesOf sources)) : ∃ s ∈ sources, s.outline = o ∧ o.isNamed = true := by
  rw [named_outlinesOf, List.mem_filter, List.mem_map] at h
  obtain ⟨⟨s, hs, ho⟩, hn⟩ := h
  exact ⟨s, hs, ho, hn⟩

theorem typeName_of_isNamed {o : Outline} (h : o.isNamed = true) : o.typeName = some o.name := by
  unfold Outline.isNamed Outline.name at h
  unfold Outline.name
  cases ht : o.typeName with
  | none => simp [ht] at h
  | some t => rfl

theorem isNamed_of_typeName {o : Outline} {n : String} (hn : n ≠ "") :
    (o.isNamed = true ∧ o.name = n) ↔ o.typeName = some n := by
  constructor
  · rintro ⟨hnamed, rfl⟩
    exact typeName_of_isNamed hnamed
  · intro ht
    simp [Outline.isNamed, Outline.name, ht, hn]

/-- The interface of a name is the outline of the first source that declares it. -/
theorem declaring?_of_interfaceNamed? {sources : List Source} {n : String} {o : Outline}
    (h : interfaceNamed? (named (outlinesOf sources)) n = some o) :
    ∃ s, declaring? sources n = some s ∧ s.outline = o := by
  obtain ⟨_, _, hnamed, rfl⟩ := interfaceNamed?_eq_some h
  have hne : o.name ≠ "" := by simpa [Outline.isNamed] using hnamed
  unfold interfaceNamed? at h
  rw [named_outlinesOf, List.find?_filter, List.find?_map, Option.map_eq_some_iff] at h
  obtain ⟨s, hs, ho⟩ := h
  refine ⟨s, ?_, ho⟩
  -- the name is not empty, so whoever declares it is named
  rw [← hs]
  unfold declaring?
  congr 1
  funext x
  have hiff := isNamed_of_typeName (o := x.outline) hne
  rw [Bool.eq_iff_iff]
  simp only [Function.comp_apply, Bool.and_eq_true, decide_eq_true_eq, Outline.isInterface]
  rw [← hiff]
  grind

/-! ## Where routes come from -/

theorem mem_link {os : List (Option Outline)} {r : Route} (h : r ∈ link os) :
    ∃ c ∈ named os, c.isEntryPoint = true
      ∧ ((∃ i, c.implemented.bind (interfaceNamed? (named os)) = some i ∧ r ∈ inheritedRoutes c i)
        ∨ ∃ i, r ∈ ownRoutes c i) := by
  obtain ⟨c, hc, hr⟩ := List.mem_flatMap.mp h
  rw [List.mem_filter] at hc
  refine ⟨c, hc.1, hc.2, ?_⟩
  unfold controllerRoutes at hr
  rw [contract?_interfaceIndex] at hr
  rcases List.mem_append.mp hr with hinh | hown
  · cases hi : c.implemented.bind (interfaceNamed? (named os)) with
    | none => simp [hi] at hinh
    | some i =>
      rw [hi] at hinh
      exact Or.inl ⟨i, rfl, hinh⟩
  · exact Or.inr ⟨_, hown⟩

theorem mem_inheritedRoutes {c i : Outline} {r : Route} (h : r ∈ inheritedRoutes c i) :
    ∃ m ∈ i.methods, r.line = .number m.line ∧ r.methodName = some m.name
      ∧ r.file = i.path ∧ r.typeName = i.name ∧ r.implFile = some c.path
      ∧ r.implLine = some (.number (c.lineOf m.name)) ∧ r.implType = c.typeName := by
  obtain ⟨m, hm, hr⟩ := List.mem_filterMap.mp h
  obtain ⟨a, _, rfl⟩ := Option.map_eq_some_iff.mp hr
  exact ⟨m, hm, rfl, rfl, rfl, rfl, rfl, rfl, rfl⟩

theorem mem_ownRoutes {c : Outline} {i : Option Outline} {r : Route} (h : r ∈ ownRoutes c i) :
    ∃ m ∈ c.methods, r.line = .number m.line ∧ r.methodName = some m.name
      ∧ r.file = c.path ∧ r.implFile = none ∧ r.implLine = none := by
  obtain ⟨m, hm, hr⟩ := List.mem_filterMap.mp h
  split at hr
  · cases hr
  · obtain ⟨a, _, rfl⟩ := Option.map_eq_some_iff.mp hr
    exact ⟨m, hm, rfl, rfl, rfl, rfl, rfl⟩

theorem mem_routed_map {client declaring : Outline} {base : Option String} {r : Route}
    (h : r ∈ declaring.routed.map (clientRoute client declaring base)) :
    ∃ m ∈ declaring.methods, r.line = .number m.line ∧ r.methodName = some m.name
      ∧ r.file = declaring.path ∧ r.implFile = none ∧ r.implLine = none
      ∧ r.typeName = client.name ++ clientSuffix ∧ r.clientName = client.client.bind (·.name) := by
  obtain ⟨m, hm, rfl⟩ := List.mem_map.mp h
  exact ⟨m, (List.mem_filter.mp hm).1, rfl, rfl, rfl, rfl, rfl, rfl, rfl⟩

theorem mem_candidates {os : List (Option Outline)} {r : Route} (h : r ∈ candidates os) :
    ∃ c ∈ named os, c.client.isSome = true ∧ ∃ d base,
      (d = c ∨ c.extended.bind (interfaceNamed? (named os)) = some d)
        ∧ r ∈ d.routed.map (clientRoute c d base) := by
  obtain ⟨c, hc, hr⟩ := List.mem_flatMap.mp h
  rw [List.mem_filter] at hc
  refine ⟨c, hc.1, hc.2, ?_⟩
  rcases List.mem_append.mp hr with hext | hown
  · obtain ⟨i, hi, hr⟩ := List.mem_flatMap.mp hext
    exact ⟨i, _, Or.inr (Option.mem_toList.mp hi), hr⟩
  · obtain ⟨path, _, hr⟩ := List.mem_flatMap.mp hown
    exact ⟨c, _, Or.inl rfl, hr⟩

/-! ## Following a route -/

/-- A method of an outline points into its source. -/
theorem pointsInto_of_mem {s : Source} {m : Method} {r : Route} (hm : m ∈ s.outline.methods)
    (hline : r.line = .number m.line) (hname : r.methodName = some m.name) : PointsInto s r := by
  have hat := nameAt?_of_mem_methods hm
  unfold nameAt? at hat
  obtain ⟨line, hsig, hmethod⟩ := Option.bind_eq_some_iff.mp hat
  obtain ⟨hat, hne, hmarks⟩ := significantAt?_eq_some_iff.mp hsig
  obtain ⟨hlo, hhi⟩ := lineAt?_bounds hat
  exact ⟨m.line, line, m.name, hline, hlo, hhi, hat, hne, hmarks, hmethod, hname⟩

theorem lineOf_cases (o : Outline) (name : String) :
    (∃ m, o.methods.find? (fun m => decide (some m.name = some name)) = some m
        ∧ o.lineOf name = m.line)
      ∨ (∀ m ∈ o.methods, some m.name ≠ some name) ∧ o.lineOf name = 1 := by
  unfold Outline.lineOf
  simp only [Option.some.injEq]
  cases hf : o.methods.find? fun m => decide (m.name = name) with
  | some m => exact Or.inl ⟨m, rfl, rfl⟩
  | none =>
    refine Or.inr ⟨?_, rfl⟩
    intro m hm
    simpa using List.find?_eq_none.mp hf m hm

theorem implementedIn_of_mem {sources : List Source} {c s : Source} {r : Route} {m : Method}
    (hc : c ∈ sources) (hnamed : c.outline.isNamed = true)
    (hentry : c.outline.isEntryPoint = true)
    (himpl : c.outline.implemented = some r.typeName)
    (hs : declaring? sources r.typeName = some s) (hname : r.methodName = some m.name)
    (hline : r.implLine = some (.number (c.outline.lineOf m.name)))
    (htype : r.implType = c.outline.typeName) : ImplementedIn sources s r c.path := by
  refine ⟨hs, c, hc, rfl, hentry, ⟨c.outline.name, typeName_of_isNamed hnamed, ?_⟩, himpl, ?_⟩
  · rw [htype, typeName_of_isNamed hnamed]
  · rw [hname, hline]
    rcases lineOf_cases c.outline m.name with ⟨m', hfind, heq⟩ | ⟨hnone, heq⟩
    · exact Or.inl ⟨m', hfind, by rw [heq]⟩
    · exact Or.inr ⟨hnone, by rw [heq]; rfl⟩

theorem path_outline (s : Source) : s.outline.path = s.path := rfl

/-- A linked route points at its interface, with its implementation, or at its controller. -/
theorem exists_source_of_mem_link {sources : List Source} {r : Route}
    (h : r ∈ link (outlinesOf sources)) :
    ∃ s ∈ sources, s.path = r.file ∧ PointsInto s r
      ∧ ∀ file, r.implFile = some file → ImplementedIn sources s r file := by
  obtain ⟨o, ho, hentry, hr⟩ := mem_link h
  obtain ⟨c, hc, rfl, hnamed⟩ := mem_named_outlinesOf ho
  rcases hr with ⟨i, hi, hinh⟩ | ⟨i, hown⟩
  · obtain ⟨name, himpl, hi⟩ := Option.bind_eq_some_iff.mp hi
    obtain ⟨m, hm, hline, hname, hfile, htype, hifile, hiline, hitype⟩ := mem_inheritedRoutes hinh
    -- the name that the controller implements is the declared name of the interface
    rw [← (interfaceNamed?_eq_some hi).2.2.2] at himpl hi
    obtain ⟨s, hs, rfl⟩ := declaring?_of_interfaceNamed? hi
    rw [← htype] at himpl hs
    refine ⟨s, List.mem_of_find?_eq_some hs, hfile.symm, pointsInto_of_mem hm hline hname, ?_⟩
    intro file hfile'
    rw [hifile, path_outline, Option.some.injEq] at hfile'
    exact hfile' ▸ implementedIn_of_mem hc hnamed hentry himpl hs hname hiline hitype
  · obtain ⟨m, hm, hline, hname, hfile, hifile, _⟩ := mem_ownRoutes hown
    refine ⟨c, hc, hfile.symm, pointsInto_of_mem hm hline hname, ?_⟩
    intro file hfile'
    rw [hifile] at hfile'
    cases hfile'

/-- A client's route points at the client or at the interface that it extends. -/
theorem exists_source_of_mem_candidates {sources : List Source} {r : Route}
    (h : r ∈ candidates (outlinesOf sources)) :
    ∃ s ∈ sources, s.path = r.file ∧ PointsInto s r ∧ r.implFile = none
      ∧ SeenByClient sources s r := by
  obtain ⟨o, ho, hclient, d, base, hd, hr⟩ := mem_candidates h
  obtain ⟨c, hc, rfl, hnamed⟩ := mem_named_outlinesOf ho
  obtain ⟨m, hm, hline, hname, hfile, hifile, _, htype, hcname⟩ := mem_routed_map hr
  obtain ⟨client, hcl⟩ := Option.isSome_iff_exists.mp hclient
  rw [hcl] at hcname
  have hdecl : ∃ s ∈ sources, s.outline = d ∧ (s = c ∨ ∃ extended,
      c.outline.extended = some extended ∧ declaring? sources extended = some s) := by
    rcases hd with rfl | hext
    · exact ⟨c, hc, rfl, Or.inl rfl⟩
    · obtain ⟨name, hname, hi⟩ := Option.bind_eq_some_iff.mp hext
      obtain ⟨s, hs, rfl⟩ := declaring?_of_interfaceNamed? hi
      exact ⟨s, List.mem_of_find?_eq_some hs, rfl, Or.inr ⟨name, hname, hs⟩⟩
  obtain ⟨s, hs, rfl, hwhere⟩ := hdecl
  refine ⟨s, hs, hfile.symm, pointsInto_of_mem hm hline hname, hifile, ?_⟩
  exact ⟨c, hc, client, c.outline.name, hcl, typeName_of_isNamed hnamed, htype, hcname, hwhere⟩

theorem routeTable_eq_append (os : List (Option Outline)) :
    routeTable os = link os ++ firstNew ((link os).map (·.path)) (candidates os) :=
  resolveClients_eq_append os (link os)

/-- **Navigation targets are sound.** Every route of the table of every list of sources can be
    followed. -/
theorem routeTable_navigable {sources : List Source} {r : Route}
    (h : r ∈ routeTable (outlinesOf sources)) : Navigable sources r := by
  have hadded : (routeTable (outlinesOf sources)).drop (link (outlinesOf sources)).length
      = firstNew ((link (outlinesOf sources)).map (·.path)) (candidates (outlinesOf sources)) := by
    rw [routeTable_eq_append, List.drop_left]
  unfold Navigable
  rw [hadded]
  rw [routeTable_eq_append, List.mem_append] at h
  rcases h with hlink | hnew
  · obtain ⟨s, hs, hfile, hpoints, himpl⟩ := exists_source_of_mem_link hlink
    refine ⟨s, hs, hfile, hpoints, himpl, ?_⟩
    -- a path that is linked is not added again
    intro hnew
    exact absurd (List.mem_map.mpr ⟨r, hlink, rfl⟩) (firstNew_fresh hnew)
  · have hcand := (firstNew_sublist _ _).subset hnew
    obtain ⟨s, hs, hfile, hpoints, hnone, hseen⟩ := exists_source_of_mem_candidates hcand
    refine ⟨s, hs, hfile, hpoints, ?_, fun _ => hseen⟩
    intro file hfile'
    rw [hnone] at hfile'
    cases hfile'

/-- A route of an interface with its implementation, and one that only a client sees. -/
theorem routeTable_navigable_shop :
    let sources : List Source :=
      [⟨"Api.java",
        "@RequestMapping(\"/api\")\ninterface Api \x7b\n  @GetMapping(\"/x\")\n  String find();"⟩,
       ⟨"Shop.java",
        "@RestController\nclass Shop implements Api \x7b\n  @Override\n  String find() \x7b"⟩,
       ⟨"Remote.java",
        "@FeignClient(name = \"shop\", path = \"/far\")\ninterface Remote extends Api \x7b"⟩]
    let inherited : Route :=
      { verb := "GET", path := "/api/x", file := "Api.java", line := .number 4, typeName := "Api",
        methodName := some "find", implFile := some "Shop.java", implLine := some (.number 4),
        implType := some "Shop" }
    let seen : Route :=
      { verb := "GET", path := "/far/x", file := "Api.java", line := .number 4,
        typeName := "Remote [Feign]", methodName := some "find", clientName := some "shop" }
    (inherited ∈ routeTable (outlinesOf sources) ∧ Navigable sources inherited)
      ∧ (seen ∈ routeTable (outlinesOf sources) ∧ Navigable sources seen) := by
  intro sources inherited seen
  have hmem : inherited ∈ routeTable (outlinesOf sources)
      ∧ seen ∈ routeTable (outlinesOf sources) := by decide +kernel
  exact ⟨⟨hmem.1, routeTable_navigable hmem.1⟩, ⟨hmem.2, routeTable_navigable hmem.2⟩⟩

end SpringRoutes
