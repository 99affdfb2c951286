import Mathlib.Data.List.Basic
import SpringRoutes.Proofs.Linking

/-!
# `SpringRoutes.Proofs.IrrelevantSources` — sources that leave no trace in a table

A table is made from the named outlines in two ways: controllers and clients are walked over in
order, and interfaces are looked up by name. A source that is neither a controller nor a client can
show only through a lookup, and lookups are made for the names that are **sought**: those that a
controller implements or a client extends.

* `IsSought` is such a name, and `IsIrrelevant` the ways in which a source can fail to show;
* `interfaceNamed?_insert` — a further source does not change what a name stands for, unless it is
  the first interface of that name;
* `link_of_agree`, `candidates_of_agree` — tables are equal when the walked sources are, and the
  lookups agree **on the sought names** (elsewhere they may differ, and for an interface that nobody
  seeks they do);
* `routeTable_insert_irrelevant` puts these together.
-/

namespace SpringRoutes

/-! ## Irrelevant sources -/

/-- A controller among `os` implements the interface of this name, or a client extends it. -/
def IsSought (os : List Outline) (name : String) : Prop :=
  ∃ o ∈ os, (o.isEntryPoint = true ∧ o.implemented = some name) ∨
    (o.client.isSome = true ∧ o.extended = some name)

/-- The source is neither a controller nor a client. -/
structure Outline.IsPassive (o : Outline) : Prop where
  notController : o.isEntryPoint = false
  notClient : o.client = none

/-- A source that does not show in the table when it stands between `before` and `after`. -/
inductive IsIrrelevant (before after : List (Option Outline)) : Option Outline → Prop
  /-- A file that cannot be read. -/
  | missing : IsIrrelevant before after none
  /-- A source that declares no type. -/
  | unnamed {o : Outline} (hname : o.isNamed = false) : IsIrrelevant before after (some o)
  /-- A class without a role. -/
  | noInterface {o : Outline} (hpassive : o.IsPassive) (hkind : o.isInterface = false) :
    IsIrrelevant before after (some o)
  /-- An interface that nobody seeks. -/
  | unsought {o : Outline} (hpassive : o.IsPassive)
    (hname : ¬ IsSought (named (before ++ after)) o.name) : IsIrrelevant before after (some o)
  /-- An interface behind another one of its name. -/
  | shadowed {o d : Outline} (hpassive : o.IsPassive) (hd : some d ∈ before)
    (hkind : d.isInterface = true) (hname : d.name = o.name) : IsIrrelevant before after (some o)

/-! ## One more source -/

theorem named_append (before after : List (Option Outline)) :
    named (before ++ after) = named before ++ named after := by
  unfold named
  rw [List.filterMap_append, List.filter_append]

theorem named_insert (before after : List (Option Outline)) {o : Outline}
    (ho : o.isNamed = true) :
    named (before ++ some o :: after) = named before ++ o :: named after := by
  rw [named_append]
  congr 1
  show (o :: after.filterMap id).filter (·.isNamed) = _
  rw [List.filter_cons_of_pos ho]
  rfl

theorem named_insert_unnamed (before after : List (Option Outline)) {source : Option Outline}
    (h : ∀ o, source = some o → o.isNamed = false) :
    named (before ++ source :: after) = named (before ++ after) := by
  rw [named_append, named_append]
  congr 1
  cases source with
  | none => rfl
  | some o =>
    have ho : o.isNamed = false := h o rfl
    show (o :: after.filterMap id).filter (·.isNamed) = _
    rw [List.filter_cons_of_neg (by simp [ho])]
    rfl

/-- A passive source is not walked over. -/
theorem filter_insert {os os' : List Outline} {o : Outline} {p : Outline → Bool}
    (h : p o = false) : (os ++ o :: os').filter p = (os ++ os').filter p := by
  rw [List.filter_append, List.filter_append, List.filter_cons_of_neg (by simp [h])]

/-- **A further source does not change what a name stands for**, unless it is an interface of that
    name with none of the name before it. -/
theorem interfaceNamed?_insert {os os' : List Outline} {o : Outline} {name : String}
    (h : o.isInterface = false ∨ o.name ≠ name ∨ (interfaceNamed? os name).isSome = true) :
    interfaceNamed? (os ++ o :: os') name = interfaceNamed? (os ++ os') name := by
  unfold interfaceNamed? at h ⊢
  rw [List.find?_append, List.find?_append]
  rcases h with hkind | hname | hfound
  · rw [List.find?_cons_of_neg (by simp [hkind])]
  · rw [List.find?_cons_of_neg (by simp [hname])]
  · obtain ⟨d, hd⟩ := Option.isSome_iff_exists.mp hfound
    rw [hd]
    rfl

theorem interfaceNamed?_isSome {os : List Outline} {d : Outline} (hd : d ∈ os)
    (hkind : d.isInterface = true) (hnamed : d.isNamed = true) :
    (interfaceNamed? os d.name).isSome = true := by
  unfold interfaceNamed?
  rw [List.find?_isSome]
  exact ⟨d, hd, by simp [hkind, hnamed]⟩

/-! ## Tables whose lookups agree -/

/-- The lookups among `os'` give what those among `os` do, as far as anyone looks. -/
def LookupsAgree (os os' : List Outline) : Prop :=
  ∀ name, IsSought os name → interfaceNamed? os' name = interfaceNamed? os name

section Agreement

variable {sources sources' : List (Option Outline)}
  (hagree : LookupsAgree (named sources) (named sources'))

include hagree

theorem link_of_agree
    (hwalk : (named sources').filter (·.isEntryPoint) = (named sources).filter (·.isEntryPoint)) :
    link sources' = link sources := by
  rw [link_eq, link_eq, hwalk]
  apply List.flatMap_congr
  intro controller hmem
  obtain ⟨hsource, hrole⟩ := List.mem_filter.mp hmem
  have hcontract : contractOf? sources' controller = contractOf? sources controller := by
    unfold contractOf?
    cases himpl : controller.implemented with
    | none => rfl
    | some name => exact hagree name ⟨controller, hsource, .inl ⟨hrole, himpl⟩⟩
  unfold linkedRoutes
  rw [hcontract]

theorem candidates_of_agree
    (hwalk : (named sources').filter (·.client.isSome)
      = (named sources).filter (·.client.isSome)) :
    candidates sources' = candidates sources := by
  unfold candidates
  rw [hwalk]
  apply List.flatMap_congr
  intro client hmem
  obtain ⟨hsource, hrole⟩ := List.mem_filter.mp hmem
  have hcontract : client.extended.bind (interfaceNamed? (named sources'))
      = client.extended.bind (interfaceNamed? (named sources)) := by
    cases hext : client.extended with
    | none => rfl
    | some name => exact hagree name ⟨client, hsource, .inr ⟨hrole, hext⟩⟩
  rw [hcontract]

end Agreement

/-! ## Irrelevant sources leave no trace -/

/-- An irrelevant source is passed over, or it is passive and the lookups agree without it. -/
theorem IsIrrelevant.cases_named {before after : List (Option Outline)} {source : Option Outline}
    (h : IsIrrelevant before after source) :
    (∀ o, source = some o → o.isNamed = false) ∨
      ∃ o, source = some o ∧ o.isNamed = true ∧ o.IsPassive ∧
        ∀ name, IsSought (named (before ++ after)) name →
          o.isInterface = false ∨ o.name ≠ name
            ∨ (interfaceNamed? (named before) name).isSome = true := by
  cases source with
  | none =>
    refine .inl fun _ heq => ?_
    cases heq
  | some o =>
    by_cases ho : o.isNamed = true
    · refine .inr ⟨o, rfl, ho, ?_⟩
      cases h with
      | unnamed hname =>
        rw [hname] at ho
        cases ho
      | noInterface hpassive hkind => exact ⟨hpassive, fun _ _ => .inl hkind⟩
      | unsought hpassive hname =>
        refine ⟨hpassive, fun name hsought => .inr (.inl ?_)⟩
        rintro rfl
        exact hname hsought
      | @shadowed _ d hpassive hd hkind hname =>
        refine ⟨hpassive, fun name _ => ?_⟩
        by_cases hn : o.name = name
        · have hnamed : d.isNamed = true := by
            unfold Outline.isNamed at ho ⊢
            rwa [hname]
          have hmem : d ∈ named before :=
            List.mem_filter.mpr ⟨List.mem_filterMap.mpr ⟨some d, hd, rfl⟩, hnamed⟩
          have hfound := interfaceNamed?_isSome hmem hkind hnamed
          rw [hname, hn] at hfound
          exact .inr (.inr hfound)
        · exact .inr (.inl hn)
    · refine .inl fun _ heq => ?_
      cases heq
      simpa using ho

/-- **Irrelevant sources do not influence the table.** Wherever a missing or unnamed source stands
    among the others, or one that is neither a controller nor a client and whose type is no
    interface, an interface that no controller implements and no client extends, or an interface of
    a name that an interface before it has: linking gives the same routes without it, and clients
    complete every table in the same way. -/
theorem routeTable_insert_irrelevant {before after : List (Option Outline)}
    {source : Option Outline} (h : IsIrrelevant before after source) :
    link (before ++ source :: after) = link (before ++ after) ∧
      ∀ table, resolveClients (before ++ source :: after) table
        = resolveClients (before ++ after) table := by
  rcases h.cases_named with hunnamed | ⟨o, rfl, ho, hpassive, hlookups⟩
  · -- such a source is dropped before anything else is done
    have hnamed := named_insert_unnamed before after hunnamed
    refine ⟨?_, fun table => ?_⟩
    · unfold link
      rw [hnamed]
    · unfold resolveClients clientCandidates
      rw [hnamed]
  · have hnamed := named_insert before after ho
    have hagree : LookupsAgree (named (before ++ after)) (named (before ++ some o :: after)) := by
      intro name hsought
      rw [hnamed, named_append]
      exact interfaceNamed?_insert (hlookups name hsought)
    refine ⟨link_of_agree hagree ?_, fun table => ?_⟩
    · rw [hnamed, named_append]
      exact filter_insert hpassive.notController
    · have hoffers : candidates (before ++ some o :: after) = candidates (before ++ after) := by
        refine candidates_of_agree hagree ?_
        rw [hnamed, named_append]
        exact filter_insert (by simp [hpassive.notClient])
      rw [resolveClients_eq_append, resolveClients_eq_append, hoffers]

/-- A second interface of the name that a controller implements and a client extends, with another
    path for the same method. Behind the first one it leaves no trace; in front of it, it would give
    other routes. An interface that nobody seeks may stand in front of everything. -/
theorem routeTable_insert_irrelevant_api :
    let api (path : String) : Outline :=
      { path := path ++ "/Api.java", typeName := some "Api", kind := .ofInterface,
        methods := [⟨"find", 4, some ⟨path, "GET"⟩, false⟩] }
    let shop : Outline :=
      { path := "Shop.java", typeName := some "Shop", isEntryPoint := true,
        implemented := some "Api" }
    let far : Outline :=
      { path := "Far.java", typeName := some "Far", kind := .ofInterface,
        client := some ⟨some "far", some "/far"⟩, extended := some "Api" }
    let other : Outline := { path := "Other.java", typeName := some "Other", kind := .ofInterface }
    let before := [some (api "/x"), some shop]
    let after := [some far]
    let sources := before ++ after
    IsIrrelevant before after (some (api "/y")) ∧ IsIrrelevant [] sources (some other) ∧
      link (some (api "/y") :: sources) ≠ link sources ∧
      (link (before ++ some (api "/y") :: after) = link sources ∧
        ∀ table, resolveClients (before ++ some (api "/y") :: after) table
          = resolveClients sources table) ∧
      link ([] ++ some other :: sources) = link ([] ++ sources) ∧
        ∀ table, resolveClients ([] ++ some other :: sources) table
          = resolveClients ([] ++ sources) table := by
  intro api shop far other before after sources
  have hshadowed : IsIrrelevant before after (some (api "/y")) :=
    .shadowed ⟨rfl, rfl⟩ (List.mem_cons_self ..) rfl rfl
  have hunsought : IsIrrelevant [] sources (some other) := by
    refine .unsought ⟨rfl, rfl⟩ ?_
    rintro ⟨o, ho, hrole⟩
    have hothers : ∀ o ∈ named sources,
        o.implemented ≠ some "Other" ∧ o.extended ≠ some "Other" := by decide +kernel
    rcases hrole with ⟨_, himpl⟩ | ⟨_, hext⟩
    · exact (hothers o ho).1 himpl
    · exact (hothers o ho).2 hext
  exact ⟨hshadowed, hunsought, by decide +kernel, routeTable_insert_irrelevant hshadowed,
    routeTable_insert_irrelevant hunsought⟩

end SpringRoutes
