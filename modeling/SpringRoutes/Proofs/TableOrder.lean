import SpringRoutes.Proofs.Linking
import SpringRoutes.Proofs.ScanReads
import SpringRoutes.Proofs.Sorting

/-!
# `SpringRoutes.Proofs.TableOrder` — the order of a table, and what it owes to the order of the files

A table is sorted by path, and sorting is stable. Two things follow about the routes of one path.

* They are the linked routes of that path in the order of linking, or there is none of those and one
  client gave the route (`filter_path_routeTable`). `Scan.table_shape` says so for whole scans.
* Their number does not depend on the order of the sources, as long as no two interfaces share a
  name (`routeTable_perm`): then a name stands for the same interface in every order, linking emits
  the same routes, and clients offer the same paths. Which client's route is taken does depend on the
  order, its path does not.
-/

namespace SpringRoutes

/-! ## Interfaces in another order -/

theorem interfaceNamed?_eq_lookup (os : List Outline) (n : String) :
    interfaceNamed? os n =
      ((((os.filter (·.isInterface)).filter (·.isNamed)).map fun o => (o.name, o)).lookup n) := by
  unfold interfaceNamed?
  induction os with
  | nil => rfl
  | cons o os ih =>
    by_cases hi : o.isInterface = true
    · by_cases hn : o.isNamed = true
      · rw [List.filter_cons_of_pos hi, List.filter_cons_of_pos hn, List.map_cons,
          List.lookup_cons]
        by_cases hname : o.name = n
        · rw [List.find?_cons_of_pos (by simp [hi, hn, hname])]
          simp [hname]
        · rw [List.find?_cons_of_neg (by simp [hname]), beq_false_of_ne (Ne.symm hname)]
          exact ih
      · rw [List.filter_cons_of_pos hi, List.filter_cons_of_neg hn,
          List.find?_cons_of_neg (by simp [hn])]
        exact ih
    · rw [List.filter_cons_of_neg hi, List.find?_cons_of_neg (by simp [hi])]
      exact ih

/-- **A name that only one interface has stands for it in every order.** -/
theorem interfaceNamed?_perm {os os' : List Outline}
    (hnames : ((os.filter (·.isInterface)).map (·.name)).Nodup) (h : os'.Perm os) :
    interfaceNamed? os' = interfaceNamed? os := by
  funext n
  rw [interfaceNamed?_eq_lookup, interfaceNamed?_eq_lookup]
  refine Entries.lookup_perm ?_ (((h.filter _).filter _).map _) n
  rw [List.map_map]
  exact hnames.sublist (List.filter_sublist.map _)

/-! ## Tables in another order -/

theorem named_perm {sources sources' : List (Option Outline)} (h : sources'.Perm sources) :
    (named sources').Perm (named sources) :=
  (h.filterMap id).filter _

section FileOrder

variable {sources sources' : List (Option Outline)}
  (hnames : (((named sources).filter (·.isInterface)).map (·.name)).Nodup)
  (h : sources'.Perm sources)

include hnames h

theorem link_perm : (link sources').Perm (link sources) := by
  have hcontract : contractOf? sources' = contractOf? sources := by
    funext controller
    unfold contractOf?
    rw [interfaceNamed?_perm hnames (named_perm h)]
  have hroutes : linkedRoutes sources' = linkedRoutes sources := by
    funext controller
    unfold linkedRoutes
    rw [hcontract]
  rw [link_eq, link_eq, hroutes]
  exact ((named_perm h).filter _).flatMap_right _

theorem candidates_perm : (candidates sources').Perm (candidates sources) := by
  unfold candidates
  rw [interfaceNamed?_perm hnames (named_perm h)]
  exact ((named_perm h).filter _).flatMap_right _

/-- The paths that clients add are those of their candidates that are not linked, each once. -/
theorem paths_routeTable_perm :
    ((routeTable sources').map (·.path)).Perm ((routeTable sources).map (·.path)) := by
  have hlink := (link_perm hnames h).map (·.path)
  have hcand := (candidates_perm hnames h).map (·.path)
  rw [routeTable_eq_append, routeTable_eq_append, List.map_append, List.map_append]
  refine hlink.append ?_
  refine (List.perm_ext_iff_of_nodup (firstNew_nodup _ _) (firstNew_nodup _ _)).mpr ?_
  intro p
  rw [mem_paths_firstNew, mem_paths_firstNew, hlink.mem_iff, hcand.mem_iff]

end FileOrder

/-- **The table does not depend on the order of the files.** Unless two interfaces share a name,
    another order of the sources gives the same linked routes in another order, and a table with the
    same paths, each as often as before. -/
theorem routeTable_perm {sources sources' : List (Option Outline)}
    (hnames : (((named sources).filter (·.isInterface)).map (·.name)).Nodup)
    (h : sources'.Perm sources) :
    (link sources').Perm (link sources) ∧
      (((routeTable sources').map (·.path)).mergeSort fun a b => decide (a ≤ b))
        = ((routeTable sources).map (·.path)).mergeSort fun a b => decide (a ≤ b) :=
  ⟨link_perm hnames h, mergeSort_eq_of_perm (paths_routeTable_perm hnames h)⟩

/-- Two clients offer one path, and the first one gives the route; an unreadable file stands between
    them. In the other order the route is the other client's, and the path is the same. -/
theorem routeTable_perm_clients :
    let find : Method := ⟨"find", 4, some ⟨"/x", "GET"⟩, false⟩
    let api : Outline :=
      { path := "Api.java", typeName := some "Api", kind := .ofInterface, methods := [find] }
    let shop : Outline :=
      { path := "Shop.java", typeName := some "Shop", isEntryPoint := true,
        implemented := some "Api" }
    let client (name : String) : Outline :=
      { path := name ++ ".java", typeName := some name, kind := .ofInterface,
        client := some ⟨some "far", some "/far"⟩, extended := some "Api" }
    let sources := [some (client "A"), none, some (client "B"), some shop, some api]
    let sources' := [some api, some (client "B"), some shop, some (client "A"), none]
    (((named sources).filter (·.isInterface)).map (·.name)).Nodup ∧ sources'.Perm sources ∧
      ¬ (routeTable sources').Perm (routeTable sources) ∧
      (link sources').Perm (link sources) ∧
      (((routeTable sources').map (·.path)).mergeSort fun a b => decide (a ≤ b))
        = ((routeTable sources).map (·.path)).mergeSort fun a b => decide (a ≤ b) := by
  intro find api shop client sources sources'
  have hnames : (((named sources).filter (·.isInterface)).map (·.name)).Nodup := by decide +kernel
  have hperm : sources'.Perm sources := by decide +kernel
  exact ⟨hnames, hperm, by decide +kernel, routeTable_perm hnames hperm⟩

/-! ## The routes of one path -/

/-- The part of a table that clients have added. -/
def added (sources : List (Option Outline)) : List Route :=
  (routeTable sources).drop (link sources).length

theorem added_eq (sources : List (Option Outline)) :
    added sources = firstNew ((link sources).map (·.path)) (candidates sources) := by
  rw [added, routeTable_eq_append, List.drop_left]

theorem routeTable_eq_link_append (sources : List (Option Outline)) :
    routeTable sources = link sources ++ added sources := by
  rw [added_eq, routeTable_eq_append]

/-- Where no path comes twice, at most one route has a path. -/
theorem filter_path_of_nodup {rs : List Route} (h : (rs.map (·.path)).Nodup) (x : String) :
    rs.filter (fun r => decide (r.path = x)) = [] ∨
      ∃ r ∈ rs, rs.filter (fun r => decide (r.path = x)) = [r] := by
  induction rs with
  | nil => exact .inl rfl
  | cons r rs ih =>
    rw [List.map_cons, List.nodup_cons] at h
    by_cases hr : r.path = x
    · have hrest : rs.filter (fun r => decide (r.path = x)) = [] := by
        rw [List.filter_eq_nil_iff]
        intro q hq hpath
        exact h.1 (List.mem_map.mpr ⟨q, hq, (of_decide_eq_true hpath).trans hr.symm⟩)
      refine .inr ⟨r, List.mem_cons_self .., ?_⟩
      rw [List.filter_cons_of_pos (by simp [hr]), hrest]
    · rw [List.filter_cons_of_neg (by simpa using hr)]
      refine (ih h.2).imp id ?_
      rintro ⟨q, hq, hone⟩
      exact ⟨q, List.mem_cons_of_mem _ hq, hone⟩

/-- **The routes of a path are linked, or one client gave the only one.** -/
theorem filter_path_routeTable (sources : List (Option Outline)) (x : String) :
    (routeTable sources).filter (fun r => decide (r.path = x))
        = (link sources).filter (fun r => decide (r.path = x)) ∨
      (∀ r ∈ link sources, r.path ≠ x) ∧ ∃ r ∈ added sources,
        (routeTable sources).filter (fun r => decide (r.path = x)) = [r] := by
  rw [routeTable_eq_link_append, List.filter_append]
  have hnodup : ((added sources).map (·.path)).Nodup := by
    rw [added_eq]
    exact firstNew_nodup _ _
  rcases filter_path_of_nodup hnodup x with hnone | ⟨r, hr, hone⟩
  · rw [hnone, List.append_nil]
    exact .inl rfl
  · have hpath : r.path = x := by
      have hmem : r ∈ (added sources).filter fun r => decide (r.path = x) := by
        rw [hone]
        exact List.mem_singleton.mpr rfl
      exact of_decide_eq_true (List.mem_filter.mp hmem).2
    -- a route that was added has a path that is not linked
    have hfree : ∀ q ∈ link sources, q.path ≠ x := by
      intro q hq hqx
      rw [added_eq] at hr
      exact firstNew_fresh hr (List.mem_map.mpr ⟨q, hq, hqx.trans hpath.symm⟩)
    have hnone : (link sources).filter (fun r => decide (r.path = x)) = [] := by
      rw [List.filter_eq_nil_iff]
      intro q hq hqx
      exact hfree q hq (of_decide_eq_true hqx)
    refine .inr ⟨hfree, r, hr, ?_⟩
    rw [hnone, hone]
    rfl

/-! ## Sorted tables -/

/-- What a sorted table of sources looks like. -/
structure IsSortedTable (sources : List (Option Outline)) (routes : List Route) : Prop where
  sorted : routes.Pairwise fun a b => a.path ≤ b.path
  /-- Sorting neither loses nor repeats a route. -/
  complete : routes.Perm (link sources ++ added sources)
  /-- The routes of a path are linked and in the order of linking, or one client gave the only
      one. -/
  ofPath : ∀ x, routes.filter (fun r => decide (r.path = x))
        = (link sources).filter (fun r => decide (r.path = x)) ∨
      (∀ r ∈ link sources, r.path ≠ x) ∧ ∃ r ∈ added sources,
        routes.filter (fun r => decide (r.path = x)) = [r]

theorem isSortedTable_sortedTable (sources : List (Option Outline)) :
    IsSortedTable sources (sortedTable sources) where
  sorted := pairwise_mergeSort_by Route.path (routeTable sources)
  complete := by
    rw [← routeTable_eq_link_append]
    exact List.mergeSort_perm ..
  ofPath x := by
    rw [sortedTable, filter_mergeSort_by Route.path]
    exact filter_path_routeTable sources x

/-! ## Whole scans -/

namespace Scan

theorem isProper_places {w : Workspace} (hw : w.isProper = true) {base : WrittenPath}
    (hbase : base.IsClean) {files paths : List String} (h : places w base files = .ok paths) :
    ∃ ps : List Place, paths = ps.map Place.text ∧ ∀ p ∈ ps, p.isProper = true := by
  induction files generalizing paths with
  | nil =>
    cases h
    exact ⟨[], rfl, nofun⟩
  | cons f files ih =>
    rw [places] at h
    cases hp : w.resolve (base.append (.ofString f)) with
    | error e =>
      rw [hp] at h
      cases h
    | ok p =>
      rw [hp] at h
      cases hrest : places w base files with
      | error e =>
        rw [hrest] at h
        cases h
      | ok rest =>
        rw [hrest] at h
        cases h
        obtain ⟨ps, rfl, hps⟩ := ih hrest
        refine ⟨p :: ps, rfl, ?_⟩
        intro q hq
        rcases List.mem_cons.mp hq with rfl | hq
        · exact Workspace.isProper_resolve hw
            (WrittenPath.isClean_append hbase (WrittenPath.isClean_ofString f)) hp
        · exact hps q hq

/-- **The shape of a scan.** A scan gives a table whenever the root and the files have places. The
    table is sorted by path, with neither losses nor repetitions; the routes of a path are the linked
    ones, or there is only one and it is a client's. Linked routes stand in the order of their
    origins: by file, for one controller those of its interface first, and then by method. -/
theorem table_shape {w : Workspace} (hw : w.isProper = true) (root : String)
    (files : List String) :
    match (do let base ← w.expand (.ofString root); places w base files) with
    | .error e => (table w root files).result = .error e
    | .ok paths => ∃ os routes,
      os.map Except.ok = paths.map (fun path => (outlineAt w path).result) ∧
        (table w root files).result = .ok routes ∧ IsSortedTable os routes ∧
        ∃ as : List Origin, as.Pairwise Origin.Before ∧
          (∀ a, a ∈ as ↔ (routeAt? os a).isSome = true) ∧
          (link os).map some = as.map (routeAt? os) := by
  rw [result_table]
  cases hbase : w.expand (.ofString root) with
  | error e => rfl
  | ok base =>
    cases hpaths : places w base files with
    | error e =>
      simp only [Bind.bind, Except.bind, hpaths]
    | ok paths =>
      have hclean := Workspace.isClean_expand hw (WrittenPath.isClean_ofString root) hbase
      obtain ⟨ps, rfl, hps⟩ := isProper_places hw hclean hpaths
      obtain ⟨os, hos, hmap⟩ := exists_outlines w hps
      simp only [Bind.bind, Except.bind, hpaths, hos]
      exact ⟨os, sortedTable os, hmap, rfl, isSortedTable_sortedTable os, origins os,
        origins_ordered os, fun _ => mem_origins, link_eq_origins os⟩

/-- Two controllers with one path, listed against the order of their names; a third file is
    missing. -/
theorem table_shape_shop :
    let text (name : String) :=
      "@RestController\nclass " ++ name ++ " \x7b\n  @GetMapping(\"/x\")\n  String x() \x7b"
    let w : Workspace :=
      { tree := .dir [("shop", .dir [("A.java", .file (.text (text "A"))),
          ("B.java", .file (.text (text "B")))])]
        cwd := some ["shop"]
        home := ["home"]
        now := { year := 2024, month := 1, day := 1 } }
    let files := ["B.java", "C.java", "A.java"]
    let paths := ["/shop/B.java", "/shop/C.java", "/shop/A.java"]
    w.isProper = true ∧ ∃ os routes,
      os.map Except.ok = paths.map (fun path => (outlineAt w path).result) ∧
        (table w "." files).result = .ok routes ∧ IsSortedTable os routes ∧
        ∃ as : List Origin, as.Pairwise Origin.Before ∧
          (∀ a, a ∈ as ↔ (routeAt? os a).isSome = true) ∧
          (link os).map some = as.map (routeAt? os) := by
  intro text w files paths
  have hw : w.isProper = true := by decide +kernel
  have hplaces : (do let base ← w.expand (.ofString "."); places w base files).toOption
      = some paths := by decide +kernel
  have hshape := table_shape hw "." files
  revert hplaces hshape
  cases (do let base ← w.expand (.ofString "."); places w base files) with
  | error e =>
    intro hplaces
    cases hplaces
  | ok found =>
    intro hplaces hshape
    cases hplaces
    exact ⟨hw, hshape⟩

end Scan

end SpringRoutes
