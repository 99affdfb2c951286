import SpringRoutes.Proofs.Requests
import SpringRoutes.Proofs.Sessions

/-!
# `SpringRoutes.Proofs.History` — what is kept is the last new table

Requests about any number of projects go to one store in memory, and between two of them anything
may happen to the files. What the answers say about the cache can be read off the lines of the log
before them (`Line.Follows`): a table is kept for a project if a scan of it gave a new table and
nothing was dropped since, and it is the table of the latest such scan. **What is kept is dropped not
only on request:** a scan that was to give a new table, and failed at the sources, has dropped the old
one too (`Line.Drops`). Projects do not notice each other: the lines about one are those that it would
get without the requests about others (`answers_follow_history`).

The invariant `Remembers` says what the store has under the key of each project, given the log so far.
One request keeps it (`Remembers.step`), since a request changes at most the entry of its own project
(`Asked`). That an entry gives its table back is `Store.Entry.routes?_ofRoutes`. All this holds for
every scanner, so it does not matter when and why scanners fail.
-/

namespace SpringRoutes

open Store (Entry)

/-! ## Routes come back from an entry -/

theorem Json.field?_canonical {fields : List (String × Json)} (h : (fields.map (·.1)).Nodup)
    (key : String) :
    (object fields).canonical.field? key = ((object fields).field? key).map canonical := by
  rw [canonical]
  exact lookupField_canonicalFields h key

theorem Json.asString?_canonical (j : Json) : j.canonical.asString? = j.asString? := by
  cases j <;> simp [canonical, asString?]

theorem Json.asString?_ofString? (s : Option String) : (ofString? s).asString? = s := by
  cases s <;> rfl

theorem LineMark.ofJson?_canonical (j : Json) : ofJson? j.canonical = ofJson? j := by
  cases j <;> simp [Json.canonical, ofJson?]

namespace Route

/-- **A route comes back from its object.** -/
theorem ofJson?_toJson (r : Route) : ofJson? r.toJson = some r := by
  have htext : ∀ s, (Json.string s).asString? = some s := fun _ => rfl
  have himpl : LineMark.ofJson? ((r.implLine.map LineMark.toJson).getD .null) = r.implLine := by
    cases r.implLine with
    | none => rfl
    | some l => exact l.ofJson?_toJson
  simp [ofJson?, toJson, Json.field?, Json.lookupField, List.lookup_cons, htext,
    LineMark.ofJson?_toJson, himpl, Json.asString?_ofString?]

/-- The order of its fields does not matter to a route. -/
theorem ofJson?_canonical {fields : List (String × Json)} (h : (fields.map (·.1)).Nodup) :
    ofJson? (Json.object fields).canonical = ofJson? (.object fields) := by
  unfold ofJson?
  simp only [Json.field?_canonical h, Option.bind_eq_bind, Option.bind_map, Function.comp_def,
    Json.asString?_canonical, LineMark.ofJson?_canonical]

end Route

namespace Store

/-- **An entry gives its routes back.** -/
theorem Entry.routes?_ofRoutes (routes : List Route) (now : Moment) :
    (Entry.ofRoutes routes now).routes? = some routes := by
  have hkeys : ((Entry.scanFields routes now).map (·.1)).Nodup := by simp [Entry.scanFields]
  have hrecords : Json.lookupField (Entry.ofRoutes routes now) "records"
      = some (.array (routes.map fun r => r.toJson.canonical)) := by
    have hlookup := Json.lookupField_canonicalFields hkeys "records"
    have hfirst : Json.lookupField (Entry.scanFields routes now) "records"
        = some (.array (routes.map Route.toJson)) := rfl
    rw [hfirst, Option.map_some, Json.canonical, Json.canonicalItems_eq_map, List.map_map]
      at hlookup
    exact hlookup
  have hroute : ∀ r : Route, Route.ofJson? r.toJson.canonical = some r := by
    intro r
    unfold Route.toJson
    rw [Route.ofJson?_canonical (by simp)]
    exact r.ofJson?_toJson
  unfold Entry.routes?
  rw [hrecords]
  simp only [List.filterMap_map, Function.comp_def, hroute, List.filterMap_some]

end Store

/-! ## The log of a session -/

/-- A request about a project, the workspace in which it was made, and the answer to it. -/
structure Line where
  workspace : Workspace
  root : Place
  request : Request
  answer : Answer

namespace Session

/-- The project that a request is about. -/
def root? (s : Session) (r : Request) : Option Place :=
  (Project.rootOf s.workspace r.path).toOption

variable (scanner : Scanner)

/-- The line of the log for an event. An edit has none, and neither has a request about no project. -/
def line? (s : Session) : Act → Option Line
  | .request r => (s.root? r).map fun root => ⟨s.workspace, root, r, (s.answer scanner r).1⟩
  | .edit _ => none

/-- The log of a session. -/
def log (s : Session) : List Act → List Line
  | [] => []
  | a :: acts => (s.line? scanner a).toList ++ log (s.step scanner a).2 acts

/-- Whether an event is no request about another project. -/
def concerns (s : Session) (root : Place) : Act → Bool
  | .request r => s.root? r = some root
  | .edit _ => true

/-- The events of a session without the requests about other projects. -/
def about (root : Place) (s : Session) : List Act → List Act
  | [] => []
  | a :: acts =>
    if s.concerns root a then a :: about root (s.step scanner a).2 acts
    else about root (s.step scanner a).2 acts

end Session

/-! ## Reading the log -/

section Since

variable {α : Type}

/-- `x` is in the log, and nothing bad came after it. -/
def Since (log : List α) (x : α) (bad : α → Prop) : Prop :=
  ∃ before after, log = before ++ x :: after ∧ ∀ y ∈ after, ¬ bad y

theorem since_nil {x : α} {bad : α → Prop} : ¬ Since [] x bad := by
  rintro ⟨before, after, h, _⟩
  exact absurd h.symm (by simp)

theorem since_concat {log : List α} {x y : α} {bad : α → Prop} :
    Since (log ++ [y]) x bad ↔ y = x ∨ Since log x bad ∧ ¬ bad y := by
  constructor
  · rintro ⟨before, after, h, hafter⟩
    rcases List.eq_nil_or_concat after with rfl | ⟨init, z, rfl⟩
    · exact .inl (List.append_inj_right' h rfl |> List.cons.inj |>.1)
    · rw [List.concat_eq_append, ← List.cons_append, ← List.append_assoc] at h
      obtain ⟨hlog, hy⟩ := List.append_inj' h rfl
      cases hy
      refine .inr ⟨⟨before, init, hlog, ?_⟩, ?_⟩
      · intro u hu
        exact hafter u (by simp [hu])
      · exact hafter y (by simp)
  · rintro (rfl | ⟨⟨before, after, rfl, hafter⟩, hy⟩)
    · exact ⟨log, [], rfl, fun u hu => absurd hu List.not_mem_nil⟩
    · refine ⟨before, after ++ [y], by simp, ?_⟩
      intro u hu
      rcases List.mem_append.mp hu with hu | hu
      · exact hafter u hu
      · rwa [List.mem_singleton.mp hu]

theorem Since.imp {log : List α} {x : α} {bad bad' : α → Prop} (h : Since log x bad)
    (himp : ∀ y, bad' y → bad y) : Since log x bad' := by
  obtain ⟨before, after, rfl, hafter⟩ := h
  exact ⟨before, after, rfl, fun y hy hbad => hafter y hy (himp y hbad)⟩

end Since

namespace Line

/-- A scan gave a new table. -/
def Renews (root : Place) (routes : List Route) (x : Line) : Prop :=
  x.root = root ∧ x.answer = .table (.ok ⟨root, routes, false⟩)

/-- What is kept was dropped: as was asked, or for a new table that then could not be had. -/
def Drops (root : Place) (x : Line) : Prop :=
  x.root = root ∧ ((∃ r, x.answer = .forgotten r) ∨
    ∃ path e, x.request = .scan path true ∧ Project.checkedRoot x.workspace path = .ok root ∧
      x.answer = .table (.error e))

/-- What is kept was dropped, or there is a new table. -/
def Replaces (root : Place) (x : Line) : Prop :=
  x.Drops root ∨ ∃ routes, x.Renews root routes

end Line

/-- A scan gave a new table, and it was not dropped since. -/
def Stands (log : List Line) (root : Place) : Prop :=
  ∃ routes x, Line.Renews root routes x ∧ Since log x (Line.Drops root)

/-- The table of the latest such scan. -/
def Latest (log : List Line) (root : Place) (routes : List Route) : Prop :=
  ∃ x, Line.Renews root routes x ∧ Since log x (Line.Replaces root)

/-- The answer is the one that the log before it calls for. A scan fails if its root does not pass the
    check, or if the scanner fails and no kept table is to be given. The other two requests never
    fail. -/
def Line.Follows (scanner : Scanner) (log : List Line) (x : Line) : Prop :=
  match x.request, x.answer with
  | .scan path refresh, .table (.error e) =>
    Project.checkedRoot x.workspace path = .error e ∨
      (refresh = true ∨ ¬ Stands log x.root) ∧
        Project.checkedRoot x.workspace path = .ok x.root ∧
        (scanner x.workspace x.root).result = .error e
  | .scan _ refresh, .table (.ok table) =>
    table.root = x.root ∧ (table.isCached = true ↔ refresh = false ∧ Stands log x.root) ∧
      (table.isCached = true → Latest log x.root table.routes)
  | .info _, .info (.ok info) =>
    (info.hasCache = true ↔ Stands log x.root) ∧
      (info.hasCache = true → ∃ routes, Latest log x.root routes ∧ info.count = routes.length)
  | .forget _, .forgotten (.ok removed) => removed = true ↔ Stands log x.root
  | _, _ => False

/-! ## One request -/

/-- What a request about `root` does with a store in memory: its answer and the store after it. -/
inductive Asked (scanner : Scanner) (w : Workspace) (root : Place) (s : Store) :
    Request → Answer → Store → Prop
  | refused {path : Option String} {refresh : Bool} {e : Failure}
      (check : Project.checkedRoot w path = .error e) :
      Asked scanner w root s (.scan path refresh) (.table (.error e)) s
  | kept {path : Option String} {routes : List Route}
      (check : Project.checkedRoot w path = .ok root) (h : s.routes? root.text = some routes) :
      Asked scanner w root s (.scan path false) (.table (.ok ⟨root, routes, true⟩)) s
  | new {path : Option String} {refresh : Bool} {routes : List Route} {s' : Store}
      (check : Project.checkedRoot w path = .ok root)
      (asked : refresh = true ∨ s.routes? root.text = none)
      (scanned : (scanner w root).result = .ok routes)
      (h : s.HasPut root.text routes w.now s') :
      Asked scanner w root s (.scan path refresh) (.table (.ok ⟨root, routes, false⟩)) s'
  | failed {path : Option String} {e : Failure} (check : Project.checkedRoot w path = .ok root)
      (h : s.routes? root.text = none) (scanned : (scanner w root).result = .error e) :
      Asked scanner w root s (.scan path false) (.table (.error e)) s
  | lost {path : Option String} {e : Failure} (check : Project.checkedRoot w path = .ok root)
      (scanned : (scanner w root).result = .error e) :
      Asked scanner w root s (.scan path true) (.table (.error e)) (s.remove root.text)
  | info {path : Option String} :
      Asked scanner w root s (.info path) (.info (.ok (s.info root.text w.now))) s
  | forget {path : Option String} :
      Asked scanner w root s (.forget path) (.forgotten (.ok (s.contains root.text)))
        (s.remove root.text)

namespace Session

theorem rootOf_of_root? {s : Session} {r : Request} {root : Place} (h : s.root? r = some root) :
    Project.rootOf s.workspace r.path = .ok root := by
  unfold root? at h
  cases hroot : Project.rootOf s.workspace r.path with
  | error e =>
    rw [hroot] at h
    cases h
  | ok place =>
    rw [hroot] at h
    cases h
    rfl

/-- **One request about a project.** -/
theorem asked (scanner : Scanner) {w : Workspace} {s : Store} (hs : s.file = none) {r : Request}
    {root : Place} (hroot : root? ⟨w, .shared s⟩ r = some root) :
    ∃ a s', answer scanner ⟨w, .shared s⟩ r = (a, ⟨w, .shared s'⟩) ∧
      Asked scanner w root s r a s' := by
  have hplace : Project.rootOf w r.path = .ok root := rootOf_of_root? hroot
  cases r with
  | scan path refresh =>
    unfold answer
    simp only
    cases hcheck : Project.checkedRoot w path with
    | error e =>
      rw [Project.scan_of_checkedRoot_error scanner _ hcheck]
      exact ⟨_, s, rfl, .refused hcheck⟩
    | ok place =>
      cases hplace.symm.trans (Project.of_checkedRoot hcheck).1
      have hscan := Project.scan_shared scanner hs hcheck refresh
      generalize Project.scan scanner (.shared s) w path refresh = o at hscan ⊢
      cases hscan with
      | kept h => exact ⟨_, s, rfl, .kept hcheck h⟩
      | new hasked hscanned h => exact ⟨_, _, rfl, .new hcheck hasked hscanned h⟩
      | failed h hscanned => exact ⟨_, s, rfl, .failed hcheck h hscanned⟩
      | lost hscanned => exact ⟨_, _, rfl, .lost hcheck hscanned⟩
  | info path =>
    change Project.rootOf w path = .ok root at hplace
    refine ⟨_, s, ?_, .info⟩
    simp only [answer, Project.info, hplace]
    rfl
  | forget path =>
    change Project.rootOf w path = .ok root at hplace
    obtain ⟨hresult, hworkspace, hcache⟩ := Project.forget_of_ok (c := .shared s) hplace rfl
      (Store.persist_of_file_eq_none ((Store.file_remove s root.text).trans hs) w)
    refine ⟨_, _, ?_, .forget⟩
    simp only [answer, hresult, hworkspace, hcache]
    rfl

/-- A request about no project changes nothing. -/
theorem answer_of_root?_eq_none (scanner : Scanner) {w : Workspace} {c : Cache} {r : Request}
    (h : root? ⟨w, c⟩ r = none) : (answer scanner ⟨w, c⟩ r).2 = ⟨w, c⟩ := by
  obtain ⟨e, hplace⟩ : ∃ e, Project.rootOf w r.path = .error e := by
    unfold root? at h
    cases hroot : Project.rootOf w r.path with
    | error e => exact ⟨e, rfl⟩
    | ok place =>
      rw [hroot] at h
      cases h
  cases r with
  | scan path refresh =>
    change Project.rootOf w path = .error e at hplace
    have hcheck : Project.checkedRoot w path = .error e := by
      unfold Project.checkedRoot
      rw [hplace]
      rfl
    simp only [answer, Project.scan_of_checkedRoot_error scanner _ hcheck]
    rfl
  | info path =>
    change Project.rootOf w path = .error e at hplace
    simp only [answer, Project.info, hplace]
    rfl
  | forget path =>
    change Project.rootOf w path = .error e at hplace
    simp only [answer, Project.forget, hplace]
    rfl

end Session

namespace Asked

variable {scanner : Scanner} {w : Workspace} {root : Place} {s s' : Store} {r : Request} {a : Answer}

theorem file (h : Asked scanner w root s r a s') : s'.file = s.file := by
  cases h with
  | refused | kept | failed | info => rfl
  | new _ _ _ hput => exact hput.file
  | lost | forget => exact Store.file_remove s root.text

/-- A request leaves the entries of other projects alone. -/
theorem lookup_other (h : Asked scanner w root s r a s') {key : String} (hkey : key ≠ root.text) :
    s'.entries.lookup key = s.entries.lookup key := by
  cases h with
  | refused | kept | failed | info => rfl
  | new _ _ _ hput => exact hput.other key hkey
  | lost | forget => rw [Store.entries_remove, Entries.lookup_drop_of_ne hkey]

/-- **A request depends on the entry of its own project only.** -/
theorem congr (h : Asked scanner w root s r a s') {u u' : Store} {b : Answer}
    (h' : Asked scanner w root u r b u')
    (hsame : u.entries.lookup root.text = s.entries.lookup root.text) :
    b = a ∧ u'.entries.lookup root.text = s'.entries.lookup root.text := by
  have hroutes := Store.routes?_congr hsame
  have hremoved : (u.remove root.text).entries.lookup root.text
      = (s.remove root.text).entries.lookup root.text := by
    rw [Store.entries_remove, Store.entries_remove, Entries.lookup_drop_self,
      Entries.lookup_drop_self]
  cases h with
  | refused hc =>
    cases h' with
    | refused hc' =>
      cases hc.symm.trans hc'
      exact ⟨rfl, hsame⟩
    | kept hc' _ | new hc' _ _ _ | failed hc' _ _ | lost hc' _ => cases hc.symm.trans hc'
  | kept hc hkept =>
    cases h' with
    | refused hc' => cases hc.symm.trans hc'
    | kept _ hkept' =>
      cases (hroutes.symm.trans hkept').symm.trans hkept
      exact ⟨rfl, hsame⟩
    | new _ hasked _ _ =>
      rw [hroutes, hkept] at hasked
      rcases hasked with hasked | hasked <;> cases hasked
    | failed _ hnone _ => cases (hroutes.symm.trans hnone).symm.trans hkept
  | new hc hasked hscanned hput =>
    cases h' with
    | refused hc' => cases hc.symm.trans hc'
    | kept _ hkept' =>
      rw [← hroutes, hkept'] at hasked
      rcases hasked with hasked | hasked <;> cases hasked
    | new _ _ hscanned' hput' =>
      cases hscanned.symm.trans hscanned'
      exact ⟨rfl, hput'.self.trans hput.self.symm⟩
    | failed _ _ hscanned' | lost _ hscanned' => cases hscanned.symm.trans hscanned'
  | failed hc hnone hscanned =>
    cases h' with
    | refused hc' => cases hc.symm.trans hc'
    | kept _ hkept' => cases (hroutes.symm.trans hkept').symm.trans hnone
    | new _ _ hscanned' _ => cases hscanned.symm.trans hscanned'
    | failed _ _ hscanned' =>
      cases hscanned.symm.trans hscanned'
      exact ⟨rfl, hsame⟩
  | lost hc hscanned =>
    cases h' with
    | refused hc' => cases hc.symm.trans hc'
    | new _ _ hscanned' _ => cases hscanned.symm.trans hscanned'
    | lost _ hscanned' =>
      cases hscanned.symm.trans hscanned'
      exact ⟨rfl, hremoved⟩
  | info =>
    cases h' with
    | info => exact ⟨by rw [Store.info_congr hsame], hsame⟩
  | forget =>
    cases h' with
    | forget => exact ⟨by rw [Store.contains_congr hsame], hremoved⟩

end Asked

/-! ## What the store remembers -/

/-- The entry of a project is that of its latest new table, if one stands. -/
inductive Remembered (log : List Line) (root : Place) : Option Entry → Prop
  | nothing (h : ¬ Stands log root) : Remembered log root none
  | latest {routes : List Route} {now : Moment} (h : Latest log root routes) :
      Remembered log root (some (.ofRoutes routes now))

/-- The store after the requests in the log. -/
structure Remembers (log : List Line) (s : Store) : Prop where
  file : s.file = none
  entry : ∀ root : Place, root.isProper = true →
    Remembered log root (s.entries.lookup root.text)

theorem remembers_start : Remembers [] {} where
  file := rfl
  entry _ _ := .nothing fun ⟨_, _, _, hsince⟩ => since_nil hsince

theorem not_replaces_of_ne {root : Place} {x : Line} (h : x.root ≠ root) : ¬ x.Replaces root := by
  rintro (⟨heq, _⟩ | ⟨_, heq, _⟩)
  · exact h heq
  · exact h heq

/-- A line of the log that does not replace the table of a project changes nothing for it. -/
theorem Remembered.concat {log : List Line} {root : Place} {o : Option Entry}
    (h : Remembered log root o) {x : Line} (hx : ¬ x.Replaces root) :
    Remembered (log ++ [x]) root o := by
  cases h with
  | nothing hnot =>
    refine .nothing ?_
    rintro ⟨routes, y, hnew, hsince⟩
    rcases since_concat.mp hsince with rfl | ⟨hsince, _⟩
    · exact hx (.inr ⟨routes, hnew⟩)
    · exact hnot ⟨routes, y, hnew, hsince⟩
  | latest hlatest =>
    obtain ⟨y, hnew, hsince⟩ := hlatest
    exact .latest ⟨y, hnew, since_concat.mpr (.inr ⟨hsince, hx⟩)⟩

/-- A project whose table was dropped has none. -/
theorem not_stands_concat {log : List Line} {root : Place} {x : Line} (hx : x.Drops root) :
    ¬ Stands (log ++ [x]) root := by
  rintro ⟨routes, y, ⟨_, hnew⟩, hsince⟩
  rcases since_concat.mp hsince with rfl | ⟨_, hnot⟩
  · obtain ⟨_, ⟨r, hr⟩ | ⟨_, e, _, _, he⟩⟩ := hx
    · cases hr.symm.trans hnew
    · cases he.symm.trans hnew
  · exact hnot hx

namespace Remembers

variable {scanner : Scanner} {log : List Line} {w : Workspace} {s s' : Store} {root : Place}
  {r : Request} {a : Answer}

/-- **One request.** What the store remembers is brought up to date. -/
theorem step (h : Remembers log s) (hroot : root.isProper = true)
    (ha : Asked scanner w root s r a s') : Remembers (log ++ [⟨w, root, r, a⟩]) s' where
  file := ha.file.trans h.file
  entry other hother := by
    by_cases heq : root = other
    · subst heq
      have hentry := h.entry root hother
      have hdropped : Line.Drops root ⟨w, root, r, a⟩ →
          Remembered (log ++ [⟨w, root, r, a⟩]) root
            ((s.remove root.text).entries.lookup root.text) := by
        intro hdrops
        rw [Store.entries_remove, Entries.lookup_drop_self]
        exact .nothing (not_stands_concat hdrops)
      cases ha with
      | refused hcheck =>
        refine hentry.concat ?_
        rintro (⟨_, ⟨_, hr⟩ | ⟨path, e, hr, hchecked, _⟩⟩ | ⟨_, _, hr⟩)
        · cases hr
        · cases hr
          cases hcheck.symm.trans hchecked
        · cases hr
      | kept | failed | info =>
        refine hentry.concat ?_
        rintro (⟨_, ⟨_, hr⟩ | ⟨_, _, hr, _⟩⟩ | ⟨_, _, hr⟩) <;> cases hr
      | new _ _ _ hput =>
        rw [hput.self]
        exact .latest ⟨_, ⟨rfl, rfl⟩, since_concat.mpr (.inl rfl)⟩
      | lost hcheck _ => exact hdropped ⟨rfl, .inr ⟨_, _, rfl, hcheck, rfl⟩⟩
      | forget => exact hdropped ⟨rfl, .inl ⟨_, rfl⟩⟩
    · have hkey : other.text ≠ root.text :=
        fun htext => heq (Place.text_injective hroot hother htext.symm)
      rw [ha.lookup_other hkey]
      exact (h.entry other hother).concat (not_replaces_of_ne heq)

/-- What the store says about a project: nothing, or its latest table. -/
theorem cases_entry (h : Remembers log s) (hroot : root.isProper = true) :
    (¬ Stands log root ∧ s.routes? root.text = none ∧ s.contains root.text = false) ∨
      ∃ routes, Stands log root ∧ Latest log root routes ∧
        s.routes? root.text = some routes ∧ s.contains root.text = true := by
  have hentry := h.entry root hroot
  rw [Store.routes?_eq, Store.contains]
  generalize s.entries.lookup root.text = o at hentry
  cases hentry with
  | nothing hnot => exact .inl ⟨hnot, rfl, rfl⟩
  | latest hlatest =>
    obtain ⟨x, hnew, hsince⟩ := hlatest
    refine .inr ⟨_, ⟨_, x, hnew, hsince.imp fun _ => .inl⟩, ⟨x, hnew, hsince⟩, ?_, rfl⟩
    exact Entry.routes?_ofRoutes _ _

theorem follows (h : Remembers log s) (hroot : root.isProper = true)
    (ha : Asked scanner w root s r a s') : Line.Follows scanner log ⟨w, root, r, a⟩ := by
  have hentry := h.cases_entry hroot
  unfold Line.Follows
  cases ha with
  | refused hc => exact .inl hc
  | kept _ hkept =>
    rcases hentry with ⟨_, hnone, _⟩ | ⟨routes, hstands, hlatest, hroutes, _⟩
    · cases hnone.symm.trans hkept
    · cases hroutes.symm.trans hkept
      exact ⟨rfl, ⟨fun _ => ⟨rfl, hstands⟩, fun _ => rfl⟩, fun _ => hlatest⟩
  | new _ hasked _ _ =>
    refine ⟨rfl, ⟨nofun, ?_⟩, nofun⟩
    rintro ⟨hrefresh, hstands⟩
    rcases hentry with ⟨hnot, _⟩ | ⟨routes, _, _, hroutes, _⟩
    · exact absurd hstands hnot
    · rw [hrefresh, hroutes] at hasked
      rcases hasked with hasked | hasked <;> cases hasked
  | failed hc hnone hscanned =>
    rcases hentry with ⟨hnot, _⟩ | ⟨routes, _, _, hroutes, _⟩
    · exact .inr ⟨.inr hnot, hc, hscanned⟩
    · cases hroutes.symm.trans hnone
  | lost hc hscanned => exact .inr ⟨.inl rfl, hc, hscanned⟩
  | info =>
    unfold Store.info
    rcases hentry with ⟨hnot, hnone, _⟩ | ⟨routes, hstands, hlatest, hroutes, _⟩
    · rw [hnone]
      exact ⟨⟨nofun, fun hstands => absurd hstands hnot⟩, nofun⟩
    · rw [hroutes]
      exact ⟨⟨fun _ => hstands, fun _ => rfl⟩, fun _ => ⟨routes, hlatest, rfl⟩⟩
  | forget =>
    rcases hentry with ⟨hnot, _, hcontains⟩ | ⟨_, hstands, _, _, hcontains⟩
    · rw [hcontains]
      exact ⟨nofun, fun hstands => absurd hstands hnot⟩
    · rw [hcontains]
      exact ⟨fun _ => hstands, fun _ => rfl⟩

end Remembers

/-! ## Whole sessions -/

section Sessions

variable {scanner : Scanner} {w : Workspace}

theorem Session.isProper_of_root? (hw : w.isProper = true) {c : Cache} {r : Request} {root : Place}
    (h : Session.root? ⟨w, c⟩ r = some root) : root.isProper = true :=
  Project.isProper_of_rootOf hw (Session.rootOf_of_root? h)

/-- What a request does to a session with a store in memory: nothing, if it is about no project, and
    else one line is added to the log. -/
theorem Session.step_request (scanner : Scanner) (w : Workspace) {s : Store} (hs : s.file = none)
    (r : Request) :
    (Session.root? ⟨w, .shared s⟩ r = none ∧
      Session.line? scanner ⟨w, .shared s⟩ (.request r) = none ∧
      (Session.step scanner ⟨w, .shared s⟩ (.request r)).2 = ⟨w, .shared s⟩) ∨
    ∃ root a s', Session.root? ⟨w, .shared s⟩ r = some root ∧
      Session.line? scanner ⟨w, .shared s⟩ (.request r) = some ⟨w, root, r, a⟩ ∧
      (Session.step scanner ⟨w, .shared s⟩ (.request r)).2 = ⟨w, .shared s'⟩ ∧
      Asked scanner w root s r a s' := by
  cases hroot : Session.root? ⟨w, .shared s⟩ r with
  | none =>
    refine .inl ⟨rfl, ?_, Session.answer_of_root?_eq_none scanner hroot⟩
    rw [Session.line?, hroot]
    rfl
  | some root =>
    obtain ⟨a, s', hanswer, ha⟩ := Session.asked scanner hs hroot
    refine .inr ⟨root, a, s', rfl, ?_, ?_, ha⟩
    · rw [Session.line?, hroot, hanswer]
      rfl
    · rw [Session.step, hanswer]

/-- **Every line follows from those before it**, by induction on the events. -/
theorem Remembers.follows_of_log {done : List Line} {s : Store} (h : Remembers done s)
    (hw : w.isProper = true) {acts : List Act} {before later : List Line} {x : Line}
    (hlog : Session.log scanner ⟨w, .shared s⟩ acts = before ++ x :: later) :
    x.Follows scanner (done ++ before) := by
  induction acts generalizing w done s before with
  | nil => exact absurd hlog.symm (by simp [Session.log])
  | cons a acts ih =>
    rw [Session.log] at hlog
    cases a with
    | edit e => exact ih h (Workspace.isProper_edit hw e) hlog
    | request r =>
      rcases Session.step_request scanner w h.file r with
        ⟨_, hline, hstep⟩ | ⟨root, a, s', hroot, hline, hstep, ha⟩
      · rw [hline, hstep] at hlog
        exact ih h hw hlog
      · have hproper := Session.isProper_of_root? hw hroot
        rw [hline, hstep] at hlog
        cases before with
        | nil =>
          obtain ⟨rfl, _⟩ := List.cons.inj hlog
          rw [List.append_nil]
          exact h.follows hproper ha
        | cons y before =>
          obtain ⟨rfl, hrest⟩ := List.cons.inj hlog
          have hfollows := ih (h.step hproper ha) hw hrest
          rwa [List.append_assoc] at hfollows

/-- Two stores with the same entry for a project give the same answers about it, whatever else is
    asked of one of them. -/
theorem filter_log {root : Place} {s u : Store} (hw : w.isProper = true) (hs : s.file = none)
    (hu : u.file = none)
    (hsame : root.isProper = true → u.entries.lookup root.text = s.entries.lookup root.text)
    (acts : List Act) :
    (Session.log scanner ⟨w, .shared s⟩ acts).filter (·.root = root)
      = Session.log scanner ⟨w, .shared u⟩ (Session.about scanner root ⟨w, .shared s⟩ acts) := by
  induction acts generalizing w s u with
  | nil => rfl
  | cons a acts ih =>
    rw [Session.log, Session.about]
    cases a with
    | edit e => exact ih (Workspace.isProper_edit hw e) hs hu hsame
    | request r =>
      rcases Session.step_request scanner w hs r with
        ⟨hroot, hline, hstep⟩ | ⟨place, a, s', hroot, hline, hstep, ha⟩
      · have hother : Session.concerns ⟨w, .shared s⟩ root (.request r) = false := by
          simp [Session.concerns, hroot]
        rw [hother, hline, hstep]
        exact ih hw hs hu hsame
      · rw [hline, hstep, Option.toList_some, List.singleton_append]
        by_cases heq : place = root
        · subst heq
          have hproper := Session.isProper_of_root? hw hroot
          have hours : Session.concerns ⟨w, .shared s⟩ place (.request r) = true := by
            simp [Session.concerns, hroot]
          rw [hours, if_pos rfl, List.filter_cons_of_pos (by simp), Session.log]
          -- the other store is asked the same
          rcases Session.step_request scanner w hu r with
            ⟨hnone, _, _⟩ | ⟨_, b, u', hsome, hline', hstep', hb⟩
          · cases hroot.symm.trans hnone
          · cases hroot.symm.trans hsome
            obtain ⟨rfl, hafter⟩ := ha.congr hb (hsame hproper)
            rw [hline', hstep', Option.toList_some, List.singleton_append,
              ih hw (ha.file.trans hs) (hb.file.trans hu) fun _ => hafter]
        · have hother : Session.concerns ⟨w, .shared s⟩ root (.request r) = false := by
            simp [Session.concerns, hroot, heq]
          rw [hother, List.filter_cons_of_neg (by simp [heq])]
          refine ih hw (ha.file.trans hs) hu ?_
          intro hproper
          have hkey : root.text ≠ place.text := fun htext =>
            heq (Place.text_injective hproper (Session.isProper_of_root? hw hroot) htext).symm
          rw [ha.lookup_other hkey]
          exact hsame hproper

end Sessions

/-- **Kept answers are the last new answers.** Whatever is asked about whatever projects, and whatever
    happens to the files in between, every answer about a project is the one that the log before it
    calls for. And the answers about a project are the same when nothing is asked about others. -/
theorem answers_follow_history (scanner : Scanner) {w : Workspace} (hw : w.isProper = true)
    (acts : List Act) :
    (∀ before x later, Session.log scanner ⟨w, .shared {}⟩ acts = before ++ x :: later →
      x.Follows scanner before) ∧
    ∀ root, (Session.log scanner ⟨w, .shared {}⟩ acts).filter (·.root = root)
      = Session.log scanner ⟨w, .shared {}⟩ (Session.about scanner root ⟨w, .shared {}⟩ acts) :=
  ⟨fun _ _ _ hlog => remembers_start.follows_of_log hw hlog,
    fun _ => filter_log hw rfl rfl (fun _ => rfl) acts⟩

/-- A project is scanned, a source becomes a link to itself, a new table is asked for and cannot be had,
    and the link goes away. Nothing was dropped on request, and still the next table is a new one. -/
theorem answers_follow_history_shop :
    let w : Workspace :=
      { tree := .dir [("shop", .dir []), ("bank", .dir [])]
        cwd := some ["shop"]
        home := ["home"]
        now := { year := 2024, month := 1, day := 1 } }
    let acts : List Act :=
      [.request (.scan (some "/shop") false),
       .request (.scan (some "../bank") true),
       .edit (.put ["shop", "L.java"] .loop),
       .request (.scan none true),
       .edit (.remove ["shop", "L.java"]),
       .request (.info (some "/bank")),
       .request (.scan none false)]
    w.isProper = true ∧
      Session.answers Scan.standard ⟨w, .shared {}⟩ acts =
        [.table (.ok ⟨["shop"], [], false⟩),
         .table (.ok ⟨["bank"], [], false⟩),
         .table (.error (.linkLoop "/shop/L.java")),
         .info (.ok { hasCache := true, root := some "/bank", count := 0, time := some w.now, age := 0 }),
         .table (.ok ⟨["shop"], [], false⟩)] ∧
      (∀ before x later,
        Session.log Scan.standard ⟨w, .shared {}⟩ acts = before ++ x :: later →
          x.Follows Scan.standard before) ∧
      ∀ root, (Session.log Scan.standard ⟨w, .shared {}⟩ acts).filter (·.root = root)
        = Session.log Scan.standard ⟨w, .shared {}⟩
            (Session.about Scan.standard root ⟨w, .shared {}⟩ acts) := by
  intro w acts
  have hw : w.isProper = true := by decide +kernel
  exact ⟨hw, by decide +kernel, answers_follow_history Scan.standard hw acts⟩

end SpringRoutes
