import SpringRoutes.Proofs.SettingsContents
import SpringRoutes.Proofs.TextForms

/-!
# `SpringRoutes.Proofs.UsableSettings` — settings that are given can be used

Values of every type are read leniently, and what cannot be read gives way to a default. Whatever document
gives settings, they can be used (`IsUsable`): there is an extension, the extensions are clean and differ,
the number of workers is positive if there is one, and there is a root marker.

A clean extension starts with its dot, ends with no blank and has no capitals, and so **cleaning it again
changes nothing** (`cleanExtension_of_eq_some`). Of a list, cleaning keeps the first occurrence of each
(`firstOccurrences_of_nodup`).

The only document that is refused for its number of workers is one that has a number below one, read
leniently too. It is not refused for that reason, though, if its list of extensions has a number too long
to be written, since the extensions are read first (`ofValue_eq_workers_iff`).
-/

namespace SpringRoutes

open Text

namespace Settings

/-! ## Each once -/

theorem mem_firstOccurrences {seen xs : List String} {x : String} :
    x ∈ firstOccurrences seen xs ↔ x ∈ xs ∧ x ∉ seen := by
  fun_induction firstOccurrences seen xs with
  | case1 seen => simp
  | case2 seen y ys hy ih =>
    rw [ih, List.mem_cons]
    constructor
    · exact fun ⟨hx, hnot⟩ => ⟨.inr hx, hnot⟩
    · rintro ⟨rfl | hx, hnot⟩
      · exact absurd hy hnot
      · exact ⟨hx, hnot⟩
  | case3 seen y ys hy ih =>
    rw [List.mem_cons, ih, List.mem_cons, List.mem_cons]
    by_cases hxy : x = y
    · simp [hxy, hy]
    · simp [hxy]

theorem nodup_firstOccurrences (seen xs : List String) : (firstOccurrences seen xs).Nodup := by
  fun_induction firstOccurrences seen xs with
  | case1 seen => exact List.nodup_nil
  | case2 seen y ys hy ih => exact ih
  | case3 seen y ys hy ih =>
    refine List.nodup_cons.mpr ⟨fun hmem => ?_, ih⟩
    exact (mem_firstOccurrences.mp hmem).2 (List.mem_cons_self ..)

/-- A list without repetitions stays as it is. -/
theorem firstOccurrences_of_nodup {seen xs : List String} (h : xs.Nodup)
    (hseen : ∀ x ∈ xs, x ∉ seen) : firstOccurrences seen xs = xs := by
  fun_induction firstOccurrences seen xs with
  | case1 seen => rfl
  | case2 seen y ys hy ih => exact absurd hy (hseen y (List.mem_cons_self ..))
  | case3 seen y ys hy ih =>
    obtain ⟨hnot, hys⟩ := List.nodup_cons.mp h
    rw [ih hys]
    intro x hx
    rw [List.mem_cons, not_or]
    refine ⟨?_, hseen x (List.mem_cons_of_mem _ hx)⟩
    rintro rfl
    exact hnot hx

/-! ## Clean extensions -/

theorem cleanExtension_eq_some {s e : String} (h : cleanExtension s = some e) :
    ∃ r, e = String.ofList ('.' :: r) ∧
      (lower (trim s.toList) = '.' :: r ∨ lower (trim s.toList) = r) := by
  unfold cleanExtension at h
  split at h
  · cases h
  · next r hlower =>
    cases h
    exact ⟨r, rfl, .inl hlower⟩
  · cases h
    exact ⟨_, rfl, .inr rfl⟩

/-- A text with a dot in front, in lower case and without a blank at the end, is clean. -/
theorem cleanExtension_ofList {r : List Char} (hlower : ∀ c ∈ r, IsLower c)
    (hend : r.getLast?.any isBlank = false) :
    cleanExtension (String.ofList ('.' :: r)) = some (String.ofList ('.' :: r)) := by
  have hdot : IsLower '.' := by decide +kernel
  have htrim : trim ('.' :: r) = '.' :: r := by
    rw [trim, trimStart_cons (by decide), trimEnd_eq_self_iff]
    cases r with
    | nil => decide
    | cons c r => simpa using hend
  have hself : lower ('.' :: r) = '.' :: r := lower_of_forall (List.forall_mem_cons.mpr ⟨hdot, hlower⟩)
  simp only [cleanExtension, String.toList_ofList, htrim, hself]

/-- **Cleaning a clean extension changes nothing.** -/
theorem cleanExtension_of_eq_some {s e : String} (h : cleanExtension s = some e) :
    cleanExtension e = some e := by
  obtain ⟨r, rfl, hr⟩ := cleanExtension_eq_some h
  have hend : (lower (trim s.toList)).getLast?.any isBlank = false :=
    getLast?_lower (getLast?_trim s.toList)
  have hlower : ∀ c ∈ lower (trim s.toList), IsLower c := fun c => isLower_of_mem_lower
  rcases hr with hr | hr
  · rw [hr] at hend hlower
    refine cleanExtension_ofList (List.forall_mem_cons.mp hlower).2 ?_
    cases r with
    | nil => rfl
    | cons c r => simpa using hend
  · rw [hr] at hend hlower
    exact cleanExtension_ofList hlower hend

/-- A list of extensions that can be used: there is one, and all are clean and different. -/
structure AreClean (extensions : List String) : Prop where
  ne_nil : extensions ≠ []
  nodup : extensions.Nodup
  dotted : ∀ e ∈ extensions, ['.'] <+: e.toList
  stable : cleanExtensions extensions = extensions

theorem areClean_cleanExtensions {values : List String} (hne : cleanExtensions values ≠ []) :
    AreClean (cleanExtensions values) := by
  have hclean : ∀ e ∈ cleanExtensions values, ∃ s, cleanExtension s = some e := by
    intro e he
    obtain ⟨s, _, hs⟩ := List.mem_filterMap.mp (mem_firstOccurrences.mp he).1
    exact ⟨s, hs⟩
  have hnodup : (cleanExtensions values).Nodup := nodup_firstOccurrences _ _
  refine ⟨hne, hnodup, ?_, ?_⟩
  · intro e he
    obtain ⟨s, hs⟩ := hclean e he
    obtain ⟨r, rfl, _⟩ := cleanExtension_eq_some hs
    rw [String.toList_ofList]
    exact ⟨r, rfl⟩
  · have hfilter : (cleanExtensions values).filterMap cleanExtension = cleanExtensions values := by
      rw [List.filterMap_congr (g := some), List.filterMap_some]
      intro e he
      obtain ⟨s, hs⟩ := hclean e he
      exact cleanExtension_of_eq_some hs
    rw [cleanExtensions, hfilter]
    exact firstOccurrences_of_nodup hnodup (by simp)

theorem areClean_default : AreClean defaultExtensions :=
  ⟨by decide, by decide, by decide, by decide +kernel⟩

/-! ## Settings from documents -/

/-- Settings that can be used. -/
structure IsUsable (s : Settings) : Prop where
  extensions : AreClean s.extensions
  workers : ∀ n ∈ s.workers, 1 ≤ n
  rootMarkers : s.rootMarkers ≠ []

theorem orDefault_ne_nil (xs : List String) {default : List String} (h : default ≠ []) :
    orDefault xs default ≠ [] := by
  unfold orDefault
  split
  · exact h
  · next hne => simpa using hne

theorem areClean_orDefault (values : List String) :
    AreClean (orDefault (cleanExtensions values) defaultExtensions) := by
  unfold orDefault
  split
  · exact areClean_default
  · next hne => exact areClean_cleanExtensions (by simpa using hne)

theorem isUsable_default (root : String) : IsUsable { root } :=
  ⟨areClean_default, by simp, by simp [defaultRootMarkers]⟩

/-- The scan settings of a document ask for less than one worker. -/
def AsksForNone (v : Yaml.Value) : Prop :=
  ∃ entries scan x n, v = .mapping entries ∧ v.get? "scan" = some (.mapping scan) ∧
    (Yaml.Value.mapping scan).get? "workers" = some x ∧ integer? x = some n ∧ n < 1

/-- The list of extensions has an integer with too many digits to be written. -/
def ListsLongNumber (v : Yaml.Value) : Prop :=
  ∃ items n, (v.get? "scan").bind (·.get? "extensions") = some (.sequence items) ∧ .int n ∈ items ∧
    Integer.maxDigits < (Nat.toDigits 10 n.natAbs).length

/-- Only mappings have values of keys. -/
theorem exists_mapping_of_get? {v w : Yaml.Value} {key : String} (h : v.get? key = some w) :
    ∃ entries, v = .mapping entries := by
  unfold Yaml.Value.get? at h
  split at h
  · next entries => exact ⟨entries, rfl⟩
  · cases h

theorem isWritable_extensions_iff (v : Yaml.Value) :
    isWritable ((((v.get? "scan").getD .null).get? "extensions").getD .null) = false ↔
      ListsLongNumber v := by
  constructor
  · intro h
    obtain ⟨items, n, hitems, hn, hlong⟩ := exists_of_not_isWritable h
    refine ⟨items, n, ?_, hn, hlong⟩
    cases hscan : v.get? "scan" with
    | none =>
      rw [hscan] at hitems
      cases hitems
    | some scan =>
      rw [hscan, Option.getD_some] at hitems
      cases hext : scan.get? "extensions" with
      | none =>
        rw [hext] at hitems
        cases hitems
      | some u =>
        rw [hext, Option.getD_some] at hitems
        rw [Option.bind_some, hext, hitems]
  · rintro ⟨items, n, hitems, hn, hlong⟩
    obtain ⟨scan, hscan, hext⟩ := Option.bind_eq_some_iff.mp hitems
    rw [hscan, Option.getD_some, hext, Option.getD_some, isWritable, List.all_eq_false]
    exact ⟨_, hn, by simpa using hlong⟩

theorem any_workers_iff (entries : List (Yaml.Value × Yaml.Value)) :
    ((((Yaml.Value.mapping entries).get? "scan").getD .null).get? "workers" |>.bind integer?).any
        (· < 1) = true ↔ AsksForNone (.mapping entries) := by
  rw [Option.any_eq_true]
  constructor
  · rintro ⟨n, hn, hlt⟩
    obtain ⟨x, hx, hint⟩ := Option.bind_eq_some_iff.mp hn
    obtain ⟨scan, hscan⟩ := exists_mapping_of_get? hx
    rw [hscan] at hx
    cases hget : (Yaml.Value.mapping entries).get? "scan" with
    | none =>
      rw [hget] at hscan
      cases hscan
    | some u =>
      rw [hget, Option.getD_some] at hscan
      subst hscan
      exact ⟨entries, scan, x, n, rfl, hget, hx, hint, of_decide_eq_true hlt⟩
  · rintro ⟨_, scan, x, n, _, hscan, hx, hint, hlt⟩
    refine ⟨n, ?_, decide_eq_true hlt⟩
    rw [hscan, Option.getD_some, hx, Option.bind_some, hint]

/-- **The documents that are refused for their number of workers.** -/
theorem ofValue_eq_workers_iff (root : String) (v : Yaml.Value) :
    ofValue root v = .error (.fault .workers) ↔ AsksForNone v ∧ ¬ ListsLongNumber v := by
  unfold ofValue
  split
  · next entries =>
    rw [← any_workers_iff, ← isWritable_extensions_iff, Bool.not_eq_false]
    dsimp only
    split
    · next hlong =>
      rw [Bool.not_eq_true'] at hlong
      simp [hlong]
    · next hshort =>
      rw [Bool.not_eq_true', Bool.not_eq_false] at hshort
      split
      · next hworkers => simp [hworkers, hshort]
      · next hworkers =>
        refine iff_of_false ?_ fun h => hworkers h.1
        split <;> simp
  · next hmapping =>
    refine iff_of_false (by simp) ?_
    rintro ⟨⟨entries, _, _, _, rfl, _⟩, _⟩
    exact hmapping entries rfl

/-- **Settings that a document gives can be used.** -/
theorem isUsable_of_ofValue {root : String} {v : Yaml.Value} {s : Settings}
    (h : ofValue root v = .ok s) : IsUsable s := by
  unfold ofValue at h
  split at h
  · dsimp only at h
    split at h
    · cases h
    · split at h
      · cases h
      · next hworkers =>
        split at h
        · cases h
        · cases h
          refine ⟨areClean_orDefault _, ?_, orDefault_ne_nil _ (by simp [defaultRootMarkers])⟩
          intro n hn
          refine Int.not_lt.mp fun hlt => hworkers ?_
          exact (Option.any_eq_true _ _).mpr ⟨n, hn, decide_eq_true hlt⟩
  · cases h

/-! ## Loading -/

/-- Whether a failure is about the values of settings. -/
def isValueFailure : Failure → Bool
  | .settings (.value _) => true
  | _ => false

section Failures

variable {w : Workspace} {p : WrittenPath} {e : Failure}

theorem isValueFailure_of_expand (h : w.expand p = .error e) : isValueFailure e = false := by
  unfold Workspace.expand at h
  split at h
  · split at h
    · cases h
    · split at h <;> cases h
      rfl
  · cases h

theorem isValueFailure_of_reach {q : Place} (h : w.reach q = .error e) : isValueFailure e = false := by
  unfold Workspace.reach at h
  split at h
  · cases h
    rfl
  · cases h

theorem isValueFailure_of_resolve (h : w.resolve p = .error e) : isValueFailure e = false := by
  unfold Workspace.resolve at h
  cases hnull : p.hasNull with
  | true =>
    rw [hnull] at h
    cases h
    rfl
  | false =>
    rw [hnull] at h
    -- the current directory may be missing, which an absolute path does not need
    unfold Workspace.currentPlace at h
    cases habs : p.isAbsolute with
    | true =>
      rw [habs] at h
      exact isValueFailure_of_reach h
    | false =>
      rw [habs] at h
      cases hcwd : w.cwd with
      | none =>
        rw [hcwd] at h
        cases h
        rfl
      | some here =>
        rw [hcwd] at h
        exact isValueFailure_of_reach h

theorem isValueFailure_of_place (h : place w p = .error e) : isValueFailure e = false := by
  unfold place at h
  cases hq : w.expand p with
  | error f =>
    rw [hq] at h
    cases h
    exact isValueFailure_of_expand hq
  | ok q =>
    rw [hq] at h
    exact isValueFailure_of_resolve h

theorem isValueFailure_of_readText (h : w.readText p = .error e) : isValueFailure e = false := by
  unfold Workspace.readText at h
  cases hread : w.read p with
  | ok c =>
    rw [hread] at h
    simp only [Bind.bind, Except.bind] at h
    split at h <;> cases h
    rfl
  | error f =>
    rw [hread] at h
    cases h
    unfold Workspace.read Workspace.fault at hread
    split at hread
    · cases hread
      rfl
    · split at hread <;> cases hread <;> rfl

theorem isValueFailure_of_readValue (h : readValue w p = .error e) : isValueFailure e = false := by
  cases htext : w.readText p with
  | error f =>
    have hf := isValueFailure_of_readText htext
    unfold readValue at h
    rw [htext] at h
    split at h
    · cases h
      rfl
    · next heq =>
      cases h
      cases heq
      exact hf
    · next heq => cases heq
  | ok text =>
    rcases readValue_of_text htext with ⟨v, _, hv⟩ | ⟨f, _, _, hf⟩
    · rw [hv] at h
      cases h
    · rw [hf] at h
      cases h
      split <;> rfl

end Failures

/-- The failure to load settings from a document that is refused. -/
def Refusal.failure : Refusal → Failure
  | .fault f => .settings (.value f)
  | .longNumber => .longNumber none

theorem mapError_failure_eq_workers_iff {given : Except Refusal Settings} :
    given.mapError Refusal.failure = .error (.settings (.value .workers)) ↔
      given = .error (.fault .workers) := by
  cases given with
  | ok s => simp [Except.mapError]
  | error r => cases r <;> simp [Except.mapError, Refusal.failure]

/-- What a settings file gives is what its document gives. -/
theorem load_of_readValue {w : Workspace} {p : WrittenPath} {file : Place} {v : Yaml.Value}
    (hplace : place w p = .ok file) (hentry : w.hasEntry file.path = true)
    (hread : readValue w file.path = .ok v) :
    load w p = (ofValue (Place.text file.dropLast) v).mapError Refusal.failure := by
  unfold load
  rw [hplace]
  simp only [Bind.bind, Except.bind, hentry, if_true, hread]
  cases ofValue (Place.text file.dropLast) v with
  | ok s => rfl
  | error r => cases r <;> rfl

/-- Loading gives the default settings, or what a document gives, or fails for another reason than the
    values of a document. -/
theorem load_cases (w : Workspace) (p : WrittenPath) :
    (∃ root, load w p = .ok { root }) ∨ (∃ e, load w p = .error e ∧ isValueFailure e = false) ∨
      ∃ file v, place w p = .ok file ∧ w.hasEntry file.path = true ∧ readValue w file.path = .ok v := by
  cases hplace : place w p with
  | error e =>
    refine .inr (.inl ⟨e, ?_, isValueFailure_of_place hplace⟩)
    unfold load
    rw [hplace]
    rfl
  | ok file =>
    cases hentry : w.hasEntry file.path with
    | false =>
      refine .inl ⟨Place.text file.dropLast, ?_⟩
      unfold load
      rw [hplace]
      simp [Bind.bind, Except.bind, hentry]
    | true =>
      cases hread : readValue w file.path with
      | error e =>
        refine .inr (.inl ⟨e, ?_, isValueFailure_of_readValue hread⟩)
        unfold load
        rw [hplace]
        simp [Bind.bind, Except.bind, hentry, hread]
      | ok v => exact .inr (.inr ⟨file, v, rfl, hentry, hread⟩)

theorem isUsable_of_load {w : Workspace} {p : WrittenPath} {s : Settings} (h : load w p = .ok s) :
    IsUsable s := by
  rcases load_cases w p with ⟨root, hload⟩ | ⟨e, hload, _⟩ | ⟨file, v, hplace, hentry, hread⟩
  · rw [hload] at h
    cases h
    exact isUsable_default root
  · rw [hload] at h
    cases h
  · rw [load_of_readValue hplace hentry hread] at h
    cases hgiven : ofValue (Place.text file.dropLast) v with
    | ok s' =>
      rw [hgiven] at h
      cases h
      exact isUsable_of_ofValue hgiven
    | error r =>
      rw [hgiven] at h
      cases h

/-- A path is refused for its number of workers when the document of its settings file is. -/
theorem load_eq_workers_iff (w : Workspace) (p : WrittenPath) :
    load w p = .error (.settings (.value .workers)) ↔
      ∃ file v, place w p = .ok file ∧ w.hasEntry file.path = true ∧ readValue w file.path = .ok v ∧
        AsksForNone v ∧ ¬ ListsLongNumber v := by
  constructor
  · intro h
    rcases load_cases w p with ⟨_, hload⟩ | ⟨e, hload, hother⟩ | ⟨file, v, hplace, hentry, hread⟩
    · rw [hload] at h
      cases h
    · rw [hload] at h
      cases h
      cases hother
    · refine ⟨file, v, hplace, hentry, hread, ?_⟩
      rw [load_of_readValue hplace hentry hread] at h
      exact (ofValue_eq_workers_iff _ v).mp (mapError_failure_eq_workers_iff.mp h)
  · rintro ⟨file, v, hplace, hentry, hread, hasks⟩
    rw [load_of_readValue hplace hentry hread, (ofValue_eq_workers_iff _ v).mpr hasks]
    rfl

/-- **Settings that are given can be used, whatever gives them.** The number of workers is the reason of a
    refusal exactly when it is below one, and no number among the extensions is too long to be written.
    The same holds for every document and for every settings file. -/
theorem usable_or_refused (root : String) (v : Yaml.Value) (w : Workspace) (p : WrittenPath) :
    (∀ s, ofValue root v = .ok s → IsUsable s) ∧
    (ofValue root v = .error (.fault .workers) ↔ AsksForNone v ∧ ¬ ListsLongNumber v) ∧
    (∀ s, load w p = .ok s → IsUsable s) ∧
    (load w p = .error (.settings (.value .workers)) ↔
      ∃ file v, place w p = .ok file ∧ w.hasEntry file.path = true ∧ readValue w file.path = .ok v ∧
        AsksForNone v ∧ ¬ ListsLongNumber v) := by
  refine ⟨?_, ofValue_eq_workers_iff root v, ?_, load_eq_workers_iff w p⟩
  · intro s hgiven
    exact isUsable_of_ofValue hgiven
  · intro s hload
    exact isUsable_of_load hload

/-- A truth value is no number of workers. Extensions with a repetition and with capitals are read for use,
    and beside them a number of workers that a text writes is refused. -/
theorem usable_or_refused_shop :
    let w : Workspace :=
      { tree := .dir
          [("shop", .dir
             [(fileName, .file (.text "scan:\n  extensions: [java, .KT, .Java ]\n  workers: 2\n"))]),
           ("web", .dir [(fileName, .file (.text "scan:\n  workers: '-1_0'\n"))])]
        cwd := none
        home := ["home"]
        now := { year := 2024, month := 1, day := 1 } }
    let shop : Settings := { root := "/shop", extensions := [".java", ".kt"], workers := some 2 }
    let quick := Yaml.Value.mapping [(.text "scan", .mapping [(.text "workers", .bool false)])]
    ofValue "/" quick = .ok { root := "/" } ∧ IsUsable { root := "/" } ∧
      load w (Place.path ["shop"]) = .ok shop ∧ IsUsable shop ∧
      load w (Place.path ["web"]) = .error (.settings (.value .workers)) ∧
      ∃ v, readValue w (Place.path ["web", fileName]) = .ok v ∧ AsksForNone v := by
  intro w shop quick
  have hquick : ofValue "/" quick = .ok { root := "/" } := by decide +kernel
  have hshop : load w (Place.path ["shop"]) = .ok shop := by decide +kernel
  have hweb : load w (Place.path ["web"]) = .error (.settings (.value .workers)) := by decide +kernel
  have hplace : place w (Place.path ["web"]) = .ok ["web", fileName] := by decide +kernel
  obtain ⟨husable, _, hload, _⟩ := usable_or_refused "/" quick w (Place.path ["shop"])
  obtain ⟨_, _, _, hworkers⟩ := usable_or_refused "/" quick w (Place.path ["web"])
  obtain ⟨file, v, hfile, _, hread, hasks, _⟩ := hworkers.mp hweb
  refine ⟨hquick, husable _ hquick, hshop, hload shop hshop, hweb, v, ?_, hasks⟩
  rw [hplace] at hfile
  cases hfile
  exact hread

-- a number that is too long among the extensions, read before the number of workers
example :
    let scan := Yaml.Value.mapping
      [(.text "workers", .int 0), (.text "extensions", .sequence [.int (10 ^ 4300)])]
    ofValue "/" (.mapping [(.text "scan", scan)]) = .error .longNumber := by
  decide +kernel

end Settings

end SpringRoutes
