import SpringRoutes.Proofs.JsonKeys
import SpringRoutes.Proofs.ScanReads
import SpringRoutes.Proofs.Sorting

/-!
# `SpringRoutes.Proofs.StoreFile` — the file of a store gives its entries back

A store in memory holds its entries in any order, each of them in canonical form (`Store.Settled`).
Its document has them in the order of their keys (`toJson_eq_document`), and such a document gives
its entries back when it can be written (`Store.Keeps`, `load_of_read`, by `Json.parse_render`).
What the store takes in is in canonical form: the entry of a scan (`settled_ofRoutes`) and the
entries of any document (`settled_entriesOf`).

A document is read with room for so many open brackets, and two of them stand around its entries
(`Platform.entryRoom`). An entry that was read fits into what is left, and the entry of a scan does,
since every platform has room for it.
-/

namespace SpringRoutes

/-! ## Documents of stores -/

/-- How many brackets may be open at once in an entry of a store. -/
def Platform.entryRoom (p : Platform) : Nat :=
  p.jsonDepth - 2

theorem Platform.jsonDepth_eq (p : Platform) : p.jsonDepth = p.entryRoom + 2 := by
  have h := p.five_le_jsonDepth
  unfold entryRoom
  omega

theorem Platform.exists_entryRoom_eq (p : Platform) : ∃ more, p.entryRoom = more + 3 := by
  have h := p.five_le_jsonDepth
  exact ⟨p.jsonDepth - 5, by unfold entryRoom; omega⟩

namespace Store

/-- An entry as a store holds it: its keys are in order, its numbers are integers, there is room for
    its brackets, and it has what an entry needs. -/
structure Entry.Settled (room : Nat) (e : Entry) : Prop where
  ordered : Json.IsOrdered (.object e)
  integral : Json.isIntegral (.object e) = true
  nested : (Json.object e).nestsIn room = true
  valid : e.isValid = true

/-- The entries of a store in memory: no key comes twice. -/
structure Settled (room : Nat) (es : List (String × Entry)) : Prop where
  distinct : (es.map (·.1)).Nodup
  entries : ∀ e ∈ es, e.2.Settled room

/-- An entry that a file gives back as it is. -/
structure Entry.Keeps (room : Nat) (e : Entry) : Prop where
  plain : Json.IsPlain (.object e)
  ordered : Json.IsOrdered (.object e)
  nested : (Json.object e).nestsIn room = true
  valid : e.isValid = true

/-- Entries that a file gives back as they are. -/
structure Keeps (room : Nat) (es : List (String × Entry)) : Prop where
  sorted : es.Pairwise (·.1 < ·.1)
  entries : ∀ e ∈ es, e.2.Keeps room

section Documents

variable {room : Nat}

theorem keeps_nil : Keeps room [] where
  sorted := .nil
  entries _ he := absurd he List.not_mem_nil

theorem keeps_singleton {e : Entry} (key : String) (h : e.Keeps room) : Keeps room [(key, e)] where
  sorted := List.pairwise_singleton _ _
  entries d hd := by
    rw [List.mem_singleton.mp hd]
    exact h

theorem Entry.Settled.keeps {e : Entry} (h : e.Settled room)
    (hwritable : (Json.object e).isWritable = true) : e.Keeps room where
  plain := Json.isPlain_iff.mpr ⟨Json.isDistinct_of_isOrdered h.ordered, h.integral, hwritable⟩
  ordered := h.ordered
  nested := h.nested
  valid := h.valid

theorem Keeps.settled {es : List (String × Entry)} (h : Keeps room es) : Settled room es where
  distinct := Entries.nodup_of_sorted h.sorted
  entries e he :=
    have hk := h.entries e he
    ⟨hk.ordered, (Json.isPlain_iff.mp hk.plain).2.1, hk.nested, hk.valid⟩

/-- Entries in the order of their keys. -/
def inOrder (es : List (String × Entry)) : List (String × Entry) :=
  es.mergeSort fun a b => decide (a.1 ≤ b.1)

theorem inOrder_perm (es : List (String × Entry)) : (inOrder es).Perm es :=
  List.mergeSort_perm es _

theorem pairwise_inOrder {es : List (String × Entry)} (h : (es.map (·.1)).Nodup) :
    (inOrder es).Pairwise (·.1 < ·.1) :=
  pairwise_lt_mergeSort_by Prod.fst h

theorem inOrder_of_sorted {es : List (String × Entry)} (h : es.Pairwise (·.1 < ·.1)) :
    inOrder es = es := by
  refine List.mergeSort_of_pairwise (h.imp ?_)
  intro a b hlt
  refine decide_eq_true (String.not_lt.mp ?_)
  intro hgt
  exact String.lt_irrefl _ (String.lt_trans hlt hgt)

/-- The document of entries in order. -/
def document (es : List (String × Entry)) : Json :=
  .object [("entries", .object (entryFields es)), ("version", .int 1)]

theorem mem_entryFields {es : List (String × Entry)} {f : String × Json} :
    f ∈ entryFields es ↔ ∃ e ∈ es, (e.1, Json.object e.2) = f :=
  List.mem_map

/-- The canonical form only puts the entries in order. -/
theorem canonicalFields_entryFields {es : List (String × Entry)} (h : Settled room es) :
    Json.canonicalFields (entryFields es) = entryFields (inOrder es) := by
  have hkeys : ((entryFields es).map (·.1)).Nodup := by
    rw [entryFields, List.map_map]
    exact h.distinct
  have hvalues : ((entryFields es).map fun f => (f.1, Json.canonical f.2)) = entryFields es := by
    refine (List.map_congr_left ?_).trans (List.map_id _)
    intro f hf
    obtain ⟨e, he, rfl⟩ := mem_entryFields.mp hf
    exact congrArg (Prod.mk e.1) (Json.canonical_of_isOrdered (h.entries e he).ordered)
  have hperm : (Json.canonicalFields (entryFields es)).Perm (entryFields (inOrder es)) := by
    refine (Json.canonicalFields_perm _).trans ?_
    rw [hvalues]
    exact ((inOrder_perm es).map _).symm
  -- both are strictly in order, and of one set of keys there is only one such order
  refine List.Perm.eq_of_pairwise ?_ (Json.pairwise_canonicalFields hkeys)
    (List.pairwise_map.mpr (pairwise_inOrder h.distinct)) hperm
  intro f g _ _ hfg hgf
  exact absurd (String.lt_trans hfg hgf) (String.lt_irrefl _)

theorem toJson_eq_document {s : Store} (h : Settled room s.entries) :
    s.toJson = document (inOrder s.entries) := by
  -- the store writes its version first, the canonical form puts it last
  have horder : ¬ "version" < "entries" := by decide
  unfold toJson document
  simp only [Json.canonical, Json.canonicalFields, Json.insertSorted, if_neg horder]
  rw [← canonicalFields_entryFields h]

theorem isPlain_document {es : List (String × Entry)} (h : Keeps room es) :
    Json.IsPlain (document es) := by
  have hfields : Json.IsPlain (.object (entryFields es)) := by
    refine .object _ (Entries.nodup_of_sorted (List.pairwise_map.mpr h.sorted)) ?_
    intro f hf
    obtain ⟨e, he, rfl⟩ := mem_entryFields.mp hf
    exact (h.entries e he).plain
  refine .object _ (by simp) ?_
  intro f hf
  rcases List.mem_cons.mp hf with rfl | hf
  · exact hfields
  · rw [List.mem_singleton.mp hf]
    exact .int 1 (by decide)

/-- Two brackets stand around the entries of a document. -/
theorem nestsIn_document {es : List (String × Entry)} (h : Keeps room es) :
    (document es).nestsIn (room + 2) = true := by
  refine Json.nestsIn_object.mpr ?_
  intro f hf
  rcases List.mem_cons.mp hf with rfl | hf
  · refine Json.nestsIn_object.mpr ?_
    intro g hg
    obtain ⟨e, he, rfl⟩ := mem_entryFields.mp hg
    exact (h.entries e he).nested
  · rw [List.mem_singleton.mp hf]
    rfl

/-- A document that can be written gives its entries back. -/
theorem keeps_inOrder {s : Store} (h : Settled room s.entries)
    (hwritable : s.toJson.isWritable = true) : Keeps room (inOrder s.entries) where
  sorted := pairwise_inOrder h.distinct
  entries e he := by
    rw [toJson_eq_document h] at hwritable
    have hfields := Json.every_object.mp hwritable _ (List.mem_cons_self ..)
    have hentry := Json.every_object.mp hfields _ (mem_entryFields.mpr ⟨e, he, rfl⟩)
    exact (h.entries e ((inOrder_perm _).mem_iff.mp he)).keeps hentry

theorem isWritable_toJson {s : Store} (h : Keeps room s.entries) : s.toJson.isWritable = true := by
  rw [toJson_eq_document h.settled, inOrder_of_sorted h.sorted]
  exact (Json.isPlain_iff.mp (isPlain_document h)).2.2

theorem entryOfField?_eq_some {f : String × Json} {e : String × Entry} (h : entryOfField? f = some e) :
    ∃ fields, f = (e.1, .object fields) ∧ Entry.isValid fields = true
      ∧ e.2 = Json.canonicalFields fields := by
  unfold entryOfField? at h
  split at h
  · next key fields =>
    split at h
    · next hvalid =>
      cases h
      exact ⟨fields, rfl, hvalid, rfl⟩
    · cases h
  · cases h

/-- The entries of the document are the entries it was made of. -/
theorem entriesOf_document {es : List (String × Entry)} (h : Keeps room es) :
    entriesOf (document es) = es := by
  have hread : ∀ e ∈ es, entryOfField? (e.1, .object e.2) = some e := by
    intro e he
    obtain ⟨_, hordered, _, hvalid⟩ := h.entries e he
    have hcanonical := Json.canonical_of_isOrdered hordered
    rw [Json.canonical, Json.object.injEq] at hcanonical
    rw [entryOfField?, if_pos hvalid, hcanonical]
  have hfields : entriesOf (document es) = (entryFields es).filterMap entryOfField? := rfl
  -- every entry passes, so the filter is the identity
  rw [hfields, entryFields, List.filterMap_map]
  clear hfields h
  induction es with
  | nil => rfl
  | cons e es ih =>
    rw [List.filterMap_cons, Function.comp_apply, hread e (List.mem_cons_self ..),
      ih fun d hd => hread d (List.mem_cons_of_mem _ hd)]

end Documents

/-! ## The file -/

/-- **Entries come back from the file with their document.** -/
theorem load_of_read {w : Workspace} {file : WrittenPath} {es : List (String × Entry)}
    (h : Keeps w.platform.entryRoom es)
    (hread : w.read file = .ok (.text (document es).render)) :
    (load w file).result = .ok { file := some file, entries := es } := by
  have hplain := isPlain_document h
  have htext : w.readText file = .ok (document es).render.toList := by
    unfold Workspace.readText
    rw [hread]
    exact congrArg Except.ok (Json.unifyNewlines_render hplain)
  unfold load
  simp only
  rw [htext]
  simp only
  rw [w.platform.jsonDepth_eq, Json.parse_render hplain (nestsIn_document h)]
  simp only
  rw [entriesOf_document h]
  rfl

/-- **A store comes back from its file.** -/
theorem load_of_file {w : Workspace} {p : Place} (hp : p.isProper = true) {s : Store}
    (h : Keeps w.platform.entryRoom s.entries)
    (hfile : w.tree.find? p = some (.file (.text s.toJson.render))) :
    (load w p.path).result = .ok { file := some p.path, entries := s.entries } := by
  rw [toJson_eq_document h.settled, inOrder_of_sorted h.sorted] at hfile
  exact load_of_read h (Workspace.read_file hp hfile)

/-- What opening gives: a store without changes, with the entries of a document or with none. -/
theorem load_eq_ok {w : Workspace} {file : WrittenPath} {s : Store}
    (h : (load w file).result = .ok s) :
    s.file = some file ∧ s.isDirty = false ∧
      (s.entries = [] ∨
        ∃ text j, Json.parse w.platform.jsonDepth text = .ok j ∧ s.entries = entriesOf j) := by
  unfold load at h
  simp only at h
  split at h
  · cases h
    exact ⟨rfl, rfl, .inl rfl⟩
  · cases h
    exact ⟨rfl, rfl, .inl rfl⟩
  · cases h
  · next text _ =>
    split at h
    · next j hj =>
      cases h
      exact ⟨rfl, rfl, .inr ⟨text, j, hj, rfl⟩⟩
    · cases h
    · cases h
    · cases h
      exact ⟨rfl, rfl, .inl rfl⟩

/-- A file that cannot be read is the file of an empty store, whatever the reason. -/
theorem load_of_fault {w : Workspace} {file : WrittenPath} {f : FileFault}
    (h : w.read file = .error (.file f)) :
    (load w file).result = .ok { file := some file } := by
  have htext : w.readText file = .error (.file f) := by
    unfold Workspace.readText
    rw [h]
    rfl
  unfold load
  simp only
  rw [htext]
  -- a missing file is passed over and any other fault reported; the store is the same
  obtain ⟨kind, shown⟩ := f
  cases kind <;> rfl

/-- A file that is missing, and one whose directory is, is the file of an empty store. -/
theorem load_of_missing (w : Workspace) {p : Place} (hp : p.isProper = true)
    (hnone : w.tree.find? p = none) :
    (load w p.path).result = .ok { file := some p.path } := by
  obtain ⟨f, hf⟩ := Workspace.read_missing w hp hnone
  exact load_of_fault hf

end Store

/-! ## The entry of a scan -/

theorem LineMark.isDistinct_toJson (l : LineMark) : Json.IsDistinct l.toJson := by
  cases l with
  | number n => exact .int n
  | flag b => exact .bool b

theorem Json.isDistinct_ofString? (s : Option String) : Json.IsDistinct (Json.ofString? s) := by
  cases s with
  | none => exact .null
  | some s => exact .string s

theorem Route.isDistinct_toJson (r : Route) : Json.IsDistinct r.toJson := by
  have himpl : Json.IsDistinct ((r.implLine.map LineMark.toJson).getD .null) := by
    cases r.implLine with
    | none => exact .null
    | some l => exact l.isDistinct_toJson
  refine .object _ (by simp) ?_
  simp only [List.forall_mem_cons]
  exact ⟨.string _, .string _, .string _, r.line.isDistinct_toJson, .string _,
    Json.isDistinct_ofString? _, Json.isDistinct_ofString? _, himpl, Json.isDistinct_ofString? _,
    Json.isDistinct_ofString? _, fun f hf => absurd hf List.not_mem_nil⟩

/-- What holds of texts, of null and of the lines of a route holds everywhere in the route. -/
theorem Route.every_toJson {test : Json → Bool} (htext : ∀ s, test (.string s) = true)
    (hnull : test .null = true) {r : Route} (hline : r.line.toJson.every test = true)
    (himpl : ∀ l, r.implLine = some l → l.toJson.every test = true) :
    r.toJson.every test = true := by
  have hopt : ∀ s, (Json.ofString? s).every test = true := by
    intro s
    cases s with
    | none => exact hnull
    | some s => exact htext s
  have himplLine : ((r.implLine.map LineMark.toJson).getD .null).every test = true := by
    cases hl : r.implLine with
    | none => exact hnull
    | some l => exact himpl l hl
  refine Json.every_object.mpr ?_
  simp only [List.forall_mem_cons]
  exact ⟨htext _, htext _, htext _, hline, htext _, hopt _, hopt _, himplLine, hopt _, hopt _,
    fun f hf => absurd hf List.not_mem_nil⟩

/-- A route is one pair of brackets. -/
theorem Route.nestsIn_toJson (r : Route) (more : Nat) : r.toJson.nestsIn (more + 1) = true := by
  have hopt : ∀ s, (Json.ofString? s).nestsIn more = true := by
    intro s
    cases s <;> simp [Json.ofString?]
  have hmark : ∀ l : LineMark, l.toJson.nestsIn more = true := by
    intro l
    cases l <;> simp [LineMark.toJson]
  have himplLine : ((r.implLine.map LineMark.toJson).getD .null).nestsIn more = true := by
    cases r.implLine with
    | none => exact Json.nestsIn_null more
    | some l => exact hmark l
  have htext := Json.nestsIn_string more
  refine Json.nestsIn_object.mpr ?_
  simp only [List.forall_mem_cons]
  exact ⟨htext _, htext _, htext _, hmark _, htext _, hopt _, hopt _, himplLine, hopt _, hopt _,
    fun f hf => absurd hf List.not_mem_nil⟩

theorem Route.isIntegral_toJson (r : Route) : r.toJson.isIntegral = true := by
  have hmark : ∀ l : LineMark, l.toJson.isIntegral = true := by
    intro l
    cases l <;> rfl
  exact Route.every_toJson (fun _ => rfl) rfl (hmark r.line) fun l _ => hmark l

theorem length_toDigits_le {n : Nat} (h : n ≤ Content.maxLength) :
    (Nat.toDigits 10 n).length ≤ Json.maxDigits := by
  have hlt : n < 10 ^ 20 := Nat.lt_of_le_of_lt h (by decide)
  have hlen : (Nat.toDigits 10 n).length ≤ 20 :=
    (Nat.length_toDigits_le_iff (by decide) (by decide)).mpr hlt
  exact Nat.le_trans hlen (by decide)

theorem Route.isWritable_toJson {r : Route} (h : r.Within Content.maxLength) :
    r.toJson.isWritable = true := by
  have hmark : ∀ l : LineMark, (∃ n : Nat, n ≤ Content.maxLength ∧ l = .number n) →
      l.toJson.isWritable = true := by
    rintro l ⟨n, hn, rfl⟩
    exact decide_eq_true (length_toDigits_le hn)
  exact Route.every_toJson (fun _ => rfl) rfl (hmark r.line h.1) fun l hl => hmark l (h.2 l hl)

namespace Store

theorem object_ofRoutes (routes : List Route) (now : Moment) :
    Json.object (Entry.ofRoutes routes now) = Json.canonical (.object (Entry.scanFields routes now)) := by
  rw [Json.canonical]
  rfl

theorem isDistinct_scanFields (routes : List Route) (now : Moment) :
    Json.IsDistinct (.object (Entry.scanFields routes now)) := by
  refine .object _ (by simp [Entry.scanFields]) ?_
  simp only [Entry.scanFields, List.forall_mem_cons]
  refine ⟨.array _ ?_, .string _, fun f hf => absurd hf List.not_mem_nil⟩
  intro j hj
  obtain ⟨r, _, rfl⟩ := List.mem_map.mp hj
  exact r.isDistinct_toJson

theorem every_ofRoutes {test : Json → Bool} (htext : ∀ s, test (.string s) = true)
    {routes : List Route} (h : ∀ r ∈ routes, r.toJson.every test = true) (now : Moment) :
    (Json.object (Entry.ofRoutes routes now)).every test = true := by
  rw [object_ofRoutes]
  refine Json.every_canonical (isDistinct_scanFields routes now) (Json.every_object.mpr ?_)
  simp only [Entry.scanFields, List.forall_mem_cons]
  refine ⟨Json.every_array.mpr ?_, htext _, fun f hf => absurd hf List.not_mem_nil⟩
  intro j hj
  obtain ⟨r, hr, rfl⟩ := List.mem_map.mp hj
  exact h r hr

/-- A route is an object without brackets in it, in a list of routes in its entry. -/
theorem nestsIn_scanFields (more : Nat) (routes : List Route) (now : Moment) :
    (Json.object (Entry.scanFields routes now)).nestsIn (more + 3) = true := by
  refine Json.nestsIn_object.mpr ?_
  simp only [Entry.scanFields, List.forall_mem_cons]
  refine ⟨Json.nestsIn_array.mpr ?_, rfl, fun f hf => absurd hf List.not_mem_nil⟩
  intro j hj
  obtain ⟨r, _, rfl⟩ := List.mem_map.mp hj
  exact r.nestsIn_toJson more

/-- **The entry of a scan is settled**, whatever its routes are. -/
theorem settled_ofRoutes (p : Platform) (routes : List Route) (now : Moment) :
    (Entry.ofRoutes routes now).Settled p.entryRoom where
  ordered := by
    rw [object_ofRoutes]
    exact Json.isOrdered_canonical (isDistinct_scanFields routes now)
  integral := every_ofRoutes (fun _ => rfl) (fun r _ => r.isIntegral_toJson) now
  nested := by
    obtain ⟨more, hmore⟩ := p.exists_entryRoom_eq
    rw [object_ofRoutes, hmore]
    exact Json.nestsIn_canonical (nestsIn_scanFields more routes now)
  valid := by
    have horder : "records" < "updated_at" := by decide
    unfold Entry.ofRoutes Entry.scanFields
    simp only [Json.canonicalFields, Json.insertSorted, if_pos horder, Json.canonical]
    rfl

/-- The entry of a scan is one that a file gives back. -/
theorem keeps_ofRoutes (p : Platform) {routes : List Route}
    (h : ∀ r ∈ routes, r.Within Content.maxLength) (now : Moment) :
    (Entry.ofRoutes routes now).Keeps p.entryRoom :=
  (settled_ofRoutes p routes now).keeps
    (every_ofRoutes (fun _ => rfl) (fun r hr => Route.isWritable_toJson (h r hr)) now)

/-! ## The entries of a file -/

/-- An entry is one in canonical form, too: a list stays a list, and what is there stays there. -/
theorem Entry.isValid_canonicalFields {fields : List (String × Json)}
    (hkeys : (fields.map (·.1)).Nodup) (h : Entry.isValid fields = true) :
    Entry.isValid (Json.canonicalFields fields) = true := by
  unfold Entry.isValid Entry.routes? at h ⊢
  rw [Json.lookupField_canonicalFields hkeys, Json.lookupField_canonicalFields hkeys,
    Option.isSome_map]
  obtain ⟨hroutes, htime⟩ := Bool.and_eq_true_iff.mp h
  rw [Bool.and_eq_true]
  refine ⟨?_, htime⟩
  cases hr : Json.lookupField fields "records" with
  | none =>
    rw [hr] at hroutes
    cases hroutes
  | some j =>
    rw [hr] at hroutes
    cases j with
    | array items => rfl
    | _ => cases hroutes

/-- The entries of a document are the fields of its entries that make one. -/
theorem mem_entriesOf {j : Json} {e : String × Entry} :
    e ∈ entriesOf j ↔ ∃ v es fields, j.field? "version" = some v ∧ isVersion v = true ∧
      j.field? "entries" = some (.object es) ∧ (e.1, .object fields) ∈ es ∧
      Entry.isValid fields = true ∧ e.2 = Json.canonicalFields fields := by
  unfold entriesOf
  constructor
  · intro h
    split at h
    · next es hversion hes =>
      obtain ⟨v, hv, hcurrent⟩ := Option.map_eq_some_iff.mp hversion
      obtain ⟨f, hf, hread⟩ := List.mem_filterMap.mp h
      obtain ⟨fields, rfl, hvalid, heq⟩ := entryOfField?_eq_some hread
      exact ⟨v, es, fields, hv, hcurrent, hes, hf, hvalid, heq⟩
    · exact absurd h List.not_mem_nil
  · rintro ⟨v, es, fields, hv, hcurrent, hes, hf, hvalid, heq⟩
    rw [hv, Option.map_some, hcurrent, hes]
    refine List.mem_filterMap.mpr ⟨_, hf, ?_⟩
    rw [entryOfField?, if_pos hvalid, ← heq]

/-- The values of the entries of a document stand in it. -/
theorem isDistinct_entries {j : Json} (hj : Json.IsDistinct j) {es : List (String × Json)}
    (hes : j.field? "entries" = some (.object es)) : Json.IsDistinct (.object es) := by
  cases hj with
  | object fields _ h => exact h _ (Entries.mem_of_lookup hes)
  | _ => cases hes

theorem nodup_entriesOf {j : Json} (hj : Json.IsDistinct j) :
    ((entriesOf j).map (·.1)).Nodup := by
  unfold entriesOf
  split
  · next es _ hes =>
    cases isDistinct_entries hj hes with
    | object _ hkeys _ =>
      refine hkeys.sublist (Entries.names_filterMap_sublist ?_ es)
      intro f e he
      obtain ⟨fields, rfl, _⟩ := entryOfField?_eq_some he
      rfl
  · exact List.nodup_nil

/-- The entries of a document have two brackets less around them. -/
theorem nestsIn_entries {room : Nat} {j : Json} (hj : j.nestsIn (room + 2) = true)
    {es : List (String × Json)} (hes : j.field? "entries" = some (.object es)) :
    ∀ f ∈ es, f.2.nestsIn room = true := by
  cases j with
  | object fields =>
    exact Json.nestsIn_object.mp (Json.nestsIn_object.mp hj _ (Entries.mem_of_lookup hes))
  | _ => cases hes

/-- What a document with distinct keys gives is settled, as far as its numbers are integers. -/
theorem settled_entriesOf {room : Nat} {j : Json} (hj : Json.IsDistinct j)
    (hroom : j.nestsIn (room + 2) = true)
    (hintegral : ∀ e ∈ entriesOf j, Json.isIntegral (.object e.2) = true) :
    Settled room (entriesOf j) where
  distinct := nodup_entriesOf hj
  entries e he := by
    obtain ⟨_, es, fields, _, _, hes, hf, hvalid, heq⟩ := mem_entriesOf.mp he
    cases isDistinct_entries hj hes with
    | object _ _ hvalues =>
      have hdistinct := hvalues _ hf
      have hordered := Json.isOrdered_canonical hdistinct
      rw [Json.canonical, ← heq] at hordered
      have hnested := Json.nestsIn_canonical (nestsIn_entries hroom hes _ hf)
      rw [Json.canonical, ← heq] at hnested
      refine ⟨hordered, hintegral e he, hnested, ?_⟩
      cases hdistinct with
      | object _ hnodup _ =>
        rw [heq]
        exact Entry.isValid_canonicalFields hnodup hvalid

end Store

end SpringRoutes
