import SpringRoutes.Proofs.JsonLimits
import SpringRoutes.Proofs.StoreFile
import SpringRoutes.Proofs.Utf8

/-!
# `SpringRoutes.Proofs.StoreContents` — what any bytes open to

The file of a store may hold anything. Most of what is no document of a store opens to an empty
store: text that is no JSON, another kind of value, another version, entries that are none. Three
contents do not open at all, since their faults are not among those that opening takes for an
unreadable file: bytes that are not UTF-8, a text with an integer of too many digits, and a text with
brackets inside more brackets than the platform has room for. `load_opens` draws the line for all
bytes and all platforms, and says what the store has in it when there is one, with the strings of a
document as the reader gives them (it has no lone surrogates).
-/

namespace SpringRoutes

open Text

/-- The text of a content is the one whose bytes it has. -/
theorem Content.decode_eq_ok {c : Content} {s : List Char} :
    c.decode = .ok s ↔ c.toBytes = Utf8.encode s := by
  cases c with
  | bytes b => exact Utf8.decode_eq_ok
  | text t =>
    -- what is a text already is the only text with its bytes
    rw [← Utf8.decode_eq_ok, Content.toBytes, Utf8.decode_eq_ok.mpr rfl]
    exact Iff.rfl

namespace Store

/-! ## Documents -/

/-- The number one, as a document may write it. A truth value counts as a number here. -/
inductive IsOne : Json → Prop
  | int : IsOne (.int 1)
  | float {x : Binary64} (h : x.toInt? = some 1) : IsOne (.float x)
  | bool : IsOne (.bool true)

theorem isVersion_iff {v : Json} : isVersion v = true ↔ IsOne v := by
  constructor
  · intro h
    cases v with
    | int n =>
      obtain rfl : n = 1 := eq_of_beq h
      exact .int
    | float x => exact .float (eq_of_beq h)
    | bool b =>
      obtain rfl : b = true := h
      exact .bool
    | null | string | array | object => cases h
  · intro h
    cases h with
    | int => rfl
    | float h =>
      change (_ == _) = true
      rw [h]
      rfl
    | bool => rfl

/-- A document has an entry with these fields under a key: it is an object of the right version, its
    entries are an object, and the entry has a list of records and a time of any kind. -/
structure DocumentHas (j : Json) (key : String) (fields : List (String × Json)) : Prop where
  version : ∃ v, j.field? "version" = some v ∧ IsOne v
  entry : ∃ es, j.field? "entries" = some (.object es) ∧
    Json.lookupField es key = some (.object fields)
  records : ∃ items, Json.lookupField fields "records" = some (.array items)
  time : ∃ v, Json.lookupField fields "updated_at" = some v

theorem Entry.isValid_iff {fields : List (String × Json)} :
    Entry.isValid fields = true ↔
      (∃ items, Json.lookupField fields "records" = some (.array items)) ∧
        ∃ v, Json.lookupField fields "updated_at" = some v := by
  unfold Entry.isValid Entry.routes?
  rw [Bool.and_eq_true, Option.isSome_iff_exists (x := Json.lookupField fields "updated_at")]
  refine and_congr_left fun _ => ?_
  cases Json.lookupField fields "records" with
  | none => simp
  | some j => cases j <;> simp

/-- **The entries of a document** are those that it has, in canonical form. -/
theorem lookup_entriesOf {j : Json} (hj : Json.IsDistinct j) {key : String} {e : Entry} :
    (entriesOf j).lookup key = some e ↔
      ∃ fields, DocumentHas j key fields ∧ e = Json.canonicalFields fields := by
  constructor
  · intro h
    obtain ⟨v, es, fields, hv, hone, hes, hf, hvalid, heq⟩ :=
      mem_entriesOf.mp (Entries.mem_of_lookup h)
    obtain ⟨hrecords, htime⟩ := Entry.isValid_iff.mp hvalid
    cases isDistinct_entries hj hes with
    | object _ hkeys _ =>
      exact ⟨fields, ⟨⟨v, hv, isVersion_iff.mp hone⟩, ⟨es, hes, Entries.lookup_of_mem hkeys hf⟩,
        hrecords, htime⟩, heq⟩
  · rintro ⟨fields, ⟨⟨v, hv, hone⟩, ⟨es, hes, hf⟩, hrecords, htime⟩, heq⟩
    refine Entries.lookup_of_mem (nodup_entriesOf hj) (mem_entriesOf.mpr ?_)
    exact ⟨v, es, fields, hv, isVersion_iff.mpr hone, hes, Entries.mem_of_lookup hf,
      Entry.isValid_iff.mpr ⟨hrecords, htime⟩, heq⟩

/-! ## Opening -/

/-- What the file of a store opens to when it holds `bytes` and there is room for so many open
    brackets. -/
inductive Opens (room : Nat) (file : WrittenPath) (bytes : List Nat) :
    Except Failure Store → Prop
  /-- The bytes are those of no text. -/
  | illFormed (f : Utf8.Fault) (bytes_ne : ∀ text, bytes ≠ Utf8.encode text) :
      Opens room file bytes (.error (.encoding f))
  /-- The text has an integer of `n` digits, which are too many, and no fault before it. -/
  | longNumber {text : List Char} {n : Nat} (bytes_eq : bytes = Utf8.encode text)
      (refused : Json.parse room (unifyNewlines text) = .error (.digits n))
      (long : Json.HasLongNumber (unifyNewlines text) n) :
      Opens room file bytes (.error (.longNumber (some n)))
  /-- The text has more brackets inside one another than there is room for, and no fault before
      them. -/
  | nested {text : List Char} {b : Json.Bracket} (bytes_eq : bytes = Utf8.encode text)
      (refused : Json.parse room (unifyNewlines text) = .error (.nested b))
      (deep : room < Json.openings (unifyNewlines text)) :
      Opens room file bytes (.error (.nested b))
  /-- Otherwise there is a store with the entries of the document, if there is one. -/
  | store {text : List Char} {s : Store} (bytes_eq : bytes = Utf8.encode text)
      (not_long : ∀ n, Json.parse room (unifyNewlines text) ≠ .error (.digits n))
      (not_deep : ∀ b, Json.parse room (unifyNewlines text) ≠ .error (.nested b))
      (file_eq : s.file = some file) (unchanged : s.isDirty = false)
      (distinct : (s.entries.map (·.1)).Nodup)
      (entries : ∀ key e, s.entries.lookup key = some e ↔
        ∃ j fields, Json.parse room (unifyNewlines text) = .ok j ∧ DocumentHas j key fields ∧
          e = Json.canonicalFields fields) :
      Opens room file bytes (.ok s)

theorem opens_of_text {w : Workspace} {file : WrittenPath} {bytes : List Nat} {text : List Char}
    (hbytes : bytes = Utf8.encode text) (htext : w.readText file = .ok (unifyNewlines text)) :
    Opens w.platform.jsonDepth file bytes (load w file).result := by
  unfold load
  simp only
  rw [htext]
  simp only
  cases hparse : Json.parse w.platform.jsonDepth (unifyNewlines text) with
  | ok j =>
    have hj := Json.isDistinct_of_parse hparse
    refine .store hbytes (by simp [hparse]) (by simp [hparse]) rfl rfl (nodup_entriesOf hj) ?_
    intro key e
    rw [hparse]
    refine (lookup_entriesOf hj).trans ?_
    constructor
    · rintro ⟨fields, h⟩
      exact ⟨j, fields, rfl, h⟩
    · rintro ⟨_, fields, heq, h⟩
      cases heq
      exact ⟨fields, h⟩
  | error e =>
    cases e with
    | digits n => exact .longNumber hbytes hparse (Json.hasLongNumber_of_parse hparse)
    | nested b => exact .nested hbytes hparse (Json.lt_openings_of_parse hparse)
    | fault what rest =>
      refine .store hbytes (by simp [hparse]) (by simp [hparse]) rfl rfl List.nodup_nil ?_
      intro key e
      rw [hparse]
      constructor
      · intro h
        cases h
      · rintro ⟨j, _, heq, _⟩
        cases heq

/-- **What any bytes open to.** A file that can be read opens to a store, unless it is not UTF-8, has
    an integer with too many digits, or has brackets inside more brackets than there is room for. The
    store has exactly the entries of the document in the file, and none if there is no document of
    the right kind. -/
theorem load_opens {w : Workspace} {file : WrittenPath} {c : Content}
    (hread : w.read file = .ok c) :
    Opens w.platform.jsonDepth file c.toBytes (load w file).result := by
  cases hdecode : c.decode with
  | ok text =>
    refine opens_of_text (Content.decode_eq_ok.mp hdecode) ?_
    unfold Workspace.readText
    rw [hread]
    simp only [Bind.bind, Except.bind, hdecode]
  | error f =>
    have htext : w.readText file = .error (.encoding f) := by
      unfold Workspace.readText
      rw [hread]
      simp only [Bind.bind, Except.bind, hdecode]
    have hload : (load w file).result = .error (.encoding f) := by
      unfold load
      simp only
      rw [htext]
    rw [hload]
    refine .illFormed f ?_
    intro text hbytes
    rw [Content.decode_eq_ok.mpr hbytes] at hdecode
    cases hdecode

/-- A byte that starts no character stands between two braces, and six brackets are opened where
    there is room for five. -/
theorem load_opens_illFormed :
    let w : Workspace :=
      { tree := .dir [("c.json", .file (.bytes [0x7b, 0xff, 0x7d])),
          ("d.json", .file (.text "[[[[[[ and more"))]
        cwd := none
        home := ["home"]
        now := { year := 2024, month := 1, day := 1 }
        platform := { Platform.standard with jsonDepth := 5, five_le_jsonDepth := Nat.le_refl 5 } }
    let file : WrittenPath := .ofString "/c.json"
    let deep : WrittenPath := .ofString "/d.json"
    w.read file = .ok (.bytes [0x7b, 0xff, 0x7d]) ∧
      (load w file).result
        = .error (.encoding { position := 1, byte := 0xff, size := 1, reason := .start }) ∧
      Opens 5 file [0x7b, 0xff, 0x7d] (load w file).result ∧
      w.read deep = .ok (.text "[[[[[[ and more") ∧
      (load w deep).result = .error (.nested .array) ∧
      Opens 5 deep (Utf8.encode "[[[[[[ and more".toList) (load w deep).result := by
  intro w file deep
  have hread : w.read file = .ok (.bytes [0x7b, 0xff, 0x7d]) := by rfl
  have hdeep : w.read deep = .ok (.text "[[[[[[ and more") := by rfl
  have hnested : (load w deep).result = .error (.nested .array) := by
    have htext : w.readText deep = .ok (List.replicate 6 '[' ++ " and more".toList) := by rfl
    unfold load
    simp only
    rw [htext]
    simp only
    rw [show w.platform.jsonDepth = 5 from rfl, Json.parse_of_brackets 5]
  exact ⟨hread, rfl, load_opens hread, hdeep, hnested, load_opens hdeep⟩

end Store

end SpringRoutes
