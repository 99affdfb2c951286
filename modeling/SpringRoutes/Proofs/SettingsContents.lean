import SpringRoutes.Proofs.Recognisers
import SpringRoutes.Proofs.SourceListing
import SpringRoutes.Proofs.StoreContents

/-!
# `SpringRoutes.Proofs.SettingsContents` — what any bytes mean as settings

The settings file of a project may hold anything. A text that the reader of documents calls no document,
or a document that gives no settings, is a failure of the settings, and discovery then goes by the default
ones. Some contents fail in other ways, and there discovery fails with them: bytes that are not UTF-8, a
text where the reader itself fails, and a list of texts with an integer that is too long to be written.

`Loads` says for all bytes, and for whatever reader of documents the platform has, what they load to and
why; `load_of_bytes` says that loading does so and what discovery makes of it.
-/

namespace SpringRoutes

open Text

namespace Settings

/-! ## Documents -/

/-- A document has an item in one of its lists of texts. -/
def Lists (v item : Yaml.Value) : Prop :=
  ∃ items, item ∈ items ∧
    ((v.get? "scan").bind (·.get? "extensions") = some (.sequence items) ∨
      v.get? "exclude_paths" = some (.sequence items) ∨
      v.get? "root_markers" = some (.sequence items))

section Contents

variable (read : List Char → Except Yaml.Fault Yaml.Value)

/-- The text of a settings file denotes a value, by a reader of documents. A text of blanks and an
    empty document are empty mappings. -/
inductive Denotes (text : List Char) : Yaml.Value → Prop
  | blank (blank : AllBlank text) : Denotes text (.mapping [])
  | empty (marked : ¬ AllBlank text) (value : read text = .ok .null) : Denotes text (.mapping [])
  | document {v : Yaml.Value} (marked : ¬ AllBlank text) (value : read text = .ok v)
      (ne : v ≠ .null) : Denotes text v

/-- What the settings file of the project at `root` loads to when it holds `bytes`, by a reader of
    documents. -/
inductive Loads (root : String) (bytes : List Nat) : Except Failure Settings → Prop
  /-- The bytes are those of no text. -/
  | illFormed {f : Utf8.Fault} (bytes_ne : ∀ text, bytes ≠ Utf8.encode text)
      (refused : Utf8.decode bytes = .error f) : Loads root bytes (.error (.encoding f))
  /-- The reader calls the text no document. -/
  | malformed {text : List Char} (bytes_eq : bytes = Utf8.encode text)
      (marked : ¬ AllBlank (unifyNewlines text))
      (refused : read (unifyNewlines text) = .error .document) :
      Loads root bytes (.error (.settings .malformed))
  /-- The reader fails in any other way. -/
  | failed {text : List Char} {f : Yaml.Fault} (bytes_eq : bytes = Utf8.encode text)
      (marked : ¬ AllBlank (unifyNewlines text))
      (refused : read (unifyNewlines text) = .error f) (ne : f ≠ .document) :
      Loads root bytes (.error (.scalar f))
  /-- A list of texts has an integer with too many digits. -/
  | longNumber {text : List Char} {v : Yaml.Value} {n : Int} (bytes_eq : bytes = Utf8.encode text)
      (denotes : Denotes read (unifyNewlines text) v) (refused : ofValue root v = .error .longNumber)
      (listed : Lists v (.int n))
      (long : Integer.maxDigits < (Nat.toDigits 10 n.natAbs).length) :
      Loads root bytes (.error (.longNumber none))
  /-- The document is no mapping, or its number of workers is not positive. -/
  | value {text : List Char} {v : Yaml.Value} {f : Fault} (bytes_eq : bytes = Utf8.encode text)
      (denotes : Denotes read (unifyNewlines text) v) (refused : ofValue root v = .error (.fault f)) :
      Loads root bytes (.error (.settings (.value f)))
  /-- Otherwise the document gives settings. -/
  | settings {text : List Char} {v : Yaml.Value} {s : Settings} (bytes_eq : bytes = Utf8.encode text)
      (denotes : Denotes read (unifyNewlines text) v) (given : ofValue root v = .ok s) :
      Loads root bytes (.ok s)

end Contents

theorem exists_of_not_isWritable {v : Yaml.Value} (h : isWritable v = false) :
    ∃ items n, v = .sequence items ∧ .int n ∈ items ∧
      Integer.maxDigits < (Nat.toDigits 10 n.natAbs).length := by
  unfold isWritable at h
  split at h
  · next items =>
    obtain ⟨item, hitem, hlong⟩ := List.all_eq_false.mp h
    split at hlong
    · next n => exact ⟨items, n, rfl, hitem, by simpa using hlong⟩
    · simp at hlong
  · cases h

/-- A number is too long to be written only in one of the lists of texts. -/
theorem exists_longNumber {root : String} {v : Yaml.Value}
    (h : ofValue root v = .error .longNumber) :
    ∃ n, Lists v (.int n) ∧ Integer.maxDigits < (Nat.toDigits 10 n.natAbs).length := by
  unfold ofValue at h
  split at h
  · next entries =>
    dsimp only at h
    -- the list that is not writable, as the document has it
    have hlist : ∃ o : Option Yaml.Value, isWritable (o.getD .null) = false ∧
        (o = ((Yaml.Value.mapping entries).get? "scan").bind (·.get? "extensions") ∨
          o = (Yaml.Value.mapping entries).get? "exclude_paths" ∨
          o = (Yaml.Value.mapping entries).get? "root_markers") := by
      split at h
      · next hext =>
        refine ⟨_, ?_, .inl rfl⟩
        cases hscan : (Yaml.Value.mapping entries).get? "scan" with
        | none =>
          rw [hscan] at hext
          cases hext
        | some scan =>
          rw [hscan] at hext
          simpa using hext
      · split at h
        · cases h
        · split at h
          · next hothers =>
            rw [Bool.not_eq_true', Bool.and_eq_false_iff] at hothers
            rcases hothers with hmarkers | hexcludes
            · exact ⟨_, hmarkers, .inr (.inr rfl)⟩
            · exact ⟨_, hexcludes, .inr (.inl rfl)⟩
          · cases h
    obtain ⟨o, ho, hwhere⟩ := hlist
    obtain ⟨items, n, hitems, hn, hlong⟩ := exists_of_not_isWritable ho
    have hsome : o = some (.sequence items) := by
      cases o with
      | none => cases hitems
      | some u => exact congrArg some hitems
    subst hsome
    exact ⟨n, ⟨items, hn, hwhere.imp Eq.symm (Or.imp Eq.symm Eq.symm)⟩, hlong⟩
  · cases h

/-! ## Loading -/

/-- The value of a settings file, or its fault, by the text in it. -/
theorem readValue_of_text {w : Workspace} {file : WrittenPath} {text : List Char}
    (h : w.readText file = .ok text) :
    (∃ v, Denotes w.platform.yaml text v ∧ readValue w file = .ok v) ∨
      ∃ f, ¬ AllBlank text ∧ w.platform.yaml text = .error f ∧
        readValue w file = .error (if f = .document then .settings .malformed else .scalar f) := by
  unfold readValue
  rw [h]
  dsimp only
  split
  · next hblank => exact .inl ⟨_, .blank (List.all_eq_true.mp hblank), rfl⟩
  · next hmarked =>
    have hmarked : ¬ AllBlank text := fun hblank => hmarked (List.all_eq_true.mpr hblank)
    split
    · next hparse => exact .inr ⟨_, hmarked, hparse, rfl⟩
    · next f hne hparse =>
      refine .inr ⟨f, hmarked, hparse, ?_⟩
      rw [if_neg hne]
    · next hparse => exact .inl ⟨_, .empty hmarked hparse, rfl⟩
    · next v hne hparse => exact .inl ⟨v, .document hmarked hparse hne, rfl⟩

theorem loads_of_text {w : Workspace} {p : WrittenPath} {root : Place} {bytes : List Nat}
    {text : List Char} (hplace : place w p = .ok (root ++ [fileName]))
    (hentry : w.hasEntry (Place.path (root ++ [fileName])) = true)
    (hbytes : bytes = Utf8.encode text)
    (htext : w.readText (Place.path (root ++ [fileName])) = .ok (unifyNewlines text)) :
    Loads w.platform.yaml root.text bytes (load w p) := by
  unfold load
  rw [hplace]
  simp only [Bind.bind, Except.bind, hentry, if_true, List.dropLast_concat]
  rcases readValue_of_text htext with ⟨v, hv, hread⟩ | ⟨f, hmarked, hparse, hread⟩
  · rw [hread]
    dsimp only
    split
    · next hgiven => exact .settings hbytes hv hgiven
    · next hrefused => exact .value hbytes hv hrefused
    · next hrefused =>
      obtain ⟨n, hlisted, hlong⟩ := exists_longNumber hrefused
      exact .longNumber hbytes hv hrefused hlisted hlong
  · rw [hread]
    dsimp only
    by_cases hf : f = .document
    · subst hf
      exact .malformed hbytes hmarked hparse
    · rw [if_neg hf]
      exact .failed hbytes hmarked hparse hf

/-- **What any bytes load to.** -/
theorem loads_of_file {w : Workspace} {p : WrittenPath} {root : Place} {c : Content}
    (hroot : root.isProper = true) (hfile : w.tree.find? (root ++ [fileName]) = some (.file c))
    (hplace : place w p = .ok (root ++ [fileName])) :
    Loads w.platform.yaml root.text c.toBytes (load w p) := by
  have hproper : Place.isProper (root ++ [fileName]) = true :=
    Workspace.isProper_concat hroot (by decide)
  have hentry : w.hasEntry (Place.path (root ++ [fileName])) = true := by
    unfold Workspace.hasEntry
    rw [Workspace.find?_path w (Place.dots_not_mem hproper), hfile]
    rfl
  have hread : w.read (Place.path (root ++ [fileName])) = .ok c := Workspace.read_file hproper hfile
  cases hdecode : c.decode with
  | ok text =>
    refine loads_of_text hplace hentry (Content.decode_eq_ok.mp hdecode) ?_
    unfold Workspace.readText
    rw [hread]
    simp only [Bind.bind, Except.bind, hdecode]
  | error f =>
    have htext : w.readText (Place.path (root ++ [fileName])) = .error (.encoding f) := by
      unfold Workspace.readText
      rw [hread]
      simp only [Bind.bind, Except.bind, hdecode]
    have hload : load w p = .error (.encoding f) := by
      unfold load
      rw [hplace]
      simp only [Bind.bind, Except.bind, hentry, if_true]
      unfold readValue
      rw [htext]
    rw [hload]
    refine .illFormed ?_ ?_
    · intro text hbytes
      rw [Content.decode_eq_ok.mpr hbytes] at hdecode
      cases hdecode
    · cases c with
      | text t => cases hdecode
      | bytes b => exact hdecode

/-! ## Discovery -/

theorem place_of_file {w : Workspace} {root : Place} (hroot : root.isProper = true) {c : Content}
    (hfile : w.tree.find? (root ++ [fileName]) = some (.file c)) :
    place w root.path = .ok (root ++ [fileName]) := by
  obtain ⟨es, hdir⟩ := Tree.exists_dir_of_find?_concat hfile
  have hproper : Place.isProper (root ++ [fileName]) = true :=
    Workspace.isProper_concat hroot (by decide)
  have hnull : (root.path.child fileName).hasNull = false := Workspace.hasNull_path hproper
  unfold place
  rw [Workspace.expand_of_isAbsolute w rfl]
  simp only [Bind.bind, Except.bind]
  rw [if_pos ((Workspace.isDir_path (Place.dots_not_mem hroot)).mpr ⟨es, hdir⟩),
    Workspace.resolve_of_isAbsolute w rfl, hnull]
  have hdots := Place.dots_not_mem hproper
  calc w.reach ((root ++ [fileName]).foldl Place.follow [])
      = w.reach (root ++ [fileName]) := congrArg w.reach (Place.foldl_follow hdots)
    _ = .ok (root ++ [fileName]) := Workspace.reach_of_find? hdots hfile fun h => by cases h

/-- Discovery goes by the settings of the project, or by the default ones when those fail. Any other
    failure is passed on. -/
theorem result_find_none {w : Workspace} {path : String} {root : Place}
    (hroot : w.placeOf path = .ok root) (hcheck : Discovery.checkProject w root path = .ok ()) :
    (Discovery.find w path none).result =
      match load w root.path with
      | .ok s => .ok (Discovery.sources w root s)
      | .error (.settings _) => .ok (Discovery.sources w root { root := root.text })
      | .error e => .error e := by
  unfold Discovery.find Discovery.findWithin
  simp only [Reply.result_bind, Reply.ofExcept, hroot, Discovery.result_settingsOrDefault]
  simp only [Bind.bind, Except.bind, hcheck, Discovery.settingsFor]
  cases load w root.path with
  | ok s => rfl
  | error e => cases e <;> rfl

/-- **What any bytes in the settings file of a project do,** by any reader of documents. Every path to
    the file loads what `Loads` says; the directory of the project is such a path. Discovery there lists
    the sources by the settings that are loaded, or by the default ones when the settings fail. It fails
    itself in the remaining cases only. -/
theorem load_of_bytes {w : Workspace} {root : Place} {c : Content} (hroot : root.isProper = true)
    (hfile : w.tree.find? (root ++ [fileName]) = some (.file c)) :
    place w root.path = .ok (root ++ [fileName]) ∧
      (∀ p, place w p = .ok (root ++ [fileName]) →
        Loads w.platform.yaml root.text c.toBytes (load w p)) ∧
      ∀ path, w.placeOf path = .ok root →
        (Discovery.find w path none).result =
          match load w root.path with
          | .ok s => .ok (Discovery.sources w root s)
          | .error (.settings _) => .ok (Discovery.sources w root { root := root.text })
          | .error e => .error e := by
  obtain ⟨es, hdir⟩ := Tree.exists_dir_of_find?_concat hfile
  refine ⟨place_of_file hroot hfile, ?_, ?_⟩
  · intro p hp
    exact loads_of_file hroot hfile hp
  · intro path hpath
    exact result_find_none hpath (Discovery.checkProject_of_dir hroot hdir path)

/-- A byte that starts no character, where discovery fails with it, and beside it an unclosed bracket,
    where discovery goes by the default settings. -/
theorem load_of_bytes_shop :
    let w : Workspace :=
      { tree := .dir
          [("shop", .dir [(fileName, .file (.bytes [0xff])), ("A.java", .file (.text ""))]),
           ("web", .dir [(fileName, .file (.text "a: [")), ("B.java", .file (.text ""))])]
        cwd := none
        home := ["home"]
        now := { year := 2024, month := 1, day := 1 } }
    let fault : Utf8.Fault := { position := 0, byte := 0xff, size := 1, reason := .start }
    Place.isProper ["shop"] = true ∧ w.tree.find? ["shop", fileName] = some (.file (.bytes [0xff])) ∧
      load w (Place.path ["shop"]) = .error (.encoding fault) ∧
      Loads w.platform.yaml "/shop" [0xff] (.error (.encoding fault)) ∧
      (Discovery.find w "/shop" none).result = .error (.encoding fault) ∧
      Place.isProper ["web"] = true ∧
      w.tree.find? ["web", fileName] = some (.file (.text "a: [")) ∧
      load w (Place.path ["web"]) = .error (.settings .malformed) ∧
      (Discovery.find w "/web" none).result
        = .ok (Discovery.sources w ["web"] { root := "/web" }) := by
  intro w fault
  have hshop : load w (Place.path ["shop"]) = .error (.encoding fault) := by decide +kernel
  have hweb : load w (Place.path ["web"]) = .error (.settings .malformed) := by decide +kernel
  have hshopPlace : w.placeOf "/shop" = .ok ["shop"] := by decide +kernel
  have hwebPlace : w.placeOf "/web" = .ok ["web"] := by decide +kernel
  obtain ⟨hplace, hloads, hfind⟩ :=
    @load_of_bytes w ["shop"] (.bytes [0xff]) (by decide +kernel) rfl
  obtain ⟨_, _, hfindWeb⟩ :=
    @load_of_bytes w ["web"] (.text "a: [") (by decide +kernel) rfl
  refine ⟨by decide +kernel, rfl, hshop, ?_, ?_, by decide +kernel, rfl, hweb, ?_⟩
  · have hshopLoads := hloads _ hplace
    rwa [hshop] at hshopLoads
  · rw [hfind "/shop" hshopPlace, hshop]
  · rw [hfindWeb "/web" hwebPlace, hweb]
    rfl

end Settings

end SpringRoutes
