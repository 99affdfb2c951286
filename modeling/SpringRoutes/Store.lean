import SpringRoutes.Json.Printer
import SpringRoutes.Json.Reader
import SpringRoutes.Reply
import SpringRoutes.Route.Codec
import SpringRoutes.Time.Iso
import SpringRoutes.Workspace.Basic

/-!
# `SpringRoutes.Store` — route tables by project

A store maps project roots to entries. An entry is an object with the routes of the project and the
time of the scan; whatever else an entry read from a file holds is kept.

## Contents
- `Store`, `Store.Entry`: stores and their entries.
- `Store.put`, `Store.remove`, `Store.clear`: changes.
- `Store.routes?`, `Store.keys`, `Store.info`: questions.
- `Store.load`, `Store.persist`: the file of a store.
-/

namespace SpringRoutes

namespace Store

/-- The fields of an entry. -/
abbrev Entry := List (String × Json)

namespace Entry

/-- The routes of an entry. -/
def routes? (e : Entry) : Option (List Route) :=
  match Json.lookupField e "records" with
  | some (.array items) => some (items.filterMap Route.ofJson?)
  | _ => none

/-- The time of an entry. -/
def time? (e : Entry) : Option Moment :=
  ((Json.lookupField e "updated_at").bind Json.asString?).bind Moment.parse?

/-- The fields of the entry of a scan, as they are given. -/
def scanFields (routes : List Route) (now : Moment) : List (String × Json) :=
  [("records", .array (routes.map Route.toJson)), ("updated_at", .string now.text)]

/-- The entry of a scan. -/
def ofRoutes (routes : List Route) (now : Moment) : Entry :=
  Json.canonicalFields (scanFields routes now)

/-- Whether fields make an entry: a list of records and a time of any kind. -/
def isValid (e : Entry) : Bool :=
  e.routes?.isSome && (Json.lookupField e "updated_at").isSome

end Entry

end Store

/-- Entries by project root, whether they differ from the file, and the file, if there is one. -/
structure Store where
  file : Option WrittenPath := none
  entries : List (String × Store.Entry) := []
  isDirty : Bool := false

namespace Store

/-! ## Changes -/

/-- Keep the routes of a project. -/
def put (s : Store) (key : String) (routes : List Route) (now : Moment) : Store :=
  { s with entries := Entries.put s.entries key (.ofRoutes routes now), isDirty := true }

/-- Whether there is an entry for a key. -/
def contains (s : Store) (key : String) : Bool :=
  (s.entries.lookup key).isSome

/-- Drop the entry of a key. -/
def remove (s : Store) (key : String) : Store :=
  if s.contains key then
    { s with entries := Entries.drop s.entries key, isDirty := true }
  else s

/-- Drop all entries. -/
def clear (s : Store) : Store :=
  { s with entries := [], isDirty := true }

/-! ## Questions -/

/-- The entry of a key. One without fields counts as none. -/
def entry? (s : Store) (key : String) : Option Entry :=
  (s.entries.lookup key).filter fun e => !e.isEmpty

/-- The routes that are kept for a key. -/
def routes? (s : Store) (key : String) : Option (List Route) :=
  (s.entry? key).bind Entry.routes?

/-- The keys in order. -/
def keys (s : Store) : List String :=
  (s.entries.map (·.1)).mergeSort fun a b => decide (a ≤ b)

/-- What a store knows about a project. -/
structure Info where
  hasCache : Bool
  root : Option String
  count : Nat
  time : Option Moment
  age : Nat
  deriving Repr, DecidableEq

/-- What the store knows about a project at a time. -/
def info (s : Store) (key : String) (now : Moment) : Info :=
  let entry := s.entry? key
  let routes := s.routes? key
  let time := entry.bind Entry.time?
  { hasCache := routes.isSome
    root := entry.map fun _ => key
    count := (routes.getD []).length
    time := time
    age := (time.map now.secondsSince).getD 0 }

/-! ## The file -/

/-- Whether a value is the version of the file format. -/
def isVersion : Json → Bool
  | .int n => n == 1
  | .bool b => b
  | .float x => x.toInt? == some 1
  | _ => false

/-- The entry that a field of a document is. -/
def entryOfField? : String × Json → Option (String × Entry)
  | (key, .object fields) =>
    if Entry.isValid fields then some (key, Json.canonicalFields fields) else none
  | _ => none

/-- The entries of a store's document. Anything else than an object of the right version has
    none. -/
def entriesOf (j : Json) : List (String × Entry) :=
  match (j.field? "version").map isVersion, j.field? "entries" with
  | some true, some (.object es) => es.filterMap entryOfField?
  | _, _ => []

/-- The entries as the fields of an object. -/
def entryFields (es : List (String × Entry)) : List (String × Json) :=
  es.map fun e => (e.1, .object e.2)

/-- The document of a store. -/
def toJson (s : Store) : Json :=
  Json.canonical (.object [("version", .int 1), ("entries", .object (entryFields s.entries))])

/-- The report about a file that is no store. -/
def ignoring (file : WrittenPath) (why : String) : Event :=
  ⟨.debug, .store, "Ignoring unreadable endpoint cache " ++ file.text ++ ": " ++ why⟩

/-- The store in a file. A missing file is an empty store, and so is one that is no document. Bytes
    that are no text, integers with too many digits and brackets for which there is no room are
    failures. Keys that differ only in surrogates without their other half are one key. -/
def load (w : Workspace) (file : WrittenPath) : Reply Store :=
  let empty : Store := { file := some file }
  match w.readText file with
  | .error (.file ⟨.missing, _⟩) => pure empty
  | .error (.file f) => ⟨[ignoring file f.message], .ok empty⟩
  | .error e => ⟨[], .error e⟩
  | .ok text =>
    match Json.parse w.platform.jsonDepth text with
    | .ok j => pure { empty with entries := entriesOf j }
    | .error (.digits n) => ⟨[], .error (.longNumber (some n))⟩
    | .error (.nested b) => ⟨[], .error (.nested b)⟩
    | .error e => ⟨[ignoring file (e.message text)], .ok empty⟩

/-- Write the store to its file, unless the file is up to date. A store that cannot be written
    leaves the file alone; the directories above it are made all the same. There is room for any
    number of open brackets in what is written. -/
def persist (s : Store) (w : Workspace) : Store × Workspace.Change :=
  match s.isDirty, s.file with
  | true, some file =>
    if s.toJson.isWritable then
      match w.save file (.text s.toJson.render) with
      | (w, none) => ({ s with isDirty := false }, w, none)
      | r => (s, r)
    else
      match w.makeDirs file.parent with
      | (w, none) => (s, w, some (.longNumber none))
      | r => (s, r)
  | _, _ => (s, w, none)

end Store

end SpringRoutes
