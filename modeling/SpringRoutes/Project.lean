import SpringRoutes.Root
import SpringRoutes.Scan
import SpringRoutes.Store

/-!
# `SpringRoutes.Project` — scans of projects, with their results kept

## Contents
- `Cache`: where results are kept: in one store for all projects, or in a file of each project.
- `Outcome`: the reply to a request and what it leaves behind.
- `Project.scan`, `Project.info`, `Project.forget`: the three requests.
-/

namespace SpringRoutes

/-- Where results are kept. -/
inductive Cache
  /-- One store for all projects. -/
  | shared (store : Store)
  /-- A file in each project. -/
  | perProject

/-- The reply to a request, and the files and the cache after it. -/
structure Outcome (α : Type) where
  reply : Reply α
  workspace : Workspace
  cache : Cache

namespace Cache

/-- The name of the file of a project's own store. -/
def fileName : String := "endpoint_cache.json"

/-- The file of a project's own store. -/
def fileOf (root : Place) : WrittenPath :=
  (root.path.child cacheFolder).child fileName

/-- The store for a project. -/
def openStore (c : Cache) (w : Workspace) (root : Place) : Reply Store :=
  match c with
  | .shared s => pure s
  | .perProject => Store.load w (fileOf root)

/-- The cache when the store for a project has become `s` in memory. -/
def keep (c : Cache) (s : Store) : Cache :=
  match c with
  | .shared _ => .shared s
  | .perProject => .perProject

end Cache

namespace Project

/-- A route table, the root it belongs to, and whether it was kept from before. -/
structure Table where
  root : Place
  routes : List Route
  isCached : Bool
  deriving DecidableEq

/-- The place that a path denotes; without a path, the root of the project around the current
    directory. -/
def rootOf (w : Workspace) (path : Option String) : Except Failure Place :=
  match path with
  | some p => w.placeOf p
  | none => do
    let here ← w.currentPlace
    let s ← Settings.load w here.path
    Root.detect w none (some s.rootMarkers)

/-- A failure that leaves everything as it was. -/
def fail {α : Type} (c : Cache) (w : Workspace) (events : List Event) (e : Failure) : Outcome α :=
  ⟨⟨events, .error e⟩, w, c⟩

/-- The root of a project that can be scanned. -/
def checkedRoot (w : Workspace) (path : Option String) : Except Failure Place := do
  let root ← rootOf w path
  Discovery.checkProject w root (Place.text root)
  let _ ← Settings.load w root.path
  .ok root

/-- Scan the project at `root` and keep the result in the store `s`. -/
def scanInto (scanner : Scanner) (c : Cache) (w : Workspace) (root : Place) (s : Store)
    (events : List Event) : Outcome Table :=
  let key := Place.text root
  let scanning : Event := ⟨.info, .projects, "Scanning " ++ key⟩
  let r := scanner w root
  let events := events ++ [scanning] ++ r.events
  match r.result with
  | .error e => ⟨⟨events, .error e⟩, w, c.keep s⟩
  | .ok routes =>
    match (s.put key routes w.now).persist w with
    | (s, w, some e) => ⟨⟨events, .error e⟩, w, c.keep s⟩
    | (s, w, none) => ⟨⟨events, .ok ⟨root, routes, false⟩⟩, w, c.keep s⟩

/-- The route table of a project: the one that is kept, unless there is none or a new one is
    asked for. -/
def scan (scanner : Scanner) (c : Cache) (w : Workspace) (path : Option String) (refresh : Bool) :
    Outcome Table :=
  match checkedRoot w path with
  | .error e => fail c w [] e
  | .ok root =>
    let key := Place.text root
    let r := c.openStore w root
    match r.result with
    | .error e => fail c w r.events e
    | .ok s =>
      if refresh then scanInto scanner c w root (s.remove key) r.events
      else match s.routes? key with
        | some routes =>
          let used : Event := ⟨.debug, .projects, "Using cached endpoints for " ++ key⟩
          ⟨⟨r.events ++ [used], .ok ⟨root, routes, true⟩⟩, w, c⟩
        | none => scanInto scanner c w root s r.events

/-- What is kept for a project. -/
def info (c : Cache) (w : Workspace) (path : Option String) : Outcome Store.Info :=
  match rootOf w path with
  | .error e => fail c w [] e
  | .ok root =>
    let r := c.openStore w root
    ⟨⟨r.events, r.result.map fun s => s.info (Place.text root) w.now⟩, w, c⟩

/-- Drop what is kept for a project; the reply tells whether there was anything. -/
def forget (c : Cache) (w : Workspace) (path : Option String) : Outcome Bool :=
  match rootOf w path with
  | .error e => fail c w [] e
  | .ok root =>
    let key := Place.text root
    let r := c.openStore w root
    match r.result with
    | .error e => fail c w r.events e
    | .ok s =>
      let removed := s.contains key
      match (s.remove key).persist w with
      | (s, w, some e) => ⟨⟨r.events, .error e⟩, w, c.keep s⟩
      | (s, w, none) => ⟨⟨r.events, .ok removed⟩, w, c.keep s⟩

end Project

end SpringRoutes
