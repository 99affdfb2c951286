import SpringRoutes.Discovery
import SpringRoutes.Outline.Reading
import SpringRoutes.Table.Client

/-!
# `SpringRoutes.Scan` — from source files to a route table

## Contents
- `Scan.outlineAt`: the outline of a file, or why it is skipped.
- `Scan.table`: the sorted route table of listed files, with the events on the way.
- `Scan.project`: the route table of a project whose files are listed or discovered.
- `Scanner`, `Scan.standard`: ways to get the route table of a project.
-/

namespace SpringRoutes

namespace Scan

/-! ## Outlines -/

/-- The outline of a file; a file that cannot be read has none. -/
def outlineAt (w : Workspace) (path : String) : Reply (Option Outline) :=
  let p := WrittenPath.ofString path
  match w.readLossy p with
  | .ok text => pure (some (Outline.ofText p.text (String.ofList text)))
  | .error (.file f) =>
    ⟨[⟨.debug, .outlines, "Skipping unreadable file " ++ p.text ++ ": " ++ f.message⟩], .ok none⟩
  | .error e => ⟨[], .error e⟩

/-- The outlines of files, in order. -/
def outlines (w : Workspace) : List String → Reply (List (Option Outline))
  | [] => pure []
  | f :: fs => do
    let o ← outlineAt w f
    let os ← outlines w fs
    return o :: os

/-! ## Events of the tables -/

/-- What is reported about a controller whose interface is not among the sources. -/
def missingInterface? (index : List (String × Outline)) (controller : Outline) : Option Event :=
  match controller.implemented with
  | none | some "" => none
  | some name =>
    if (contract? index (some name)).isSome then none
    else some ⟨.debug, .linking, "Interface " ++ name ++ " of " ++ controller.name
      ++ " not found; using its own mappings only"⟩

/-- What is reported about linking. -/
def linkEvents (sources : List (Option Outline)) : List Event :=
  let os := named sources
  (os.filter (·.isEntryPoint)).filterMap (missingInterface? (interfaceIndex os))
    ++ [⟨.debug, .linking, "Linked " ++ toString (link sources).length ++ " route(s) from "
      ++ toString os.length ++ " file(s)"⟩]

/-- What is reported about clients. -/
def clientEvents (sources : List (Option Outline)) : List Event :=
  [⟨.debug, .clients, "Resolved "
    ++ toString ((routeTable sources).length - (link sources).length) ++ " client-only route(s)"⟩]

/-! ## Tables -/

/-- The places of listed files; those with a relative path are found from the root. -/
def places (w : Workspace) (root : WrittenPath) : List String → Except Failure (List String)
  | [] => .ok []
  | f :: fs => do
    let p ← w.resolve (root.append (.ofString f))
    let ps ← places w root fs
    .ok (Place.text p :: ps)

/-- The summary of a scan. -/
def summary (routes files : Nat) (root : String) : String :=
  if routes = 0 then "No endpoints found under " ++ root
  else "Found " ++ toString routes ++ " endpoint(s) in " ++ toString files ++ " file(s) under "
    ++ root

/-- The sorted route table of listed files. -/
def table (w : Workspace) (root : String) (files : List String) : Reply (List Route) := do
  let base ← Reply.ofExcept (w.expand (.ofString root))
  let paths ← Reply.ofExcept (places w base files)
  if paths.isEmpty then
    Reply.report .info .scan ("No source files found under " ++ root)
    return []
  let os ← outlines w paths
  Reply.reportAll (linkEvents os ++ clientEvents os)
  let routes := sortedTable os
  Reply.report .info .scan (summary routes.length paths.length root)
  return routes

/-- The settings for a scan of a place; a place that is no directory has the default ones. -/
def settings (w : Workspace) (root : Place) : Reply Settings :=
  if w.isDir root.path then
    Discovery.settingsOrDefault w root fun text =>
      ⟨.warning, .scan, "Using default settings: " ++ text⟩
  else pure { root := Place.text root }

/-- The route table of the project at a place. The files are listed, or else discovered; there may be
    a limit to how deep. -/
def projectWithin (limit : Option Nat) (w : Workspace) (root : Place)
    (listed : Option (List String)) : Reply (List Route) := do
  let s ← settings w root
  let files ← match listed with
    | some fs => pure fs
    | none => Discovery.findWithin limit w (Place.text root) (some s)
  Reply.report .debug .scan
    ("Scanning " ++ toString files.length ++ " file(s) under " ++ Place.text root)
  table w (Place.text root) files

/-- The route table of the project at a path. -/
def project (limit : Option Nat) (w : Workspace) (path : String) (listed : Option (List String)) :
    Reply (List Route) := do
  let root ← Reply.ofExcept (w.placeOf path)
  projectWithin limit w root listed

end Scan

/-! ## Scanners -/

/-- A way to get the route table of the project at a place. -/
abbrev Scanner := Workspace → Place → Reply (List Route)

/-- The table of the sources that are discovered, with a limit to how deep, if there is one. -/
def Scan.within (limit : Option Nat) : Scanner := fun w root =>
  projectWithin limit w root none

/-- The table of all sources, however deep they are. -/
def Scan.standard : Scanner :=
  within none

end SpringRoutes
