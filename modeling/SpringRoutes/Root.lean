import SpringRoutes.Workspace.Basic

/-!
# `SpringRoutes.Root` — the root of the project around a place

## Contents
- `Root.candidates`: a place and the directories above it, nearest first.
- `Root.detect`: the nearest directory under version control, else the nearest with a marker, else
  the place itself.
-/

namespace SpringRoutes

namespace Root

/-- A place and the directories above it, nearest first. -/
def candidates (p : Place) : List Place :=
  (List.range (p.length + 1)).reverse.map p.take

/-- Whether a directory has one of the markers. -/
def hasMarker (w : Workspace) (markers : List String) (p : Place) : Bool :=
  markers.any fun m => w.hasEntry (p.path.append (.ofString m))

/-- The nearest directory that has one of the markers. -/
def nearest? (w : Workspace) (markers : List String) (p : Place) : Option Place :=
  (candidates p).find? (hasMarker w markers)

/-- The directory of a place: a file's is the one that holds it. -/
def directoryOf (w : Workspace) (p : Place) : Place :=
  if w.isFile p.path then p.dropLast else p

/-- The root of the project around a directory. -/
def around (w : Workspace) (markers : List String) (p : Place) : Place :=
  ((nearest? w [".git"] p).or (nearest? w markers p)).getD p

/-- The markers that are given, or else the default ones. -/
def markersOf (given : Option (List String)) : List String :=
  given.getD Settings.defaultRootMarkers

/-- The root of the project around the start, or around the current directory. -/
def detect (w : Workspace) (start : Option String) (given : Option (List String)) :
    Except Failure Place := do
  let p ← match start with
    | none | some "" => do
      let here ← w.currentPlace
      w.reach here
    | some s => w.placeOf s
  .ok (around w (markersOf given) (directoryOf w p))

end Root

end SpringRoutes
