import SpringRoutes.Text.Search

/-!
# `SpringRoutes.Workspace.Path` — written paths and places

A written path is relative or absolute and may climb with `..`; a place is where a file or a
directory is, as the names on the way from the root of the file tree.

## Contents
- `WrittenPath`: paths as people write them, without empty and `.` components.
- `WrittenPath.text`, `WrittenPath.parent`, `WrittenPath.append`: their parts.
- `Place`, `Place.text`: places.
-/

namespace SpringRoutes

open Text

/-- A path as it is written: what makes it absolute, if anything, and its components. -/
structure WrittenPath where
  /-- Nothing for a relative path, one slash for an absolute one; two slashes stay two. -/
  anchor : String
  parts : List String
  deriving Repr, DecidableEq

namespace WrittenPath

/-- What makes a path absolute. -/
def anchorOf : List Char → String
  | '/' :: '/' :: '/' :: _ => "/"
  | '/' :: '/' :: _ => "//"
  | '/' :: _ => "/"
  | _ => ""

/-- The components of a path that lead somewhere. -/
def partsOf (s : List Char) : List String :=
  ((splitOn '/' s).filter fun p => p ≠ [] ∧ p ≠ ['.']).map String.ofList

/-- Read a path. -/
def ofString (s : String) : WrittenPath :=
  ⟨anchorOf s.toList, partsOf s.toList⟩

/-- The path as text. -/
def text (p : WrittenPath) : String :=
  if p.anchor = "" ∧ p.parts = [] then "." else p.anchor ++ String.intercalate "/" p.parts

/-- Whether the path starts at the root. -/
def isAbsolute (p : WrittenPath) : Bool :=
  p.anchor ≠ ""

/-- The last component, or nothing. -/
def name (p : WrittenPath) : String :=
  p.parts.getLast?.getD ""

/-- The path without its last component. -/
def parent (p : WrittenPath) : WrittenPath :=
  { p with parts := p.parts.dropLast }

/-- A path read from the directory `p`. -/
def append (p q : WrittenPath) : WrittenPath :=
  if q.isAbsolute then q else { p with parts := p.parts ++ q.parts }

/-- The path of an entry of the directory `p`. -/
def child (p : WrittenPath) (name : String) : WrittenPath :=
  { p with parts := p.parts ++ [name] }

/-- Whether some component holds a null character, which no file name does. -/
def hasNull (p : WrittenPath) : Bool :=
  p.parts.any fun s => s.toList.contains '\x00'

end WrittenPath

/-! ## Places -/

/-- The names on the way from the root of the file tree. -/
abbrev Place := List String

namespace Place

/-- The place as text. -/
def text (p : Place) : String :=
  "/" ++ String.intercalate "/" p

/-- The absolute path to a place. -/
def path (p : Place) : WrittenPath :=
  ⟨"/", p⟩

/-- Follow a component: `..` leads to the directory above. -/
def follow (p : Place) (part : String) : Place :=
  if part = ".." then p.dropLast else p ++ [part]

end Place

end SpringRoutes
