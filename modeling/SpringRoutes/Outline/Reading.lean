import SpringRoutes.Outline.Basic

/-!
# `SpringRoutes.Outline.Reading` — reading the outline off a source

A source is read line by line. Blank lines and comment lines are passed over; every other line is
trimmed and may set roles, declare the type, stage a routing annotation or an override, and name
the method that takes what is staged.

## Contents
- `isSignificant`, `significantLines`: the lines that count, with their numbers.
- `Reading`, `Reading.step`: what is known after some lines.
- `Outline.ofText`: the outline of a whole source.
-/

namespace SpringRoutes

open Text

/-! ## Lines -/

/-- Whether a trimmed line is neither empty nor a comment. -/
def isSignificant (line : List Char) : Bool :=
  match line with
  | [] => false
  | '/' :: '/' :: _ => false
  | '/' :: '*' :: _ => false
  | '*' :: _ => false
  | _ => true

/-- A trimmed line and its number, counted from one. -/
structure NumberedLine where
  number : Nat
  text : List Char
  deriving Repr, DecidableEq

/-- All lines of a source, trimmed and numbered from `start`. -/
def numberedFrom (start : Nat) : List (List Char) → List NumberedLine
  | [] => []
  | l :: ls => ⟨start, trim l⟩ :: numberedFrom (start + 1) ls

/-- The lines of a source that count. -/
def significantLines (text : List Char) : List NumberedLine :=
  (numberedFrom 1 (splitOn '\n' text)).filter fun l => isSignificant l.text

/-! ## Reading -/

/-- What is known after some lines of a source. `staged` and `overriding` wait for the next
    method. -/
structure Reading where
  header : Option TypeHeader := none
  isEntryPoint : Bool := false
  client : Option Client := none
  base : Option Mapping := none
  staged : Option Mapping := none
  overriding : Bool := false
  methods : List Method := []
  deriving Repr, DecidableEq

namespace Reading

/-- Note the roles that the line gives to the source. -/
def noteRoles (r : Reading) (line : List Char) : Reading :=
  { r with
    isEntryPoint := r.isEntryPoint || SpringRoutes.isEntryPoint line
    client := (Client.parse? line).or r.client }

/-- Note the type that the line declares, unless one is known. -/
def noteHeader (r : Reading) (line : List Char) : Reading :=
  { r with header := r.header.or (TypeHeader.parse? line) }

/-- Note a routing annotation: it belongs to the type before the type is declared, where the first
    one counts, and to the next method afterwards, where the last one counts. -/
def noteMapping (r : Reading) (line : List Char) : Reading :=
  match Mapping.parse? line with
  | none => r
  | some m => if r.header.isNone then { r with base := r.base.or (some m) }
    else { r with staged := some m }

/-- Note an override annotation. -/
def noteOverride (r : Reading) (line : List Char) : Reading :=
  { r with overriding := r.overriding || SpringRoutes.isOverride line }

/-- Whether a method would take something. -/
def isWaiting (r : Reading) : Bool :=
  r.staged.isSome || r.overriding

/-- Note the method that the line names; it takes what is staged. -/
def noteMethod (r : Reading) (line : NumberedLine) : Reading :=
  if r.header.isSome && r.isWaiting then
    match methodName? line.text with
    | some name =>
      { r with
        methods := r.methods ++ [⟨name, line.number, r.staged, r.overriding⟩]
        staged := none
        overriding := false }
    | none => r
  else r

/-- Read one line. -/
def step (r : Reading) (line : NumberedLine) : Reading :=
  ((((r.noteRoles line.text).noteHeader line.text).noteMapping line.text).noteOverride
    line.text).noteMethod line

/-- The outline that a finished reading gives. -/
def toOutline (r : Reading) (path : String) : Outline where
  path := path
  typeName := r.header.map (·.name)
  kind := (r.header.map (·.kind)).getD .ofClass
  isEntryPoint := r.isEntryPoint
  client := r.client
  implemented := r.header.bind (·.implemented)
  extended := r.header.bind (·.extended)
  base := r.base
  methods := r.methods

end Reading

/-- The outline of the source `text` found at `path`. -/
def Outline.ofText (path : String) (text : String) : Outline :=
  ((significantLines text.toList).foldl Reading.step {}).toOutline path

end SpringRoutes
