import SpringRoutes.Text.Search

/-!
# `SpringRoutes.Route.Basic` — routes

A route is one resolved HTTP endpoint. `file` and `line` point at the method that declares it,
which is that of the interface for routes inherited from a contract; the `impl` fields point at
the implementing method of a controller.

## Contents
- `LineMark`: the place of a line as stored tables hold it.
- `Route`, `Route.label`: a route and its one-line label.
- `fileName`: the last component of a path.
-/

namespace SpringRoutes

open Text

/-- The line of a route. Stored tables may hold a truth value in place of a number, and it is kept
    as it is. -/
inductive LineMark
  | number (n : Int)
  | flag (b : Bool)
  deriving Repr, DecidableEq

namespace LineMark

/-- The text of a line mark in labels. -/
def text : LineMark → String
  | .number n => toString n
  | .flag true => "True"
  | .flag false => "False"

/-- The line as a number; a truth value counts as one or zero. -/
def toInt : LineMark → Int
  | .number n => n
  | .flag true => 1
  | .flag false => 0

end LineMark

/-- One HTTP endpoint and the places in the sources that declare and implement it. -/
structure Route where
  verb : String
  path : String
  file : String
  line : LineMark
  typeName : String
  methodName : Option String := none
  implFile : Option String := none
  implLine : Option LineMark := none
  implType : Option String := none
  clientName : Option String := none
  deriving Repr, DecidableEq

/-- The last component of a path; empty when it has none. -/
def fileName (path : String) : String :=
  let parts := (splitOn '/' path.toList).filter fun p => p ≠ [] ∧ p ≠ ['.']
  String.ofList (parts.getLast?.getD [])

/-- `s` filled up with spaces on the right to the given width. -/
def padRight (width : Nat) (s : String) : String :=
  s ++ String.ofList (List.replicate (width - s.length) ' ')

namespace Route

/-- The one-line label of a route. -/
def label (r : Route) : String :=
  padRight 7 r.verb ++ " " ++ r.path ++ "  →  " ++ fileName r.file ++ ":" ++ r.line.text

/-- Where the route is declared. -/
def location (r : Route) : String × LineMark :=
  (r.file, r.line)

/-- Where the route is implemented. A missing line and a line zero stand for the first. -/
def implLocation (r : Route) : Option (String × LineMark) :=
  r.implFile.map fun file =>
    match r.implLine with
    | some l => (file, if l.toInt = 0 then .number 1 else l)
    | none => (file, .number 1)

end Route

end SpringRoutes
