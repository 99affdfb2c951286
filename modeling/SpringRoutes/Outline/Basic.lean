import SpringRoutes.Outline.Annotation
import SpringRoutes.Outline.Header

/-!
# `SpringRoutes.Outline.Basic` — the outline of one source file

## Contents
- `Method`: a method with the routing annotation that precedes it.
- `Outline`: what linking needs to know of one source file.
-/

namespace SpringRoutes

/-- A method of a source. `mapping` is the routing annotation since the method before it, if
    there is one; its path is empty when the annotation names none. -/
structure Method where
  name : String
  line : Nat
  mapping : Option Mapping := none
  isOverride : Bool := false
  deriving Repr, DecidableEq

/-- What is read off one source file. -/
structure Outline where
  path : String
  typeName : Option String := none
  kind : TypeKind := .ofClass
  isEntryPoint : Bool := false
  client : Option Client := none
  implemented : Option String := none
  extended : Option String := none
  base : Option Mapping := none
  methods : List Method := []
  deriving Repr, DecidableEq

namespace Outline

/-- Whether the source declares an interface. -/
def isInterface (o : Outline) : Bool :=
  o.kind = .ofInterface

/-- The declared name; empty when the source declares no type. -/
def name (o : Outline) : String :=
  o.typeName.getD ""

/-- Whether the source declares a type. -/
def isNamed (o : Outline) : Bool :=
  o.name ≠ ""

/-- The path of the routing annotation on the type. -/
def basePath (o : Outline) : Option String :=
  o.base.map (·.path)

/-- The line of the first method with a name, or the first line when there is none. -/
def lineOf (o : Outline) (name : String) : Nat :=
  ((o.methods.find? (·.name = name)).map (·.line)).getD 1

end Outline

end SpringRoutes
