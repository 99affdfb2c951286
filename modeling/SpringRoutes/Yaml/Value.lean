import SpringRoutes.Number.Binary64

/-!
# `SpringRoutes.Yaml.Value` — values of settings files

## Contents
- `Yaml.Value`: what a document denotes.
- `Yaml.Value.get?`: the value of a textual key, where the last one counts.
-/

namespace SpringRoutes

namespace Yaml

/-- What a document, or a part of it, denotes. -/
inductive Value
  | null
  | bool (b : Bool)
  | int (n : Int)
  | float (x : Binary64)
  | text (s : String)
  | bytes (b : List Nat)
  /-- A date or a time stamp. -/
  | stamp
  | sequence (items : List Value)
  | mapping (entries : List (Value × Value))
  | set (members : List Value)
  /-- A reference to a collection from inside that collection. -/
  | enclosing
  deriving Repr, Inhabited

namespace Value

/-- Whether a value is the given text. -/
def isText (v : Value) (s : String) : Bool :=
  match v with
  | .text t => t == s
  | _ => false

/-- The value of a textual key of a mapping; the last entry with that key counts. A reference to the
    mapping itself gives the mapping. -/
def get? (v : Value) (key : String) : Option Value :=
  match v with
  | .mapping entries =>
    match entries.reverse.find? fun e => e.1.isText key with
    | some (_, .enclosing) => some v
    | some (_, w) => some w
    | none => none
  | _ => none

end Value

end Yaml

end SpringRoutes
