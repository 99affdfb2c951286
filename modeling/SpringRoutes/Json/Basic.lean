import SpringRoutes.Entries
import SpringRoutes.Number.Binary64

/-!
# `SpringRoutes.Json.Basic` — JSON values

## Contents
- `Json`: values; integers of any size are kept apart from floating-point numbers, and the fields
  of an object keep their order.
- `Json.lookupField`, `Json.field?`: the values of the keys of an object.
- `Json.canonical`: the value with the fields of every object in the order of their keys.
- `Json.every`: whether a test holds everywhere in a value.
-/

namespace SpringRoutes

/-- A JSON value. -/
inductive Json
  | null
  | bool (b : Bool)
  | int (n : Int)
  | float (x : Binary64)
  | string (s : String)
  | array (items : List Json)
  | object (fields : List (String × Json))
  deriving Repr, Inhabited

namespace Json

/-- The value of a key among fields. -/
def lookupField (fields : List (String × Json)) (key : String) : Option Json :=
  fields.lookup key

/-- The value of a key of an object. -/
def field? (j : Json) (key : String) : Option Json :=
  match j with
  | .object fields => lookupField fields key
  | _ => none

/-- Insert a field before the first field with a greater key. -/
def insertSorted (f : String × Json) : List (String × Json) → List (String × Json)
  | [] => [f]
  | g :: rest => if f.1 < g.1 then f :: g :: rest else g :: insertSorted f rest

mutual

/-- The value with the fields of every object in the order of their keys. -/
def canonical : Json → Json
  | .array items => .array (canonicalItems items)
  | .object fields => .object (canonicalFields fields)
  | .null => .null
  | .bool b => .bool b
  | .int n => .int n
  | .float x => .float x
  | .string s => .string s

/-- The canonical forms of a list of values. -/
def canonicalItems : List Json → List Json
  | [] => []
  | j :: js => canonical j :: canonicalItems js

/-- The canonical forms of fields, ordered by key. -/
def canonicalFields : List (String × Json) → List (String × Json)
  | [] => []
  | (k, j) :: fs => insertSorted (k, canonical j) (canonicalFields fs)

end

mutual

/-- Whether a test holds for every value in a value that is neither an array nor an object. -/
def every (test : Json → Bool) : Json → Bool
  | .array items => everyItem test items
  | .object fields => everyField test fields
  | .null => test .null
  | .bool b => test (.bool b)
  | .int n => test (.int n)
  | .float x => test (.float x)
  | .string s => test (.string s)

/-- Whether a test holds everywhere in a list of values. -/
def everyItem (test : Json → Bool) : List Json → Bool
  | [] => true
  | j :: js => every test j && everyItem test js

/-- Whether a test holds everywhere in the values of fields. -/
def everyField (test : Json → Bool) : List (String × Json) → Bool
  | [] => true
  | (_, j) :: fs => every test j && everyField test fs

end

/-- The greatest number of digits of an integer that is read or written. -/
def maxDigits : Nat := 4300

/-- A text value, or null. -/
def ofString? : Option String → Json
  | some s => .string s
  | none => .null

/-- The text of a string value. -/
def asString? : Json → Option String
  | .string s => some s
  | _ => none

end Json

end SpringRoutes
