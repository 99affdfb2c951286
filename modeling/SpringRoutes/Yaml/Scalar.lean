import SpringRoutes.Yaml.Base64
import SpringRoutes.Yaml.Number
import SpringRoutes.Yaml.Resolve
import SpringRoutes.Yaml.Value

/-!
# `SpringRoutes.Yaml.Scalar` — what scalars denote

## Contents
- `Yaml.boolValue`: truth values.
- `Yaml.scalarValue`: the value of a scalar text under a tag.
-/

namespace SpringRoutes

open Text

namespace Yaml

/-- The truth value that a text denotes in any letter case. -/
def boolValue (text : List Char) : Except Fault Bool :=
  let word := String.ofList (lower text)
  if ["yes", "true", "on"].contains word then .ok true
  else if ["no", "false", "off"].contains word then .ok false
  else .error (.notBool word)

/-- The bytes that a text denotes. -/
def bytesValue (text : List Char) : Except Fault (List Nat) :=
  if text.all fun c => c.toNat < 0x80 then
    match Base64.decode? text with
    | some bytes => .ok bytes
    | none => .error .document
  else .error .document

/-- The value of a scalar text under a tag. Tags of collections, and tags without a meaning, give
    none. -/
def scalarValue (tag : Tag) (text : List Char) : Except Fault Value :=
  match tag with
  | .null => .ok .null
  | .bool => (boolValue text).map .bool
  | .int => (integerValue text).map .int
  | .float => (floatValue text).map .float
  | .binary => (bytesValue text).map .bytes
  | .timestamp => (checkStamp text).map fun _ => .stamp
  | .str => .ok (.text (String.ofList text))
  | .omap | .pairs | .set | .seq | .map | .merge | .defaultValue | .unknown => .error .document

end Yaml

end SpringRoutes
