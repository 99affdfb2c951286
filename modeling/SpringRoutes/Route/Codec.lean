import SpringRoutes.Json.Basic
import SpringRoutes.Route.Basic

/-!
# `SpringRoutes.Route.Codec` — routes as JSON objects

## Contents
- `Route.toJson`: a route as an object with ten fields.
- `Route.ofJson?`: the route that an object describes. Verb, path, file, line and type are required;
  an optional field of the wrong kind counts as missing.
-/

namespace SpringRoutes

namespace LineMark

/-- A line mark as a JSON value. -/
def toJson : LineMark → Json
  | .number n => .int n
  | .flag b => .bool b

/-- The line mark that a JSON value is. -/
def ofJson? : Json → Option LineMark
  | .int n => some (.number n)
  | .bool b => some (.flag b)
  | _ => none

theorem ofJson?_toJson (l : LineMark) : ofJson? l.toJson = some l := by
  cases l <;> rfl

end LineMark

namespace Route

/-- A route as a JSON object. -/
def toJson (r : Route) : Json :=
  .object
    [("http_method", .string r.verb),
     ("full_path", .string r.path),
     ("file", .string r.file),
     ("line", r.line.toJson),
     ("type_name", .string r.typeName),
     ("method_name", Json.ofString? r.methodName),
     ("impl_file", Json.ofString? r.implFile),
     ("impl_line", (r.implLine.map LineMark.toJson).getD .null),
     ("impl_type_name", Json.ofString? r.implType),
     ("client_name", Json.ofString? r.clientName)]

/-- The route that a JSON object describes. -/
def ofJson? (j : Json) : Option Route := do
  let verb ← (← j.field? "http_method").asString?
  let path ← (← j.field? "full_path").asString?
  let file ← (← j.field? "file").asString?
  let line ← LineMark.ofJson? (← j.field? "line")
  let typeName ← (← j.field? "type_name").asString?
  some
    { verb, path, file, line, typeName
      methodName := (j.field? "method_name").bind Json.asString?
      implFile := (j.field? "impl_file").bind Json.asString?
      implLine := (j.field? "impl_line").bind LineMark.ofJson?
      implType := (j.field? "impl_type_name").bind Json.asString?
      clientName := (j.field? "client_name").bind Json.asString? }

end Route

end SpringRoutes
