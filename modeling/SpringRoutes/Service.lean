import SpringRoutes.Project

/-!
# `SpringRoutes.Service` — route tables over HTTP

## Contents
- `Service.Request`, `Service.Response`: what a client sends and gets.
- `Service.Problem`: what is wrong with the data of a request.
- `Service.ScanOrder.ofBody`: the scan that the body of a request asks for.
- `Service.handle`: answer a request.
-/

namespace SpringRoutes

open Text

namespace Service

/-! ## Requests and responses -/

/-- What a client sends. An empty body counts as none. -/
structure Request where
  method : String
  path : String
  query : List (String × String) := []
  body : Option String := none

/-- What can be wrong with a datum of a request. -/
inductive ProblemKind
  | missing
  | notObject
  | notJson
  | notString
  | notBool
  | badBool
  deriving Repr, DecidableEq

/-- The name of a kind of problem. -/
def ProblemKind.text : ProblemKind → String
  | .missing => "missing"
  | .notObject => "model_attributes_type"
  | .notJson => "json_invalid"
  | .notString => "string_type"
  | .notBool => "bool_type"
  | .badBool => "bool_parsing"

/-- Where a problem is: in the body or the query, at a field or at a position of the text. -/
inductive ProblemPlace
  | body
  | bodyField (name : String)
  | bodyPosition (n : Nat)
  | queryField (name : String)
  deriving Repr, DecidableEq

/-- The place as a list of steps. -/
def ProblemPlace.toJson : ProblemPlace → Json
  | .body => .array [.string "body"]
  | .bodyField f => .array [.string "body", .string f]
  | .bodyPosition n => .array [.string "body", .int n]
  | .queryField f => .array [.string "query", .string f]

/-- What is wrong with the data of a request. -/
structure Problem where
  place : ProblemPlace
  kind : ProblemKind
  deriving Repr, DecidableEq

/-- What a response holds. -/
inductive Payload
  | json (j : Json)
  | text (s : String)
  | problems (ps : List Problem)

/-- What a client gets. -/
structure Response where
  status : Nat
  payload : Payload

namespace Response

/-- A successful response. -/
def ok (j : Json) : Response :=
  ⟨200, .json j⟩

/-- A response that tells why there is no other. -/
def detail (status : Nat) (text : String) : Response :=
  ⟨status, .json (.object [("detail", .string text)])⟩

/-- A response to a request with wrong data. -/
def problems (ps : List Problem) : Response :=
  ⟨422, .problems ps⟩

/-- The response to a request that fails. -/
def ofFailure (e : Failure) : Response :=
  match e with
  | .projectMissing _ | .file ⟨.missing, _⟩ => detail 404 e.message
  | .projectNotDirectory _ | .file ⟨.notDirectory, _⟩ | .settings _ => detail 400 e.message
  | _ => ⟨500, .text "Internal Server Error"⟩

end Response

/-! ## Bodies -/

/-- The truth value that a JSON value stands for in a request. -/
def flagOf : Json → Except ProblemKind Bool
  | .bool b => .ok b
  | .int n => if n = 0 then .ok false else if n = 1 then .ok true else .error .badBool
  | .float x =>
    match x.toInt? with
    | some 0 => .ok false
    | some 1 => .ok true
    | some _ => .error .badBool
    | none => .error .notBool
  | .string s =>
    let word := String.ofList (s.toList.map Char.toLower)
    if ["1", "on", "t", "true", "y", "yes"].contains word then .ok true
    else if ["0", "off", "f", "false", "n", "no"].contains word then .ok false
    else .error .badBool
  | _ => .error .notBool

/-- A scan that a request asks for. -/
structure ScanOrder where
  path : String
  refresh : Bool
  deriving Repr, DecidableEq

/-- The path in the body of a request. -/
def pathOf (j : Json) : Except Problem String :=
  match j.field? "path" with
  | none => .error ⟨.bodyField "path", .missing⟩
  | some (.string s) => .ok s
  | some _ => .error ⟨.bodyField "path", .notString⟩

/-- Whether the body of a request asks for a new scan. -/
def refreshOf (j : Json) : Except Problem Bool :=
  match j.field? "refresh" with
  | none => .ok false
  | some v =>
    match flagOf v with
    | .ok b => .ok b
    | .error kind => .error ⟨.bodyField "refresh", kind⟩

/-- The scan that a JSON value describes. All problems are told. -/
def ScanOrder.ofJson (j : Json) : Except (List Problem) ScanOrder :=
  match j with
  | .object _ =>
    match pathOf j, refreshOf j with
    | .ok path, .ok refresh => .ok ⟨path, refresh⟩
    | .error p, .ok _ => .error [p]
    | .ok _, .error q => .error [q]
    | .error p, .error q => .error [p, q]
  | _ => .error [⟨.body, .notObject⟩]

/-- The scan that the body of a request asks for, with room for so many open brackets. A byte order
    mark may precede the text. -/
def ScanOrder.ofBody (room : Nat) (body : Option String) : Except Response ScanOrder :=
  match body with
  | none | some "" => .error (.problems [⟨.body, .missing⟩])
  | some s =>
    let text := match s.toList with
      | '\ufeff' :: r => r
      | r => r
    match Json.parse room text with
    | .ok j =>
      match ScanOrder.ofJson j with
      | .ok order => .ok order
      | .error ps => .error (.problems ps)
    | .error (.digits _) | .error (.nested _) =>
      .error (.detail 400 "There was an error parsing the body")
    | .error (.fault _ rest) =>
      .error (.problems [⟨.bodyPosition (Json.position text rest), .notJson⟩])

/-! ## Answers -/

/-- A route as responses show it: lines are numbers, and the label is added. -/
def routeJson (r : Route) : Json :=
  let plain : Route :=
    { r with
      line := .number r.line.toInt
      implLine := r.implLine.map fun l => .number l.toInt }
  match plain.toJson with
  | .object fields => .object (fields ++ [("display", .string r.label)])
  | j => j

/-- A route table as responses show it. -/
def tableJson (t : Project.Table) : Json :=
  .object
    [("root", .string (Place.text t.root)),
     ("count", .int t.routes.length),
     ("cached", .bool t.isCached),
     ("endpoints", .array (t.routes.map routeJson))]

/-- What is kept for a project as responses show it. -/
def infoJson (i : Store.Info) : Json :=
  .object
    [("has_cache", .bool i.hasCache),
     ("root_dir", Json.ofString? i.root),
     ("endpoint_count", .int i.count),
     ("timestamp", Json.ofString? (i.time.map Moment.text)),
     ("age_seconds", .int i.age)]

/-- A response, with the files and the cache after the request. -/
structure Answer where
  response : Response
  workspace : Workspace
  cache : Cache

/-- The answer to a request with an outcome. -/
def Answer.ofOutcome {α : Type} (view : α → Json) (o : Outcome α) : Answer :=
  let response := match o.reply.result with
    | .ok a => .ok (view a)
    | .error e => .ofFailure e
  ⟨response, o.workspace, o.cache⟩

/-- The methods of a resource. -/
def methods : String → List String
  | "/health" => ["GET"]
  | "/scan" => ["POST"]
  | "/cache" => ["GET", "DELETE"]
  | _ => []

/-- A path without the slashes at its end. -/
def withoutSlashes (path : String) : String :=
  String.ofList (path.toList.reverse.dropWhile (· == '/')).reverse

/-- Answer a request. -/
def handle (scanner : Scanner) (c : Cache) (w : Workspace) (r : Request) : Answer :=
  let path := withoutSlashes r.path
  let answer (response : Response) : Answer := ⟨response, w, c⟩
  if (methods path).isEmpty then answer (.detail 404 "Not Found")
  else if !(methods path).contains r.method then answer (.detail 405 "Method Not Allowed")
  else match path with
    | "/health" => answer (.ok (.object [("status", .string "ok")]))
    | "/scan" =>
      match ScanOrder.ofBody w.platform.jsonDepth r.body with
      | .error response => answer response
      | .ok order => .ofOutcome tableJson (Project.scan scanner c w (some order.path) order.refresh)
    | _ =>
      match r.query.reverse.lookup "path" with
      | none => answer (.problems [⟨.queryField "path", .missing⟩])
      | some p =>
        if r.method = "DELETE" then
          .ofOutcome (fun b => .object [("removed", .bool b)]) (Project.forget c w (some p))
        else .ofOutcome infoJson (Project.info c w (some p))

end Service

end SpringRoutes
