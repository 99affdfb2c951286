import SpringRoutes.Route.Path
import SpringRoutes.Text.Word

/-!
# `SpringRoutes.Outline.Annotation` — annotations on one line of a source

Annotations are recognised line by line, without parsing the language around them.

## Contents
- `Mapping`, `Mapping.parse?`: a routing annotation with its path and verb.
- `pathArgument?`, `requestVerb`: the path and the verb named by an argument list.
- `Client`, `Client.parse?`: a Feign client annotation with its name and path.
- `isEntryPoint`, `isOverride`: the annotations of controllers and of overriding methods.
-/

namespace SpringRoutes

open Text

/-- Path and verb read off a routing annotation. -/
structure Mapping where
  path : String
  verb : String
  deriving Repr, DecidableEq

/-- The routing annotations. -/
inductive MappingKind
  | get
  | post
  | put
  | delete
  | patch
  | request
  deriving Repr, DecidableEq

namespace MappingKind

/-- Every kind. -/
def all : List MappingKind := [.get, .post, .put, .delete, .patch, .request]

/-- The marker that starts an annotation of this kind. -/
def marker : MappingKind → List Char
  | .get => "@GetMapping".toList
  | .post => "@PostMapping".toList
  | .put => "@PutMapping".toList
  | .delete => "@DeleteMapping".toList
  | .patch => "@PatchMapping".toList
  | .request => "@RequestMapping".toList

/-- The verb that the kind fixes; a request mapping leaves it to its arguments. -/
def verb? : MappingKind → Option String
  | .get => some "GET"
  | .post => some "POST"
  | .put => some "PUT"
  | .delete => some "DELETE"
  | .patch => some "PATCH"
  | .request => none

end MappingKind

/-! ## Arguments -/

/-- The text between two double quotes at the start of `s`. -/
def quoted? : List Char → Option String
  | '"' :: r => (splitAtFirst '"' r).map fun p => String.ofList p.1
  | _ => none

/-- A quoted text, possibly after an opening brace, with blanks anywhere before it. -/
def bracedQuoted? (s : List Char) : Option String :=
  match trimStart s with
  | '\x7b' :: r => quoted? (trimStart r)
  | r => quoted? r

/-- What follows `name =` at the start of `s`. -/
def afterAssign? (name s : List Char) : Option (List Char) :=
  match (afterLiteral name s).map trimStart with
  | some ('=' :: r) => some r
  | _ => none

/-- The quoted text assigned to the word `name` at the start of `s`. -/
def assignedHere? (name : String) (before : Option Char) (s : List Char) : Option String :=
  if opensWord before then (afterAssign? name.toList s).bind bracedQuoted? else none

/-- The first quoted text assigned to the word `name` anywhere in the arguments. -/
def assigned? (name : String) (args : List Char) : Option String :=
  firstMatch (assignedHere? name) none args

/-- The path that an argument list names: a bare quoted text, else that of `value`, else that of
    `path`. -/
def pathArgument? (args : List Char) : Option String :=
  (bracedQuoted? args).or <| (assigned? "value" args).or (assigned? "path" args)

/-- What stands before a verb. -/
def verbMark : List Char := "RequestMethod.".toList

/-- The verb at the start of `s`, in upper case. -/
def verbHere? (s : List Char) : Option String :=
  match (afterLiteral verbMark s).map (·.takeWhile isWord) with
  | some (c :: cs) => some (String.ofList (upper (c :: cs)))
  | _ => none

/-- The first verb of the arguments. -/
def requestVerb (args : List Char) : String :=
  (firstMatch (fun _ s => verbHere? s) none args).getD Verb.any

/-- The text up to the first closing parenthesis, when `s` opens one after optional blanks. -/
def parenthesized? (s : List Char) : Option (List Char) :=
  match trimStart s with
  | '(' :: r => (splitAtFirst ')' r).map (·.1)
  | _ => none

/-- What follows the marker `m` in `s`, when `s` starts with it and it ends at the edge of a
    word. -/
def afterMarker? (m s : List Char) : Option (List Char) :=
  (afterLiteral m s).filter closesWord

/-! ## Routing annotations -/

/-- The marker at the start of `s`, and what follows it. -/
def markerAt? (s : List Char) : Option (MappingKind × List Char) :=
  MappingKind.all.findSome? fun k => (afterMarker? k.marker s).map fun r => (k, r)

/-- The rest of the line that `s` starts in, provided that no further line follows. -/
def finalLine? (s : List Char) : Option (List Char) :=
  match s.dropWhile (· ≠ '\n') with
  | [] => some s
  | ['\n'] => some (s.takeWhile (· ≠ '\n'))
  | _ => none

/-- The marker at the start of a text whose line is its last one, with the rest of that line. -/
def markedLine? (s : List Char) : Option (MappingKind × List Char) :=
  (markerAt? s).bind fun m => (finalLine? m.2).map fun rest => (m.1, rest)

/-- The first marker of the text whose line is its last one, with the rest of that line. -/
def firstMarker? (text : List Char) : Option (MappingKind × List Char) :=
  firstMatch (fun _ s => markedLine? s) none text

/-- What an annotation says, by what follows its marker. One whose argument list does not close on
    the line is not recognised at all. -/
def Mapping.after? (k : MappingKind) (rest : List Char) : Option Mapping :=
  match trimStart rest with
  | '(' :: _ =>
    (parenthesized? rest).map fun args =>
      ⟨(pathArgument? args).getD "", k.verb?.getD (requestVerb args)⟩
  | _ => some ⟨"", k.verb?.getD Verb.any⟩

/-- The routing annotation on a line. -/
def Mapping.parse? (line : List Char) : Option Mapping :=
  (firstMarker? line).bind fun m => Mapping.after? m.1 m.2

/-! ## Client annotations -/

/-- Name and path of a declarative client. -/
structure Client where
  name : Option String
  path : Option String
  deriving Repr, DecidableEq

/-- The quoted text assigned to `name` at the start of an argument. -/
def argument? (name : String) (s : List Char) : Option String :=
  (afterAssign? name.toList (trimStart s)).bind fun r => quoted? (trimStart r)

/-- The quoted text assigned to `name` in an argument that follows a comma at the start of `s`, or
    that `s` starts with, when nothing stands before it. -/
def topLevelHere? (name : String) (before : Option Char) (s : List Char) : Option String :=
  let comma := match s with
    | ',' :: r => argument? name r
    | _ => none
  if before.isNone then (argument? name s).or comma else comma

/-- The quoted text assigned to `name` in an argument that starts the list or follows a comma. -/
def topLevel? (name : String) (args : List Char) : Option String :=
  firstMatch (topLevelHere? name) none args

/-- Name and path that the arguments of a client annotation give: the name is that of `name`, else
    that of `value`, else a bare quoted text. -/
def Client.ofArguments (args : List Char) : Client where
  name := (topLevel? "name" args).or <| (topLevel? "value" args).or (quoted? (trimStart args))
  path := assigned? "path" args

/-- The client annotation at the start of `s`. -/
def Client.here? (s : List Char) : Option Client :=
  (afterMarker? "@FeignClient".toList s).map fun r => Client.ofArguments ((parenthesized? r).getD [])

/-- The client annotation on a line. -/
def Client.parse? (line : List Char) : Option Client :=
  firstMatch (fun _ s => Client.here? s) none line

/-! ## Plain markers -/

/-- Whether a marker, ended by the edge of a word, stands anywhere on the line. -/
def hasMarker (marker : String) (line : List Char) : Bool :=
  (firstMatch (fun _ s => afterMarker? marker.toList s) none line).isSome

/-- Whether the line carries a controller annotation. -/
def isEntryPoint (line : List Char) : Bool :=
  hasMarker "@Controller" line || hasMarker "@RestController" line

/-- Whether the line carries an override annotation. -/
def isOverride (line : List Char) : Bool :=
  hasMarker "@Override" line

end SpringRoutes
