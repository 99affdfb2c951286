import SpringRoutes.Number.Shortest
import SpringRoutes.Text.Blank
import SpringRoutes.Text.Casing
import SpringRoutes.Text.Integer
import SpringRoutes.Yaml.Value

/-!
# `SpringRoutes.Settings.Basic` — settings of a project

## Contents
- `Settings`: what a settings file decides, with defaults for what it leaves out.
- `Settings.Fault`, `Settings.Refusal`: why a document gives no settings.
- `Settings.integer?`, `Settings.texts`: values read leniently.
- `Settings.cleanExtensions`: file extensions in lower case, with their dot, each once.
- `Settings.ofValue`: the settings that a document gives.
-/

namespace SpringRoutes

open Text Yaml

/-- The extensions of source files, where the settings name none. -/
def Settings.defaultExtensions : List String := [".java"]

/-- The files that mark the root of a project, where the settings name none. -/
def Settings.defaultRootMarkers : List String := ["pom.xml", "build.gradle"]

/-- The settings of a project: which files are read, what is left out, and which files mark the root
    of a project. -/
structure Settings where
  root : String
  extensions : List String := Settings.defaultExtensions
  workers : Option Int := none
  excludes : List String := []
  rootMarkers : List String := Settings.defaultRootMarkers
  deriving Repr, DecidableEq

namespace Settings

/-- What can be wrong with the values of a settings file. -/
inductive Fault
  | notMapping
  | workers
  deriving Repr, DecidableEq

/-- The name of the settings file. -/
def fileName : String := ".restmap.yml"

/-- The wording of a fault. -/
def Fault.message : Fault → String
  | .notMapping => Settings.fileName ++ " must contain a mapping at the root"
  | .workers => "scan.workers must be a positive integer"

/-- Why a document gives no settings. -/
inductive Refusal
  | fault (why : Fault)
  /-- An integer in a list of texts has too many digits to be written. -/
  | longNumber
  deriving Repr, DecidableEq

/-! ## Lenient readings -/

/-- The integer that a value is or writes. Truth values are none. -/
def integer? : Value → Option Int
  | .int n => some n
  | .text s => Integer.parse? s
  | _ => none

/-- The text of a scalar that may stand in a list of texts. -/
def itemText? : Value → Option String
  | .text s => some s
  | .int n => some (toString n)
  | .float x => some x.text
  | .bool true => some "True"
  | .bool false => some "False"
  | _ => none

/-- The texts that a value lists; a text alone is a list of one. -/
def texts : Value → List String
  | .text s => [s]
  | .sequence items => items.filterMap itemText?
  | .bytes b => b.map toString
  | _ => []

/-- Whether the items of a list of texts can all be written: integers of too many digits cannot. -/
def isWritable : Value → Bool
  | .sequence items => items.all fun
    | .int n => (Nat.toDigits 10 n.natAbs).length ≤ Integer.maxDigits
    | _ => true
  | _ => true

/-- An extension without blanks around it, in lower case, with its dot. -/
def cleanExtension (s : String) : Option String :=
  match lower (trim s.toList) with
  | [] => none
  | '.' :: r => some (String.ofList ('.' :: r))
  | r => some (String.ofList ('.' :: r))

/-- The list without repetitions; the first occurrence stays. -/
def firstOccurrences (seen : List String) : List String → List String
  | [] => []
  | x :: xs => if x ∈ seen then firstOccurrences seen xs else x :: firstOccurrences (x :: seen) xs

/-- Extensions in clean form, each once. -/
def cleanExtensions (values : List String) : List String :=
  firstOccurrences [] (values.filterMap cleanExtension)

/-! ## Reading a document -/

/-- The list, or the default when it is empty. -/
def orDefault (xs default : List String) : List String :=
  if xs.isEmpty then default else xs

/-- The settings that a document gives to the project at `root`. Extensions are read before the
    number of workers, and the other lists after it. -/
def ofValue (root : String) (v : Value) : Except Refusal Settings :=
  match v with
  | .mapping _ =>
    let scan := (v.get? "scan").getD .null
    let extensions := (scan.get? "extensions").getD .null
    let workers := (scan.get? "workers").bind integer?
    let excludes := (v.get? "exclude_paths").getD .null
    let rootMarkers := (v.get? "root_markers").getD .null
    if !isWritable extensions then .error .longNumber
    else if workers.any (· < 1) then .error (.fault .workers)
    else if !(isWritable rootMarkers && isWritable excludes) then .error .longNumber
    else .ok
      { root, workers
        extensions := orDefault (cleanExtensions (texts extensions)) defaultExtensions
        excludes := texts excludes
        rootMarkers := orDefault (texts rootMarkers) defaultRootMarkers }
  | _ => .error (.fault .notMapping)

end Settings

end SpringRoutes
