import SpringRoutes.Ignore.Rule
import SpringRoutes.Reply
import SpringRoutes.Settings.Load

/-!
# `SpringRoutes.Discovery` — the source files of a project

## Contents
- `cacheFolder`, `prunedDirectories`: directories that are never entered.
- `extension`: the last extension of a file name.
- `Discovery.files`: the files below a directory that no rule leaves out.
- `Discovery.sources`: the source files of a project, sorted.
- `Discovery.depth`: how deep its directories go.
- `Discovery.find`: the source files below a path.
-/

namespace SpringRoutes

open Text

/-- The folder in which a project keeps its results. -/
def cacheFolder : String := ".restmap"

/-- The directories that are never entered, whatever the rules say. -/
def prunedDirectories : List String :=
  [".git", ".hg", ".svn", ".idea", ".vscode", ".gradle", ".mvn", cacheFolder, "node_modules",
   "target", "__pycache__"]

/-- The last extension of a file name with its dot. A dot at the start or at the end begins none. -/
def extension (name : String) : String :=
  let cs := name.toList
  let tail := (cs.reverse.takeWhile (· != '.')).reverse
  if tail.length = 0 ∨ cs.length ≤ tail.length + 1 then "" else String.ofList ('.' :: tail)

namespace Discovery

/-- Whether a directory with a name and a path from the project's root is entered. -/
def enters (rules : List IgnoreRule) (name path : String) : Bool :=
  !prunedDirectories.contains name && !ignores rules path.toList true

mutual

/-- The files below a directory that no rule leaves out, as paths from the project's root. The path
    of the directory ends with a slash, or is empty. -/
def filesBelow (rules : List IgnoreRule) (path : String) : List (String × Tree) → List String
  | [] => []
  | (name, t) :: rest => filesAt rules path name t ++ filesBelow rules path rest

/-- The files of one entry of a directory. Links count as files. -/
def filesAt (rules : List IgnoreRule) (path name : String) : Tree → List String
  | .file _ | .loop => if ignores rules (path ++ name).toList false then [] else [path ++ name]
  | .dir es =>
    if enters rules name (path ++ name) then filesBelow rules (path ++ name ++ "/") es else []

/-- How many directories are entered one inside the other, at most, below a directory. -/
def depthBelow (rules : List IgnoreRule) (path : String) : List (String × Tree) → Nat
  | [] => 0
  | (name, t) :: rest => max (depthAt rules path name t) (depthBelow rules path rest)

/-- The same for one entry of a directory. -/
def depthAt (rules : List IgnoreRule) (path name : String) : Tree → Nat
  | .file _ | .loop => 0
  | .dir es =>
    if enters rules name (path ++ name) then depthBelow rules (path ++ name ++ "/") es + 1 else 0

end

/-- The name at the end of a path with slashes. -/
def lastName (path : String) : String :=
  String.ofList (path.toList.reverse.takeWhile (· != '/')).reverse

/-- The files of a project that no rule leaves out and that have one of the extensions, in any
    letter case. -/
def files (rules : List IgnoreRule) (extensions : List String) (t : Tree) : List String :=
  let wanted := extensions.map lowercase
  (filesBelow rules "" t.entries).filter fun f =>
    wanted.contains (lowercase (extension (lastName f)))

/-- The rules of a project: those of its ignore file, then those of its settings. -/
def rules (w : Workspace) (root : Place) (excludes : List String) : List IgnoreRule :=
  let file := root.path.child ".gitignore"
  let ignored := if w.isFile file then
      match w.readLossy file with
      | .ok text => lines text
      | .error _ => []
    else []
  IgnoreRule.ofLines (ignored ++ excludes.map String.toList)

/-- The source files of the project at `root`, sorted. -/
def sources (w : Workspace) (root : Place) (s : Settings) : List String :=
  let found := match w.tree.find? root with
    | some t => files (rules w root s.excludes) s.extensions t
    | none => []
  let folder := if root = [] then "/" else Place.text root ++ "/"
  (found.map (folder ++ ·)).mergeSort fun a b => decide (a ≤ b)

/-- How many directories of the project at `root` are entered one inside the other, at most. -/
def depth (w : Workspace) (root : Place) (s : Settings) : Nat :=
  match w.tree.find? root with
  | some t => depthBelow (rules w root s.excludes) "" t.entries
  | none => 0

/-- Check that a place is a directory; messages show the path as `shown`. -/
def checkProject (w : Workspace) (root : Place) (shown : String) : Except Failure Unit :=
  if !w.hasEntry root.path then .error (.projectMissing shown)
  else if !w.isDir root.path then .error (.projectNotDirectory shown)
  else .ok ()

/-- The settings of a project, or the default ones when its settings file cannot be used. -/
def settingsOrDefault (w : Workspace) (root : Place) (warn : String → Event) : Reply Settings :=
  match Settings.load w root.path with
  | .ok s => ⟨[], .ok s⟩
  | .error (.settings why) => ⟨[warn why.message], .ok { root := Place.text root }⟩
  | .error e => ⟨[], .error e⟩

/-- Check that the directories of a project do not go deeper than the limit, if there is one. -/
def checkDepth (limit : Option Nat) (w : Workspace) (root : Place) (s : Settings) :
    Except Failure Unit :=
  if limit.any (· < depth w root s) then .error .tooDeep else .ok ()

/-- The source files below a path, under the given settings or those of the project. There may be a
    limit to how deep directories are entered. -/
def findWithin (limit : Option Nat) (w : Workspace) (path : String) (given : Option Settings) :
    Reply (List String) := do
  let root ← Reply.ofExcept (w.placeOf path)
  Reply.ofExcept (checkProject w root path)
  let s ← match given with
    | some s => pure s
    | none => settingsOrDefault w root fun text =>
        ⟨.warning, .discovery, "Ignoring invalid " ++ Settings.fileName ++ ": " ++ text⟩
  Reply.ofExcept (checkDepth limit w root s)
  let found := sources w root s
  Reply.report .debug .discovery
    ("Found " ++ toString found.length ++ " source file(s) under " ++ Place.text root)
  return found

/-- The source files below a path, however deep they are. -/
def find (w : Workspace) (path : String) (given : Option Settings) : Reply (List String) :=
  findWithin none w path given

end Discovery

end SpringRoutes
