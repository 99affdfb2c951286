import SpringRoutes.Cli.Run
import Std.Time.DateTime.Timestamp

/-!
# `SpringRoutes.Main` — the program

The work is done by `Cli.run` on a picture of the files that matter. This module takes that picture,
and puts on disk what the run has changed. Answering requests over a network is left to whoever
hosts `Service.handle`; the program only tells where it would listen.

## Contents
- `Picture.shallow`, `Picture.deep`: reading directories.
- `Picture.changes`: the files that a run has written.
- `main`: the program.
-/

namespace SpringRoutes

namespace Picture

/-- The bytes of a file. -/
def bytes (path : String) : IO Content := do
  let b ← IO.FS.readBinFile path
  match String.fromUTF8? b with
  | some s => return .text s
  | none => return .bytes (b.toList.map UInt8.toNat)

/-- The entries of a directory, with nothing in them. An entry that cannot be followed is taken for a
    link that leads to itself. -/
def names (path : String) : IO (List (String × Tree)) := do
  let here ← IO.currentDir
  let dir := here / path
  if !(← dir.isDir) then return []
  let entries ← dir.readDir
  entries.toList.mapM fun e => do
    if ← e.path.isDir then return (e.fileName, .dir [])
    else if ← e.path.pathExists then return (e.fileName, .file (.text ""))
    else return (e.fileName, .loop)

/-- An entry of the directory at a place, with its content if it is a file. -/
def withContent (place : Place) (name : String) : Tree → IO Tree
  | .file _ => return .file (← bytes (Place.text (place ++ [name])))
  | t => return t

/-- A directory with what is in it, where only settings files have their content. -/
def shallow (place : Place) : IO (List (String × Tree)) := do
  (← names (Place.text place)).mapM fun (name, t) => do
    if name = Settings.fileName then return (name, ← withContent place name t)
    else return (name, t)

/-- How deep directories may be. -/
def depth : Nat := 1000

/-- What is at a place, with everything below it. Directories may be so deep and no deeper. -/
def deep : Nat → Place → IO Tree
  | 0, place => throw (IO.userError ("Directories are too deep at " ++ Place.text place))
  | fuel + 1, place => do
    let entries ← (← names (Place.text place)).mapM fun (name, t) => do
      if t.isDir && (!prunedDirectories.contains name || name == cacheFolder) then
        return (name, ← deep fuel (place ++ [name]))
      else return (name, ← withContent place name t)
    return .dir entries

/-- Put entries into the directory at a place. -/
def fill (t : Tree) (place : Place) (entries : List (String × Tree)) : Tree :=
  entries.foldl (fun t e =>
    if (t.find? (place ++ [e.1])).isSome then t else t.set (place ++ [e.1]) e.2) t

mutual

/-- The files of a tree, each with its place and content. -/
def files (place : Place) : Tree → List (Place × Content)
  | .file c => [(place, c)]
  | .loop => []
  | .dir es => filesOf place es

/-- The files of the entries of a directory. -/
def filesOf (place : Place) : List (String × Tree) → List (Place × Content)
  | [] => []
  | (name, t) :: rest => files (place ++ [name]) t ++ filesOf place rest

end

/-- The files that are new or different in a later tree. -/
def changes (before after : Tree) : List (Place × Content) :=
  (files [] after).filter fun f =>
    match before.find? f.1 with
    | some (.file c) => c ≠ f.2
    | _ => true

/-- The time now. -/
def now : IO Moment := do
  let t ← Std.Time.Timestamp.now
  let epoch : Moment := { year := 1970, month := 1, day := 1 }
  return epoch.shift (t.toNanosecondsSinceUnixEpoch.toInt / 1000)

/-- The files on the way to a place, and all files below it if that is asked for. -/
def around (w : Workspace) (place : Place) (below : Bool) : IO Workspace := do
  let mut tree := w.tree
  for p in (Root.candidates place).reverse do
    tree := fill tree p (← shallow p)
  if below then
    let here ← IO.currentDir
    if ← (here / Place.text place).isDir then
      tree := tree.set place (← deep depth place)
  return { w with tree }

/-- A picture of what a command line needs. -/
def take (args : List String) : IO Workspace := do
  let here := WrittenPath.partsOf (← IO.currentDir).toString.toList
  let home := WrittenPath.partsOf ((← IO.getEnv "HOME").getD "/").toList
  let w ← around { tree := .dir [], cwd := some here, home, now := ← now } here false
  match Cli.Invocation.parse args with
  | .error _ => return w
  | .ok i =>
    let w ← match i.logFile with
      | none => pure w
      | some file =>
        match w.resolve (.ofString file) with
        | .error _ => pure w
        | .ok place =>
          let w ← around w place.dropLast false
          if w.isFile place.path then
            pure { w with tree := w.tree.set place (.file (← bytes (Place.text place))) }
          else pure w
    let path := match i.command with
      | .scan p .. | .info p | .clear p => p
      | .serve .. => some "."
    let w ← match path with
      | none => pure w
      | some p =>
        match w.placeOf p with
        | .ok place => around w place.dropLast false
        | .error _ => pure w
    match Project.rootOf w path with
    | .ok root => around w root true
    | .error _ => return w

end Picture

/-- Run the command line, and put on disk what it has changed. -/
def runOnDisk (args : List String) : IO UInt32 := do
  let w ← Picture.take args
  let ending := Cli.run Scan.standard w args
  for (place, content) in Picture.changes w.tree ending.workspace.tree do
    IO.FS.createDirAll (Place.text place.dropLast)
    IO.FS.writeBinFile (Place.text place) ⟨(content.toBytes.map Nat.toUInt8).toArray⟩
  match ending.result with
  | .ok f =>
    (← IO.getStdout).putStr f.exit.stdout
    (← IO.getStderr).putStr f.exit.stderr
    match f.service with
    | some (host, port) =>
      (← IO.getStderr).putStrLn ("restmap serve: " ++ host ++ ":" ++ toString port)
    | none => pure ()
    return f.exit.code.toUInt32
  | .error e =>
    (← IO.getStderr).putStrLn e.message
    return 1

end SpringRoutes

/-- The program. -/
def main (args : List String) : IO UInt32 :=
  SpringRoutes.runOnDisk args
