import SpringRoutes.Failure
import SpringRoutes.Text.Lines
import SpringRoutes.Time.Moment
import SpringRoutes.Workspace.Platform
import SpringRoutes.Workspace.Tree

/-!
# `SpringRoutes.Workspace.Basic` — files, current directory and clock

## Contents
- `Workspace`: the surroundings in which requests are answered.
- `Workspace.look`: what a path leads to, directory by directory.
- `Workspace.resolve`: the place that a path denotes.
- `Workspace.read`, `Workspace.write`, `Workspace.append`: work on files.
- `Workspace.makeDirs`, `Workspace.save`: directories, and files with the directories above them.
-/

namespace SpringRoutes

open Text

/-- The surroundings of a request: the file tree, the current directory, the user's home directory,
    the time and the platform. -/
structure Workspace where
  tree : Tree
  /-- The current directory, unless it has been removed. -/
  cwd : Option Place
  home : Place
  now : Moment
  platform : Platform := .standard

namespace Workspace

/-! ## Starting places -/

/-- Replace a leading `~` by the home directory. Other users' homes are not known. -/
def expand (w : Workspace) (p : WrittenPath) : Except Failure WrittenPath :=
  match p.parts with
  | first :: rest =>
    if p.isAbsolute || !first.startsWith "~" then .ok p
    else if first = "~" then .ok (Place.path (w.home ++ rest))
    else .error .homeUnknown
  | [] => .ok p

/-- The current directory, if it is still there. -/
def currentPlace (w : Workspace) : Except Failure Place :=
  match w.cwd with
  | some here => .ok here
  | none => .error (.file ⟨.missing, none⟩)

/-! ## Looking -/

/-- Where a way leads from a place, and what is there. Every step starts from a directory. A link is
    followed on the way, and not at its end. -/
def walk (t : Tree) : Place → List String → Except FileFault.Kind (Place × Option Tree)
  | here, [] => .ok (here, t.find? here)
  | here, part :: rest =>
    match t.find? here with
    | none => .error .missing
    | some (.file _) => .error .notDirectory
    | some .loop => .error .linkLoop
    | some (.dir _) => walk t (here.follow part) rest

/-- Where a path leads, and what is there. -/
def look (w : Workspace) (p : WrittenPath) : Except FileFault.Kind (Place × Option Tree) :=
  if p.isAbsolute then walk w.tree [] p.parts
  else match w.cwd with
    | some here => walk w.tree here p.parts
    | none => .error .missing

/-- What a path leads to, if it leads to anything. -/
def find? (w : Workspace) (p : WrittenPath) : Option Tree :=
  match w.look p with
  | .ok (_, t) => t.bind Tree.followed?
  | .error _ => none

/-- Whether there is something at a path. -/
def hasEntry (w : Workspace) (p : WrittenPath) : Bool :=
  (w.find? p).isSome

/-- Whether a path leads to a directory. -/
def isDir (w : Workspace) (p : WrittenPath) : Bool :=
  (w.find? p).any Tree.isDir

/-- Whether a path leads to a file. -/
def isFile (w : Workspace) (p : WrittenPath) : Bool :=
  (w.find? p).any fun t => !t.isDir

/-! ## Places of texts -/

/-- Whether looking has come to a link that leads to itself. -/
def isAtLoop : Except FileFault.Kind (Place × Option Tree) → Bool
  | .error .linkLoop | .ok (_, some .loop) => true
  | _ => false

/-- Whether a path leads to a link that leads to itself, or through one. -/
def loops (w : Workspace) (p : WrittenPath) : Bool :=
  isAtLoop (w.look p)

/-- A place, unless there is a link on the way to it that leads to itself. -/
def reach (w : Workspace) (p : Place) : Except Failure Place :=
  if w.loops p.path then .error (.linkLoop (Place.text p)) else .ok p

/-- The place that a path denotes. Its text decides where it is, and it does not have to be there. -/
def resolve (w : Workspace) (p : WrittenPath) : Except Failure Place := do
  if p.hasNull then .error .nullByte
  let start ← if p.isAbsolute then .ok [] else w.currentPlace
  w.reach (p.parts.foldl Place.follow start)

/-- The place that a text denotes, with `~` for the home directory. -/
def placeOf (w : Workspace) (s : String) : Except Failure Place := do
  let p ← w.expand (.ofString s)
  w.resolve p

/-! ## Reading and writing -/

/-- A fault at a path. -/
def fault {α : Type} (kind : FileFault.Kind) (p : WrittenPath) : Except Failure α :=
  .error (.file ⟨kind, some p.text⟩)

/-- The content of a file. -/
def read (w : Workspace) (p : WrittenPath) : Except Failure Content :=
  if p.hasNull then .error .nullByte
  else match w.look p with
    | .error kind => fault kind p
    | .ok (_, none) => fault .missing p
    | .ok (_, some (.dir _)) => fault .isDirectory p
    | .ok (_, some .loop) => fault .linkLoop p
    | .ok (_, some (.file c)) => .ok c

/-- The text of a file with uniform line breaks; it has to be well-formed. -/
def readText (w : Workspace) (p : WrittenPath) : Except Failure (List Char) := do
  let c ← w.read p
  match c.decode with
  | .ok s => .ok (unifyNewlines s)
  | .error f => .error (.encoding f)

/-- The text of a file with uniform line breaks and without ill-formed bytes. -/
def readLossy (w : Workspace) (p : WrittenPath) : Except Failure (List Char) := do
  let c ← w.read p
  .ok (unifyNewlines c.decodeLossy)

/-- Put a file at a path whose directory exists; `change` gives the new content. The file system
    may not take it. -/
def modifyFile (w : Workspace) (p : WrittenPath) (change : Option Content → Content) :
    Except Failure Workspace :=
  if p.hasNull then .error .nullByte
  else if !w.platform.accepts p then fault .nameTooLong p
  else match w.look p with
    | .error kind => fault kind p
    | .ok (_, some (.dir _)) => fault .isDirectory p
    | .ok (_, some .loop) => fault .linkLoop p
    | .ok (here, none) => .ok { w with tree := w.tree.set here (.file (change none)) }
    | .ok (here, some (.file c)) => .ok { w with tree := w.tree.set here (.file (change (some c))) }

/-- Write a file. -/
def write (w : Workspace) (p : WrittenPath) (c : Content) : Except Failure Workspace :=
  w.modifyFile p fun _ => c

/-- Add a text at the end of a file, which is made if it is missing. -/
def append (w : Workspace) (p : WrittenPath) (s : String) : Except Failure Workspace :=
  w.modifyFile p fun c => (c.getD (.text "")).append s

/-! ## Directories -/

/-- Make a directory in a directory. -/
def makeDir (w : Workspace) (p : WrittenPath) : Except FileFault.Kind Workspace :=
  match w.look p with
  | .error kind => .error kind
  | .ok (_, some _) => .error .taken
  | .ok (here, none) => .ok { w with tree := w.tree.set here (.dir []) }

/-- The workspace after a change that may have stopped halfway, and the failure that stopped it. -/
abbrev Change := Workspace × Option Failure

/-- The outcome of making a directory, where one that is there already is as good. -/
def settle (w : Workspace) (p : WrittenPath) : Except FileFault.Kind Workspace → Change
  | .ok w' => (w', none)
  | .error kind => if w.isDir p then (w, none) else (w, some (.file ⟨kind, some p.text⟩))

/-- Make a directory and up to so many of those above it. -/
def makeDirsAbove : Nat → Workspace → WrittenPath → Change
  | 0, w, p => w.settle p (w.makeDir p)
  | n + 1, w, p =>
    match w.makeDir p with
    | .error .missing =>
      match makeDirsAbove n w p.parent with
      | (w, none) => w.settle p (w.makeDir p)
      | r => r
    | r => w.settle p r

/-- Make a directory and all those above it that are missing. -/
def makeDirs (w : Workspace) (p : WrittenPath) : Change :=
  if p.hasNull then (w, some .nullByte) else makeDirsAbove p.parts.length w p

/-- Write a file, after the directories above it have been made. -/
def save (w : Workspace) (p : WrittenPath) (c : Content) : Change :=
  match w.makeDirs p.parent with
  | (w, none) =>
    match w.write p c with
    | .ok w => (w, none)
    | .error e => (w, some e)
  | r => r

end Workspace

end SpringRoutes
