import SpringRoutes.Text.Quoted

/-!
# `SpringRoutes.Workspace.Fault` — what can be wrong with a file

## Contents
- `FileFault.Kind`, `FileFault`: the kinds of faults, and faults of a path.
- `FileFault.message`: their wording.
-/

namespace SpringRoutes

open Text

namespace FileFault

/-- What can be wrong with a file. -/
inductive Kind
  | missing
  | taken
  | notDirectory
  | isDirectory
  | nameTooLong
  | linkLoop
  deriving Repr, DecidableEq

/-- The wording of a kind. -/
def Kind.message : Kind → String
  | .missing => "[Errno 2] No such file or directory"
  | .taken => "[Errno 17] File exists"
  | .notDirectory => "[Errno 20] Not a directory"
  | .isDirectory => "[Errno 21] Is a directory"
  | .nameTooLong => "[Errno 36] File name too long"
  | .linkLoop => "[Errno 40] Too many levels of symbolic links"

end FileFault

/-- A fault of a file at a path. The current directory alone has no path. -/
structure FileFault where
  kind : FileFault.Kind
  path : Option String
  deriving Repr, DecidableEq

/-- The wording of a fault. -/
def FileFault.message (f : FileFault) : String :=
  match f.path with
  | some p => f.kind.message ++ ": " ++ quotedText p
  | none => f.kind.message

end SpringRoutes
