import SpringRoutes.Workspace.Path
import SpringRoutes.Yaml.Composition

/-!
# `SpringRoutes.Workspace.Platform` — what requests rely on besides the files

The reader of settings documents is a library of its own, how deeply a JSON text may nest depends on
the room that its reader is given, and a file system may refuse a file. None of this is decided by
the program, so it is a part of its surroundings.

## Contents
- `Platform`: the reader, the room and the refusals.
- `Platform.standard`: the platform that the program runs on.
-/

namespace SpringRoutes

/-- What requests rely on besides the files. -/
structure Platform where
  /-- The value of a settings document. The fault `Yaml.Fault.document` tells that a text is no
      document; the reader may fail in any other way too. -/
  yaml : List Char → Except Yaml.Fault Yaml.Value
  /-- How many brackets of a JSON text may be open at once. -/
  jsonDepth : Nat
  /-- A store with the routes of a scan has five brackets open at once. -/
  five_le_jsonDepth : 5 ≤ jsonDepth
  /-- Whether the file system takes a file at a path. It refuses one whose path is too long. A
      directory is taken wherever there is one to put it into. -/
  accepts : WrittenPath → Bool

/-- The platform that the program runs on. It takes files at all paths. -/
def Platform.standard : Platform where
  yaml := Yaml.parse
  jsonDepth := 995
  five_le_jsonDepth := by decide
  accepts _ := true

end SpringRoutes
