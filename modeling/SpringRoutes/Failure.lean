import SpringRoutes.Json.Reader
import SpringRoutes.Settings.Basic
import SpringRoutes.Text.Utf8
import SpringRoutes.Workspace.Fault
import SpringRoutes.Yaml.Fault

/-!
# `SpringRoutes.Failure` — why a request fails

## Contents
- `SettingsFailure`: why the settings of a project cannot be used.
- `Failure`, `Failure.message`: all causes and their wording.
-/

namespace SpringRoutes

/-- Why the settings of a project cannot be used. -/
inductive SettingsFailure
  | unreadable (fault : FileFault)
  /-- The settings file is no document. -/
  | malformed
  | value (fault : Settings.Fault)
  deriving Repr, DecidableEq

/-- The wording of a settings failure. -/
def SettingsFailure.message : SettingsFailure → String
  | .unreadable f => "Failed to read " ++ Settings.fileName ++ ": " ++ f.message
  | .malformed =>
    "Failed to parse " ++ Settings.fileName ++ ": " ++ Yaml.Fault.document.message
  | .value f => f.message

/-- Why a request fails. -/
inductive Failure
  | projectMissing (shown : String)
  | projectNotDirectory (shown : String)
  | settings (why : SettingsFailure)
  /-- A scalar of a settings file is not what its type claims, or the reader of such files fails in a
      way of its own. -/
  | scalar (fault : Yaml.Fault)
  /-- A path starts at the home directory of a user who has none. -/
  | homeUnknown
  /-- A path holds a null character. -/
  | nullByte
  /-- A file is not well-formed text. -/
  | encoding (fault : Utf8.Fault)
  | file (fault : FileFault)
  /-- The way to a place leads through a link that leads to itself. -/
  | linkLoop (place : String)
  /-- The directories of a project go too deep. -/
  | tooDeep
  /-- A number in a stored table or in the settings has too many digits. They are counted when it is
      read, and not when it is written. -/
  | longNumber (digits : Option Nat)
  /-- A stored table has a bracket inside too many others. -/
  | nested (bracket : Json.Bracket)
  deriving Repr, DecidableEq

/-- The wording of a failure. -/
def Failure.message : Failure → String
  | .projectMissing shown => "Project path not found: " ++ shown
  | .projectNotDirectory shown => "Project path is not a directory: " ++ shown
  | .settings why => why.message
  | .scalar f => f.message
  | .homeUnknown => "Could not determine home directory."
  | .nullByte => "embedded null byte"
  | .encoding f => f.message
  | .file f => f.message
  | .linkLoop place => "Symlink loop from " ++ Text.quotedText place
  | .tooDeep => "maximum recursion depth exceeded"
  | .longNumber (some n) => (Yaml.Fault.longInteger n).message
  | .longNumber none =>
    "Exceeds the limit (4300 digits) for integer string conversion; "
      ++ "use sys.set_int_max_str_digits() to increase the limit"
  | .nested b => (Json.ReadError.nested b).message []

end SpringRoutes
