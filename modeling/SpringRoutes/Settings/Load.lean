import SpringRoutes.Workspace.Basic

/-!
# `SpringRoutes.Settings.Load` — the settings file of a project

## Contents
- `Settings.place`: where the settings file for a path is.
- `Settings.readValue`: the document in a settings file.
- `Settings.load`: the settings for a path; without a settings file, the default ones.
-/

namespace SpringRoutes

open Text

namespace Settings

/-- Where the settings file for a path is: in that directory, or beside that file. -/
def place (w : Workspace) (p : WrittenPath) : Except Failure Place := do
  let p ← w.expand p
  w.resolve
    (if w.isDir p then p.child fileName
     else if p.name = fileName then p
     else p.parent.child fileName)

/-- The document in a settings file. A blank one is an empty mapping. -/
def readValue (w : Workspace) (file : WrittenPath) : Except Failure Yaml.Value :=
  match w.readText file with
  | .error (.file f) => .error (.settings (.unreadable f))
  | .error e => .error e
  | .ok text =>
    if text.all isBlank then .ok (.mapping [])
    else match w.platform.yaml text with
      | .error .document => .error (.settings .malformed)
      | .error f => .error (.scalar f)
      | .ok .null => .ok (.mapping [])
      | .ok v => .ok v

/-- The settings for a path. -/
def load (w : Workspace) (p : WrittenPath) : Except Failure Settings := do
  let file ← place w p
  let root := Place.text file.dropLast
  if w.hasEntry file.path then
    let v ← readValue w file.path
    match ofValue root v with
    | .ok s => .ok s
    | .error (.fault f) => .error (.settings (.value f))
    | .error .longNumber => .error (.longNumber none)
  else .ok { root }

end Settings

end SpringRoutes
