import SpringRoutes.Cli.Command
import SpringRoutes.Project

/-!
# `SpringRoutes.Cli.Run` — running the program

## Contents
- `Cli.consoleLine`, `Cli.logLine`: events on the console and in log files.
- `Cli.Finished`, `Cli.Ending`: what a run has written, and the files after it.
- `Cli.run`: run a command line.
-/

namespace SpringRoutes

open Text

namespace Cli

/-! ## Events -/

/-- An event on the console. -/
def consoleLine (e : Event) : String :=
  "[restmap] " ++ e.level.text ++ " " ++ e.text ++ "\n"

/-- A time as log files show it. -/
def logTime (t : Moment) : String :=
  let pad (width n : Nat) : String :=
    let digits := Nat.toDigits 10 n
    String.ofList (List.replicate (width - digits.length) '0' ++ digits)
  pad 4 t.year ++ "-" ++ pad 2 t.month ++ "-" ++ pad 2 t.day ++ " " ++ pad 2 t.hour ++ ":"
    ++ pad 2 t.minute ++ ":" ++ pad 2 t.second ++ "," ++ pad 3 (t.micro / 1000)

/-- An event in a log file. -/
def logLine (now : Moment) (e : Event) : String :=
  logTime now ++ " " ++ e.level.text ++ " " ++ e.reporter.text ++ ": " ++ e.text ++ "\n"

/-- The least level that the console shows: all with `-v`, only warnings beside JSON. -/
def consoleLevel (i : Invocation) : Level :=
  if i.isVerbose then .debug
  else match i.command with
    | .scan _ _ true _ => .warning
    | _ => .info

/-- What the console shows of events. -/
def console (i : Invocation) (events : List Event) : String :=
  String.join
    ((events.filter fun e => (consoleLevel i).rank ≤ e.level.rank).map consoleLine)

/-! ## Runs -/

/-- What a run has written, and the service that it starts, if any. -/
structure Finished where
  exit : Exit
  service : Option (String × Int) := none
  deriving Repr, DecidableEq

/-- The end of a run, and the files after it. -/
structure Ending where
  result : Except Failure Finished
  workspace : Workspace

/-- How a failure ends a command: missing projects and unusable settings are told, all else
    is passed on. -/
def endOf (command : String) (shown : String) (e : Failure) : Except Failure Finished :=
  let told (text : String) : Except Failure Finished :=
    .ok { exit := { code := 1, stderr := shown ++ text ++ "\n" } }
  match e with
  | .projectMissing _ | .projectNotDirectory _ | .file ⟨.missing, _⟩ | .file ⟨.notDirectory, _⟩ =>
    told e.message
  | .settings _ => told ("restmap " ++ command ++ " failed: " ++ e.message)
  | _ => .error e

/-- The text of a route table. -/
def tableText (asJson : Bool) (routes : List Route) : String :=
  if asJson then (Json.array (routes.map Route.toJson)).render ++ "\n"
  else if routes.isEmpty then "No endpoints found\n"
  else String.join (routes.map fun r => r.label ++ "\n")

/-- The text of what is kept for a project. -/
def infoText (i : Store.Info) : String :=
  "Cache: " ++ (if i.hasCache then "present" else "empty") ++ ", endpoints: " ++ toString i.count
    ++ ", root: " ++ i.root.getD "-" ++ ", age: " ++ toString i.age ++ "s\n"

/-- The text of a removal. -/
def clearText (removed : Bool) : String :=
  if removed then "Cache cleared\n" else "Nothing to clear\n"

/-- The end of a command whose request has an outcome; events go to the console. -/
def finish {α : Type} (i : Invocation) (text : α → String) (o : Outcome α) :
    Ending × List Event :=
  let shown := console i o.reply.events
  let result := match o.reply.result with
    | .ok a => .ok { exit := { code := 0, stdout := text a, stderr := shown } }
    | .error e => endOf i.command.name shown e
  (⟨result, o.workspace⟩, o.reply.events)

/-- Run a command, and tell the events on the way. -/
def perform (scanner : Scanner) (i : Invocation) (w : Workspace) : Ending × List Event :=
  match i.command with
  | .serve host port => (⟨.ok { exit := { code := 0 }, service := some (host, port) }, w⟩, [])
  | .scan path refresh asJson _ =>
    finish i (fun t => tableText asJson t.routes) (Project.scan scanner .perProject w path refresh)
  | .info path => finish i infoText (Project.info .perProject w path)
  | .clear path => finish i clearText (Project.forget .perProject w path)

/-- Make a log file ready: its directory is made, and the file if it is missing. -/
def openLog (w : Workspace) (file : String) : Except Failure WrittenPath × Workspace :=
  let p := WrittenPath.ofString file
  match w.makeDirs p.parent with
  | (w, some e) => (.error e, w)
  | (w, none) =>
    match w.resolve p with
    | .error e => (.error e, w)
    | .ok place =>
      match w.append place.path "" with
      | .error e => (.error e, w)
      | .ok w => (.ok place.path, w)

/-- Add events to a log file. -/
def writeLog (w : Workspace) (file : WrittenPath) (events : List Event) : Workspace :=
  match w.append file (String.join (events.map (logLine w.now))) with
  | .ok w => w
  | .error _ => w

/-- Run a command line. -/
def run (scanner : Scanner) (w : Workspace) (args : List String) : Ending :=
  match Invocation.parse args with
  | .error e => ⟨.ok { exit := e }, w⟩
  | .ok i =>
    match i.logFile with
    | none => (perform scanner i w).1
    | some file =>
      match openLog w file with
      | (.error e, w) => ⟨.error e, w⟩
      | (.ok log, w) =>
        let (ending, events) := perform scanner i w
        { ending with workspace := writeLog ending.workspace log events }

end Cli

end SpringRoutes
