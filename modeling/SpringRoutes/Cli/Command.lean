import SpringRoutes.Cli.Arguments
import SpringRoutes.Text.Integer

/-!
# `SpringRoutes.Cli.Command` — the commands of the program

## Contents
- `Command`, `Invocation`: what the program is asked to do.
- `Cli.program`, `Cli.scanCommand`, …: the grammars of the program and of its commands.
- `Invocation.parse`: what a command line asks for.
-/

namespace SpringRoutes

open Text

namespace Cli

/-- What the program is asked to do. -/
inductive Command
  | scan (path : Option String) (refresh asJson : Bool) (workers : Option Int)
  | info (path : Option String)
  | clear (path : Option String)
  | serve (host : String) (port : Int)
  deriving Repr, DecidableEq

/-- The name of a command. -/
def Command.name : Command → String
  | .scan .. => "scan"
  | .info _ => "info"
  | .clear _ => "clear"
  | .serve .. => "serve"

/-- A command with the options of the program. -/
structure Invocation where
  isVerbose : Bool
  logFile : Option String
  command : Command
  deriving Repr, DecidableEq

/-! ## Options -/

/-- Why a text is no number of workers. -/
def workersProblem? (s : String) : Option String :=
  match Integer.parse? s with
  | none => some ("expected an integer, got " ++ quotedText s)
  | some n => if n < 1 then some "must be at least 1" else none

/-- Why a text is no port. -/
def portProblem? (s : String) : Option String :=
  match Integer.parse? s with
  | none => some ("invalid int value: " ++ quotedText s)
  | some _ => none

/-- An option with any value. -/
def anyValue : OptionKind :=
  .value fun _ => none

/-- The option that asks for help. -/
def helpOption : OptionSpec := ⟨["-h", "--help"], .help⟩

/-- The option that asks for details. -/
def verboseOption : OptionSpec := ⟨["-v", "--verbose"], .flag⟩

/-! ## Grammars -/

/-- The lines of a text, each ended. -/
def unlines (ls : List String) : String :=
  String.join (ls.map (· ++ "\n"))

/-- The grammar of the program. -/
def program : Grammar where
  name := "restmap"
  usage := "usage: restmap [-h] [-v] [--log-file LOG_FILE] \x7bscan,info,clear,serve\x7d ..."
  details := unlines
    ["List the HTTP endpoints declared in a Spring MVC project.",
     "",
     "positional arguments:",
     "  \x7bscan,info,clear,serve\x7d",
     "    scan                Print the route table of a project.",
     "    info                Show cached scan information.",
     "    clear               Drop cached scan results.",
     "    serve               Serve route tables over HTTP.",
     "",
     "options:",
     "  -h, --help            show this help message and exit",
     "  -v, --verbose         Log debug details to stderr.",
     "  --log-file LOG_FILE   Also write debug logs to this file."]
  options := [helpOption, verboseOption, ⟨["--log-file"], anyValue⟩]
  operand := .command

/-- The grammar of the command that prints a route table. -/
def scanCommand : Grammar where
  name := "restmap scan"
  usage := "usage: restmap scan [-h] [-v] [--refresh] [--json] [--workers WORKERS] [path]"
  details := unlines
    ["positional arguments:",
     "  path               Project root (defaults to the root detected from the",
     "                     current directory).",
     "",
     "options:",
     "  -h, --help         show this help message and exit",
     "  -v, --verbose      Log debug details to stderr.",
     "  --refresh          Ignore cached results and rescan the project.",
     "  --json             Print endpoints as a JSON array.",
     "  --workers WORKERS  Number of parallel extraction workers."]
  options :=
    [helpOption, verboseOption, ⟨["--refresh"], .flag⟩, ⟨["--json"], .flag⟩,
     ⟨["--workers"], .value workersProblem?⟩]
  operand := .optional

/-- The help text of a command whose only argument is a path. -/
def pathDetails : String :=
  unlines
    ["positional arguments:",
     "  path           Project root (defaults to the root detected from the current",
     "                 directory).",
     "",
     "options:",
     "  -h, --help     show this help message and exit",
     "  -v, --verbose  Log debug details to stderr."]

/-- The grammar of the command that tells what is kept. -/
def infoCommand : Grammar where
  name := "restmap info"
  usage := "usage: restmap info [-h] [-v] [path]"
  details := pathDetails
  options := [helpOption, verboseOption]
  operand := .optional

/-- The grammar of the command that drops what is kept. -/
def clearCommand : Grammar where
  name := "restmap clear"
  usage := "usage: restmap clear [-h] [-v] [path]"
  details := pathDetails
  options := [helpOption, verboseOption]
  operand := .optional

/-- The grammar of the command that starts the service. -/
def serveCommand : Grammar where
  name := "restmap serve"
  usage := "usage: restmap serve [-h] [-v] [--host HOST] [--port PORT]"
  details := unlines
    ["options:",
     "  -h, --help     show this help message and exit",
     "  -v, --verbose  Log debug details to stderr.",
     "  --host HOST    Interface to bind.",
     "  --port PORT    Port to bind."]
  options :=
    [helpOption, verboseOption, ⟨["--host"], anyValue⟩, ⟨["--port"], .value portProblem?⟩]
  operand := .absent

/-! ## Commands -/

/-- The command that was read. -/
def scanOf (r : Reading) : Command :=
  .scan r.operand (r.hasFlag "--refresh") (r.hasFlag "--json")
    ((r.value? "--workers").bind Integer.parse?)

/-- The service that was read. -/
def serveOf (r : Reading) : Command :=
  .serve ((r.value? "--host").getD "127.0.0.1")
    (((r.value? "--port").bind Integer.parse?).getD 8000)

/-- The commands by name, with their grammars. -/
def commands : List (String × Grammar × (Reading → Command)) :=
  [("scan", scanCommand, scanOf),
   ("info", infoCommand, fun r => .info r.operand),
   ("clear", clearCommand, fun r => .clear r.operand),
   ("serve", serveCommand, serveOf)]

/-- The end when a word is no command. -/
def noCommand (word : String) : Exit :=
  program.misuse ("argument command: invalid choice: " ++ quotedText word ++ " (choose from "
    ++ String.intercalate ", " (commands.map fun c => quotedText c.1) ++ ")")

/-- What a command line asks for. -/
def Invocation.parse (args : List String) : Except Exit Invocation := do
  let top ← program.read args
  match top.operand with
  | none => .error (program.misuse "the following arguments are required: command")
  | some word =>
    match commands.lookup word with
    | none => .error (noCommand word)
    | some (grammar, build) =>
      let r ← grammar.read top.arguments
      match top.extras ++ r.extras with
      | [] =>
        .ok
          { isVerbose := top.hasFlag "--verbose" || r.hasFlag "--verbose"
            logFile := top.value? "--log-file"
            command := build r }
      | extras =>
        .error (program.misuse ("unrecognized arguments: " ++ String.intercalate " " extras))

end Cli

end SpringRoutes
