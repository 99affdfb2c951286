import SpringRoutes.Text.Digit
import SpringRoutes.Text.Quoted
import SpringRoutes.Text.Search

/-!
# `SpringRoutes.Cli.Arguments` — words of a command line

A command line is read from left to right. Options have names of one or two hyphens; a long name
may be cut short as long as one option is meant, and may carry its value after an equals sign;
short flags may be written together. A word that looks like a negative number, or that holds a
space, is no option.

## Contents
- `Exit`: an end of the program before any work is done.
- `OptionSpec`, `Grammar`: the options of a command.
- `Word`, `Grammar.classify`: words by their role.
- `Reading`, `Grammar.read`: the options, the operand and the superfluous words of a command line.
-/

namespace SpringRoutes

open Text

namespace Cli

/-- An end of the program: the exit code and what it has written. -/
structure Exit where
  code : Nat
  stdout : String := ""
  stderr : String := ""
  deriving Repr, DecidableEq

/-- What an option does. -/
inductive OptionKind
  | help
  | flag
  /-- The option has a value; the function tells why a value is refused. -/
  | value (problem? : String → Option String)

/-- An option with its names. -/
structure OptionSpec where
  names : List String
  kind : OptionKind

namespace OptionSpec

/-- The option as messages name it. -/
def shown (o : OptionSpec) : String :=
  String.intercalate "/" o.names

/-- The last name, by which a value is found. -/
def key (o : OptionSpec) : String :=
  o.names.getLast?.getD ""

/-- Whether the option has a value. -/
def hasValue (o : OptionSpec) : Bool :=
  match o.kind with
  | .value _ => true
  | _ => false

end OptionSpec

/-- What takes the words that are no options. -/
inductive Operand
  | absent
  | optional
  /-- The first such word is a command; it takes all words after it. -/
  | command
  deriving DecidableEq

/-- The options and the operand of a command, with its texts. -/
structure Grammar where
  /-- The name of the command. -/
  name : String
  usage : String
  /-- The rest of the help text. -/
  details : String
  options : List OptionSpec
  operand : Operand

namespace Grammar

/-- The end of a command that is used wrongly. -/
def misuse (g : Grammar) (message : String) : Exit :=
  { code := 2, stderr := g.usage ++ "\n" ++ g.name ++ ": error: " ++ message ++ "\n" }

/-- The end of a command that is wrong about an option. -/
def misuseOf (g : Grammar) (o : OptionSpec) (message : String) : Exit :=
  g.misuse ("argument " ++ o.shown ++ ": " ++ message)

/-- The end of a command that asks for help. -/
def helpExit (g : Grammar) : Exit :=
  { code := 0, stdout := g.usage ++ "\n\n" ++ g.details }

/-- The option with a name. -/
def named? (g : Grammar) (name : String) : Option OptionSpec :=
  g.options.find? (·.names.contains name)

/-- All names with their options, in order. -/
def names (g : Grammar) : List (String × OptionSpec) :=
  g.options.flatMap fun o => o.names.map fun n => (n, o)

end Grammar

/-! ## Words by their role -/

/-- An option as it is written: its full name, and the value that is written with it. -/
structure WrittenOption where
  spec : OptionSpec
  name : String
  explicit : Option String

/-- A word by its role. -/
inductive Word
  /-- Two hyphens: no option follows. -/
  | separator
  | plain (text : String)
  | option (o : WrittenOption)
  /-- A word that looks like an option but is none. -/
  | unknown (text : String)

/-- The text of a plain word. -/
def Word.plainText? : Word → Option String
  | .plain t => some t
  | _ => none

/-- The text before the first equals sign and, if there is one, the text after it. -/
def splitValue (s : String) : String × Option String :=
  match splitAtFirst '=' s.toList with
  | some (a, b) => (String.ofList a, some (String.ofList b))
  | none => (s, none)

/-- Whether a word looks like a negative number; a line break may end it. -/
def looksNegative (s : String) : Bool :=
  let cs := s.toList
  let cs := if cs.getLast? = some '\n' then cs.dropLast else cs
  let isDigit (c : Char) : Bool := (digitValue? c).isSome
  match cs with
  | '-' :: r =>
    let rest := r.dropWhile isDigit
    match rest with
    | [] => !r.isEmpty
    | '.' :: t => !t.isEmpty && t.all isDigit
    | _ => false
  | _ => false

namespace Grammar

/-- The options that a word may mean, when it is none exactly. -/
def meanings (g : Grammar) (word : String) : List WrittenOption :=
  match word.toList with
  | '-' :: '-' :: _ =>
    let (start, explicit) := splitValue word
    (g.names.filter fun e => e.1.startsWith start).map fun e => ⟨e.2, e.1, explicit⟩
  | '-' :: c :: r =>
    let short := String.ofList ['-', c]
    g.names.filterMap fun e =>
      if e.1 = short then some ⟨e.2, e.1, some (String.ofList r)⟩
      else if e.1.startsWith word then some ⟨e.2, e.1, none⟩
      else none
  | _ => []

/-- The option that a word is exactly, by itself or before an equals sign. -/
def precise? (g : Grammar) (word : String) : Option WrittenOption :=
  match g.named? word with
  | some o => some ⟨o, word, none⟩
  | none =>
    match splitValue word with
    | (name, some v) => (g.named? name).map fun o => ⟨o, name, some v⟩
    | _ => none

/-- The role of a word. -/
def role (g : Grammar) (word : String) : Except Exit Word :=
  if !word.startsWith "-" || word = "-" then .ok (.plain word)
  else match g.precise? word with
    | some o => .ok (.option o)
    | none =>
      match g.meanings word with
      | [o] => .ok (.option o)
      | [] =>
        if looksNegative word || word.toList.contains ' ' then .ok (.plain word)
        else .ok (.unknown word)
      | os => .error (g.misuse ("ambiguous option: " ++ word ++ " could match "
          ++ String.intercalate ", " (os.map (·.name))))

/-- The words by their roles, each with its text. After the separator all are plain. -/
def classify (g : Grammar) : List String → Except Exit (List (String × Word))
  | [] => .ok []
  | "--" :: rest => .ok (("--", .separator) :: rest.map fun w => (w, .plain w))
  | word :: rest => do
    let r ← g.role word
    let rs ← classify g rest
    .ok ((word, r) :: rs)

end Grammar

/-! ## Reading -/

/-- What has been read: options by key with their values, the operand, and superfluous words. -/
structure Reading where
  options : List (String × String) := []
  operand : Option String := none
  /-- Whether the operand is settled, even if it is missing. -/
  isSettled : Bool := false
  /-- The words after a command. -/
  arguments : List String := []
  extras : List String := []

namespace Reading

/-- The last value of an option. -/
def value? (r : Reading) (key : String) : Option String :=
  r.options.reverse.lookup key

/-- Whether a flag is set. -/
def hasFlag (r : Reading) (key : String) : Bool :=
  (r.value? key).isSome

/-- Note a superfluous word. -/
def addExtra (r : Reading) (word : String) : Reading :=
  { r with extras := r.extras ++ [word] }

end Reading

namespace Grammar

/-- Take an option with its value, if it has one. -/
def take (g : Grammar) (r : Reading) (o : OptionSpec) (value : Option String) :
    Except Exit Reading :=
  match o.kind, value with
  | .help, _ => .error g.helpExit
  | .flag, _ => .ok { r with options := r.options ++ [(o.key, "")] }
  | .value problem?, some v =>
    if v = "--" then .ok r
    else match problem? v with
      | some message => .error (g.misuseOf o message)
      | none => .ok { r with options := r.options ++ [(o.key, v)] }
  | .value _, none => .error (g.misuseOf o "expected one argument")

/-- The options that are written together in one word: a short flag may be followed by others, the
    last of which may have a value in the word. -/
def cluster (g : Grammar) (o : WrittenOption) : Nat → Except Exit (List WrittenOption)
  | 0 => .ok [o]
  | fuel + 1 =>
    match o.explicit with
    | none => .ok [o]
    | some v =>
      if o.spec.hasValue then .ok [o]
      else if o.name.startsWith "--" then .error (ignored v)
      else match v.toList with
        | [] => .error (ignored v)
        | c :: rest =>
          let name := String.ofList ['-', c]
          match g.named? name with
          | none => .error (ignored v)
          | some spec => do
            let more := if rest.isEmpty then none else some (String.ofList rest)
            let os ← cluster g ⟨spec, name, more⟩ fuel
            .ok ({ o with explicit := none } :: os)
where
  /-- The end when a flag is given a value. -/
  ignored (v : String) : Exit :=
    g.misuseOf o.spec ("ignored explicit argument " ++ quotedText v)

/-- Take options that stand in one word. Only the last one can have its value in the next word, and
    `next` is that word when it is plain. The flag tells whether the next word was taken. -/
def takeAll (g : Grammar) (next : Option String) :
    Reading → List WrittenOption → Except Exit (Reading × Bool)
  | r, [] => .ok (r, false)
  | r, o :: os => do
    match o.explicit, os with
    | none, [] =>
      if o.spec.hasValue then
        let r ← g.take r o.spec next
        .ok (r, true)
      else
        let r ← g.take r o.spec none
        .ok (r, false)
    | explicit, os =>
      let r ← g.take r o.spec explicit
      takeAll g next r os

/-- Take an option, and perhaps the next word. -/
def takeWritten (g : Grammar) (r : Reading) (o : WrittenOption) (next : Option String) :
    Except Exit (Reading × Bool) := do
  let os ← g.cluster o ((o.explicit.getD "").length + 1)
  match os.getLast? with
  | some last =>
    if last.explicit.isNone && last.spec.hasValue && next.isNone then
      .error (g.misuseOf last.spec "expected one argument")
    else g.takeAll next r os
  | none => .ok (r, false)

/-- Read the words. The flag `skip` tells that the first one has been taken already. -/
def readFrom (g : Grammar) (skip : Bool) (r : Reading) : List (String × Word) → Except Exit Reading
  | [] => .ok r
  | (text, word) :: rest =>
    if skip then readFrom g false r rest
    else match word with
      | .unknown _ => readFrom g false (r.addExtra text) rest
      | .option o => do
        let next := (rest.head?).bind fun w => w.2.plainText?
        let (r, taken) ← g.takeWritten r o next
        readFrom g taken r rest
      | .plain _ =>
        if r.isSettled then readFrom g false (r.addExtra text) rest
        else match g.operand with
          | .absent => readFrom g false (r.addExtra text) rest
          | .command =>
            .ok { r with operand := some text, isSettled := true, arguments := rest.map (·.1) }
          | .optional =>
            let r := { r with operand := some text, isSettled := true }
            match rest with
            | (_, .separator) :: _ => readFrom g true r rest
            | _ => readFrom g false r rest
      | .separator =>
        if r.isSettled then readFrom g false (r.addExtra text) rest
        else match g.operand, rest with
          | .absent, _ => readFrom g false (r.addExtra text) rest
          | .command, [] => .ok (r.addExtra text)
          | .command, rest =>
            .ok { r with operand := some text, isSettled := true, arguments := rest.map (·.1) }
          | .optional, [] => .ok { r with isSettled := true }
          | .optional, (t, _) :: _ =>
            readFrom g true { r with operand := some t, isSettled := true } rest

/-- Read a command line. -/
def read (g : Grammar) (args : List String) : Except Exit Reading := do
  let words ← g.classify args
  g.readFrom false {} words

end Grammar

end Cli

end SpringRoutes
