import SpringRoutes.Text.Integer
import SpringRoutes.Text.Utf8
import SpringRoutes.Yaml.BlockText
import SpringRoutes.Yaml.PlainText
import SpringRoutes.Yaml.QuotedText

/-!
# `SpringRoutes.Yaml.Token` — the tokens of a document

Tokens make the structure that indentation implies explicit: collections in block style get a
start and an end, and keys that are recognised only by the colon after them get a key token in
front.

## Contents
- `Yaml.Token`: the tokens.
- `Yaml.anchorName`, `Yaml.writtenTag`, `Yaml.directive`: names, tags and directives.
-/

namespace SpringRoutes

namespace Yaml

/-- The tag of a node as it is written: a handle, unless the tag is written out, and what follows
    it. -/
structure WrittenTag where
  handle : Option (List Char)
  suffix : List Char
  deriving Repr, DecidableEq

/-- A directive before a document. -/
inductive Directive
  | version (major : Nat)
  | tag (handle expansion : List Char)
  | other
  deriving Repr, DecidableEq

/-- A token of a document. -/
inductive Token
  | directive (d : Directive)
  | documentStart
  | documentEnd
  | streamEnd
  | blockSequenceStart
  | blockMappingStart
  | blockEnd
  | flowSequenceStart
  | flowSequenceEnd
  | flowMappingStart
  | flowMappingEnd
  | blockEntry
  | flowEntry
  | key
  | value
  | alias (name : List Char)
  | anchor (name : List Char)
  | tag (t : WrittenTag)
  | scalar (text : List Char) (plain : Bool)
  deriving Repr, DecidableEq

/-! ## Names -/

/-- Whether `c` can stand in the name of an anchor, a handle or a directive. -/
def isNameChar (c : Char) : Bool :=
  c.isAlphanum || c == '-' || c == '_'

/-- A name at the cursor. -/
def name (c : Cursor) : Except Fault (List Char × Cursor) :=
  match c.span isNameChar with
  | ([], _) => .error .document
  | r => .ok r

/-- The name after the mark of an anchor or an alias. -/
def anchorName (c : Cursor) : Except Fault (List Char × Cursor) := do
  let (n, c) ← name c.step
  let next := c.head
  if endsToken next || "?:,]\x7d%@`".toList.contains next then .ok (n, c) else .error .document

/-! ## Tags -/

/-- Whether `c` can stand in a tag as it is. -/
def isUriChar (c : Char) : Bool :=
  c.isAlphanum || "-;/?:@&=+$,_.!~*'()[]".toList.contains c

/-- The bytes of escapes at the start of a text, and the text after them. -/
def uriEscapes : Nat → List Char → Except Fault (List Nat × List Char)
  | fuel + 1, '%' :: a :: b :: r =>
    match hexNumber? [a, b] with
    | none => .error .document
    | some n => do
      let (ns, r) ← uriEscapes fuel r
      .ok (n :: ns, r)
  | _, '%' :: _ => .error .document
  | _, r => .ok ([], r)

/-- The characters of a tag in `s`, with escapes resolved, and how many characters they take. -/
def uriText : Nat → List Char → Except Fault (List Char × Nat)
  | 0, _ => .ok ([], 0)
  | fuel + 1, s =>
    match s with
    | '%' :: _ => do
      let (bytes, r) ← uriEscapes s.length s
      match Utf8.decode bytes with
      | .error _ => .error .document
      | .ok text =>
        let (t, n) ← uriText fuel r
        .ok (text ++ t, n + (s.length - r.length))
    | c :: r =>
      if isUriChar c then do
        let (t, n) ← uriText fuel r
        .ok (c :: t, n + 1)
      else .ok ([], 0)
    | [] => .ok ([], 0)

/-- The text of a tag at the cursor; it is not empty. -/
def uri (c : Cursor) : Except Fault (List Char × Cursor) := do
  let (t, n) ← uriText (c.rest.length + 1) c.rest
  if n = 0 then .error .document else .ok (t, c.advance n)

/-- The handle of a tag at the cursor: an exclamation mark, alone before a space or with another
    one after a name. -/
def handle (c : Cursor) : Except Fault (List Char × Cursor) :=
  if c.head != '!' then .error .document
  else if c.peek 1 == ' ' then .ok (['!'], c.step)
  else
    let (n, d) := c.step.span isNameChar
    if d.head == '!' then .ok ('!' :: n ++ ['!'], d.step) else .error .document

/-- The tag at the cursor. -/
def writtenTag (c : Cursor) : Except Fault (WrittenTag × Cursor) := do
  let next := c.peek 1
  let (t, c) ←
    if next == '<' then do
      let (suffix, c) ← uri (c.advance 2)
      if c.head != '>' then .error .document
      .ok (WrittenTag.mk none suffix, c.step)
    else if endsToken next then .ok (WrittenTag.mk none ['!'], c.step)
    else do
      let word := (c.rest.drop 1).takeWhile fun ch => !endsWord ch
      let (h, c) ← if word.contains '!' then handle c else .ok (['!'], c.step)
      let (suffix, c) ← uri c
      .ok (WrittenTag.mk (some h) suffix, c)
  if endsWord c.head then .ok (t, c) else .error .document

/-! ## Directives -/

/-- A decimal number at the cursor; it may not have too many digits. -/
def versionNumber (c : Cursor) : Except Fault (Nat × Cursor) :=
  match c.span Char.isDigit with
  | ([], _) => .error .document
  | (ds, c) =>
    if Integer.maxDigits < ds.length then .error (.longInteger ds.length)
    else .ok (Json.digitsValue ds, c)

/-- The rest of the line after a directive. -/
def directiveEnd (c : Cursor) : Except Fault Cursor :=
  let c := c.skipComment
  if endsLine c.head then .ok c.skipBreak else .error .document

/-- The directive at the cursor. -/
def directive (c : Cursor) : Except Fault (Directive × Cursor) := do
  let (n, c) ← name c.step
  if !endsWord c.head then .error .document
  let (d, c) ←
    if n = "YAML".toList then do
      let (major, c) ← versionNumber c.skipSpaces
      if c.head != '.' then .error .document
      let (_, c) ← versionNumber c.step
      if !endsWord c.head then .error .document
      .ok (Directive.version major, c)
    else if n = "TAG".toList then do
      let (h, c) ← handle c.skipSpaces
      if c.head != ' ' then .error .document
      let (expansion, c) ← uri c.skipSpaces
      if !endsWord c.head then .error .document
      .ok (Directive.tag h expansion, c)
    else .ok (Directive.other, c.skipLine)
  let c ← directiveEnd c
  .ok (d, c)

end Yaml

end SpringRoutes
