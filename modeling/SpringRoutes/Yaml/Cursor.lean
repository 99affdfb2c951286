import SpringRoutes.Yaml.Fault

/-!
# `SpringRoutes.Yaml.Cursor` — a place in a document

## Contents
- `Yaml.isBreak` and the character classes built on it.
- `Yaml.Cursor`: the text that is left, with the index, line and column of its start.
- `Cursor.advance`, `Cursor.lineBreak?`: moving on.
-/

namespace SpringRoutes

namespace Yaml

/-- Stands for the end of the text; no document holds it. -/
def endMark : Char := '\x00'

/-- Whether `c` breaks lines. -/
def isBreak (c : Char) : Bool :=
  c == '\n' || c == '\r' || c == '\x85' || c == '\u2028' || c == '\u2029'

/-- A line break or the end. -/
def endsLine (c : Char) : Bool :=
  c == endMark || isBreak c

/-- A space, a line break or the end. -/
def endsWord (c : Char) : Bool :=
  c == ' ' || endsLine c

/-- A space, a tab, a line break or the end. -/
def endsToken (c : Char) : Bool :=
  c == '\t' || endsWord c

/-- A place in a document. -/
structure Cursor where
  rest : List Char
  index : Nat := 0
  line : Nat := 0
  column : Nat := 0
  deriving Repr

namespace Cursor

/-- The character so many places ahead. -/
def peek (c : Cursor) (k : Nat) : Char :=
  c.rest.getD k endMark

/-- The character at the cursor. -/
def head (c : Cursor) : Char :=
  c.peek 0

/-- Move past one character. A byte order mark takes no column. -/
def step (c : Cursor) : Cursor :=
  match c.rest with
  | [] => c
  | ch :: r =>
    if isBreak ch && !(ch == '\r' && r.head? == some '\n') then ⟨r, c.index + 1, c.line + 1, 0⟩
    else if ch == '\ufeff' then { c with rest := r, index := c.index + 1 }
    else { c with rest := r, index := c.index + 1, column := c.column + 1 }

/-- Move past so many characters. -/
def advance (c : Cursor) : Nat → Cursor
  | 0 => c
  | n + 1 => (c.step).advance n

/-- The longest start of the text in which all characters satisfy `p`, and the place after it. -/
def span (c : Cursor) (p : Char → Bool) : List Char × Cursor :=
  let run := c.rest.takeWhile p
  (run, c.advance run.length)

/-- The place after all spaces. -/
def skipSpaces (c : Cursor) : Cursor :=
  (c.span (· == ' ')).2

/-- The place at the end of the line. -/
def skipLine (c : Cursor) : Cursor :=
  (c.span fun ch => !endsLine ch).2

/-- The place after spaces and a comment. -/
def skipComment (c : Cursor) : Cursor :=
  let c := c.skipSpaces
  if c.head == '#' then c.skipLine else c

/-- The line break at the cursor, in normal form, and the place after it. -/
def lineBreak? (c : Cursor) : Option (Char × Cursor) :=
  match c.rest with
  | '\r' :: '\n' :: _ => some ('\n', c.advance 2)
  | ch :: _ =>
    if ch == '\n' || ch == '\r' || ch == '\x85' then some ('\n', c.step)
    else if isBreak ch then some (ch, c.step)
    else none
  | [] => none

/-- The place after an optional line break. -/
def skipBreak (c : Cursor) : Cursor :=
  match c.lineBreak? with
  | some (_, c) => c
  | none => c

/-- Whether three equal marks stand at the cursor as a token of their own. -/
def hasMarker (c : Cursor) (mark : Char) : Bool :=
  c.peek 0 == mark && c.peek 1 == mark && c.peek 2 == mark && endsToken (c.peek 3)

/-- Whether a document starts or ends at the cursor. -/
def atDocumentMarker (c : Cursor) : Bool :=
  c.hasMarker '-' || c.hasMarker '.'

end Cursor

end Yaml

end SpringRoutes
