import SpringRoutes.Json.Reader
import SpringRoutes.Yaml.Cursor

/-!
# `SpringRoutes.Yaml.QuotedText` — scalars in quotes

Between single quotes only the quote itself is doubled; between double quotes a backslash starts an
escape. Line breaks are folded as in plain scalars.

## Contents
- `Yaml.escaped?`: escapes with one letter.
- `Yaml.quotedText`: a scalar in quotes.
-/

namespace SpringRoutes

namespace Yaml

/-- The character of an escape with one letter. -/
def escaped? : Char → Option Char
  | '0' => some '\x00'
  | 'a' => some '\x07'
  | 'b' => some '\x08'
  | 't' => some '\t'
  | '\t' => some '\t'
  | 'n' => some '\n'
  | 'v' => some '\x0b'
  | 'f' => some '\x0c'
  | 'r' => some '\r'
  | 'e' => some '\x1b'
  | ' ' => some ' '
  | '"' => some '"'
  | '\\' => some '\\'
  | '/' => some '/'
  | 'N' => some '\x85'
  | '_' => some '\xa0'
  | 'L' => some '\u2028'
  | 'P' => some '\u2029'
  | _ => none

/-- The number of hexadecimal digits of an escape by code point. -/
def codeLength? : Char → Option Nat
  | 'x' => some 2
  | 'u' => some 4
  | 'U' => some 8
  | _ => none

/-- The number that hexadecimal digits denote. -/
def hexNumber? (ds : List Char) : Option Nat :=
  ds.foldlM (fun n d => (Json.hexValue? d).map (n * 16 + ·)) 0

/-- The character of a code point; half of a pair gives the replacement character. -/
def codePoint (n : Nat) : Except Fault Char :=
  if 0x10ffff < n then .error (.codePoint n)
  else .ok (if 0xd800 ≤ n ∧ n < 0xe000 then '\ufffd' else Char.ofNat n)

/-- Line breaks inside quotes, with blanks around them; a document marker may not start a line. -/
def quotedBreaks : Nat → Cursor → Except Fault (List Char × Cursor)
  | 0, _ => .error .document
  | fuel + 1, c =>
    if c.atDocumentMarker then .error .document
    else
      let c := (c.span fun ch => ch == ' ' || ch == '\t').2
      match c.lineBreak? with
      | none => .ok ([], c)
      | some (b, c) => do
        let (bs, c) ← quotedBreaks fuel c
        .ok (b :: bs, c)

/-- Blanks inside quotes. -/
def quotedGap (c : Cursor) : Except Fault (List Char × Cursor) :=
  let (spaces, c) := c.span fun ch => ch == ' ' || ch == '\t'
  if c.rest.isEmpty then .error .document
  else match c.lineBreak? with
    | none => .ok (spaces, c)
    | some (b, c) => do
      let (breaks, c) ← quotedBreaks (c.rest.length + 1) c
      let first := if b != '\n' then [b] else if breaks.isEmpty then [' '] else []
      .ok (first ++ breaks, c)

/-- The escape after a backslash. -/
def escape (c : Cursor) : Except Fault (List Char × Cursor) :=
  match escaped? c.head with
  | some ch => if c.rest.isEmpty then .error .document else .ok ([ch], c.step)
  | none =>
    match codeLength? c.head with
    | some n =>
      let c := c.step
      let ds := c.rest.take n
      if ds.length < n then .error .document
      else match hexNumber? ds with
        | none => .error .document
        | some k => do
          let ch ← codePoint k
          .ok ([ch], c.advance n)
    | none =>
      match c.lineBreak? with
      | some (_, c) => quotedBreaks (c.rest.length + 1) c
      | none => .error .document

/-- Whether `c` needs attention inside quotes. -/
def endsQuotedRun (c : Char) : Bool :=
  c == '\'' || c == '"' || c == '\\' || endsToken c

/-- The text inside quotes up to the closing one, and the place after it. -/
def quotedParts (double : Bool) : Nat → Cursor → Except Fault (List Char × Cursor)
  | 0, _ => .error .document
  | fuel + 1, c =>
    let quote := if double then '"' else '\''
    let (run, c) := c.span fun ch => !endsQuotedRun ch
    let ch := c.head
    if c.rest.isEmpty then .error .document
    else if !double && ch == '\'' && c.peek 1 == '\'' then do
      let (t, c) ← quotedParts double fuel (c.advance 2)
      .ok (run ++ '\'' :: t, c)
    else if ch == quote then .ok (run, c.step)
    else if ch == '\'' || ch == '"' || (!double && ch == '\\') then do
      let (t, c) ← quotedParts double fuel c.step
      .ok (run ++ ch :: t, c)
    else if ch == '\\' then do
      let (e, c) ← escape c.step
      let (t, c) ← quotedParts double fuel c
      .ok (run ++ e ++ t, c)
    else do
      let (g, c) ← quotedGap c
      let (t, c) ← quotedParts double fuel c
      .ok (run ++ g ++ t, c)

/-- The quoted scalar at the cursor. -/
def quotedText (c : Cursor) : Except Fault (List Char × Cursor) :=
  quotedParts (c.head == '"') (c.rest.length + 1) c.step

end Yaml

end SpringRoutes
