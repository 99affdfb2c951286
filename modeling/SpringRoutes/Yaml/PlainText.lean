import SpringRoutes.Yaml.Cursor

/-!
# `SpringRoutes.Yaml.PlainText` — scalars without quotes

A plain scalar may go over several lines: a single line break inside it is read as a space, further
ones are kept.

## Contents
- `Yaml.plainLength`: how far a plain scalar goes without a blank.
- `Yaml.plainGap`: what blanks between two parts of a plain scalar stand for.
- `Yaml.plainText`: a plain scalar.
-/

namespace SpringRoutes

namespace Yaml

/-- The marks that have a meaning of their own inside brackets. -/
def isFlowMark (c : Char) : Bool :=
  c == ',' || c == '[' || c == ']' || c == '\x7b' || c == '\x7d'

/-- The number of characters up to a blank or a mark that ends a plain scalar. -/
def plainLength (inFlow : Bool) : List Char → Nat
  | [] => 0
  | c :: r =>
    let next := r.headD endMark
    if endsToken c || (c == ':' && (endsToken next || (inFlow && isFlowMark next)))
        || (inFlow && (isFlowMark c || c == '?')) then 0
    else plainLength inFlow r + 1

/-- Further line breaks and spaces after a line break; no breaks at all when a document marker
    starts a line. -/
def plainBreaks : Nat → Cursor → List Char → Option (List Char) × Cursor
  | 0, c, breaks => (some breaks, c)
  | fuel + 1, c, breaks =>
    if c.head == ' ' then plainBreaks fuel c.step breaks
    else match c.lineBreak? with
      | none => (some breaks, c)
      | some (b, c) =>
        if c.atDocumentMarker then (none, c) else plainBreaks fuel c (breaks ++ [b])

/-- Blanks after a part of a plain scalar. -/
structure PlainGap where
  /-- What the blanks stand for; empty when the scalar ends. -/
  text : List Char
  after : Cursor
  /-- Whether a line ended. -/
  crossed : Bool

/-- The blanks at the cursor. -/
def plainGap (c : Cursor) : PlainGap :=
  let (spaces, c) := c.span (· == ' ')
  match c.lineBreak? with
  | none => ⟨spaces, c, false⟩
  | some (b, c) =>
    if c.atDocumentMarker then ⟨[], c, true⟩
    else match plainBreaks (c.rest.length + 1) c [] with
      | (none, c) => ⟨[], c, true⟩
      | (some breaks, c) =>
        let first := if b != '\n' then [b] else if breaks.isEmpty then [' '] else []
        ⟨first ++ breaks, c, true⟩

/-- A plain scalar: its text, the place after it and whether that place is on a later line than the
    last part. -/
structure PlainText where
  text : List Char
  after : Cursor
  crossed : Bool

/-- The further parts of a plain scalar. Outside brackets they are at least as deep as `indent`. -/
def plainParts (inFlow : Bool) (indent : Int) : Nat → PlainText → List Char → PlainText
  | 0, t, _ => t
  | fuel + 1, t, gap =>
    if t.after.head == '#' then t
    else
      let n := plainLength inFlow t.after.rest
      if n = 0 then t
      else
        let part := t.after.rest.take n
        let g := plainGap (t.after.advance n)
        let t : PlainText := ⟨t.text ++ gap ++ part, g.after, g.crossed⟩
        let outdented := !inFlow && decide (g.after.column < indent)
        if g.text.isEmpty || g.after.head == '#' || outdented then t
        else plainParts inFlow indent fuel t g.text

/-- The plain scalar at the cursor. -/
def plainText (inFlow : Bool) (indent : Int) (c : Cursor) : PlainText :=
  plainParts inFlow indent (c.rest.length + 1) ⟨[], c, false⟩ []

end Yaml

end SpringRoutes
