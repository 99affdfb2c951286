import SpringRoutes.Yaml.Cursor

/-!
# `SpringRoutes.Yaml.BlockText` — scalars given by their indentation

After `|` the lines of a block are kept as they are; after `>` they are folded. A sign says what
happens to the line breaks at the end, and a digit gives the indentation.

## Contents
- `Yaml.BlockHeader`: the indicators after the mark.
- `Yaml.blockText`: a block scalar.
-/

namespace SpringRoutes

namespace Yaml

/-- What happens to the line breaks at the end of a block. -/
inductive Chomping
  | strip
  | clip
  | keep
  deriving Repr, DecidableEq

/-- The indicators of a block: what happens to its end, and how much deeper it is. -/
structure BlockHeader where
  chomping : Chomping := .clip
  increment : Option Nat := none
  deriving Repr, DecidableEq

/-- The chomping that a sign asks for. -/
def chomping? : Char → Option Chomping
  | '+' => some .keep
  | '-' => some .strip
  | _ => none

/-- The increment that a digit gives; zero is not allowed. -/
def increment? (c : Char) : Except Fault (Option Nat) :=
  if c == '0' then .error .document
  else if c.isDigit then .ok (some (c.toNat - 48))
  else .ok none

/-- The indicators at the cursor, in either order, and the place on the line after them. -/
def blockHeader (c : Cursor) : Except Fault (BlockHeader × Cursor) := do
  let (h, c) ← match chomping? c.head with
    | some k => do
      let c := c.step
      match ← increment? c.head with
      | some n => .ok (⟨k, some n⟩, c.step)
      | none => .ok (⟨k, none⟩, c)
    | none => do
      match ← increment? c.head with
      | some n =>
        let c := c.step
        match chomping? c.head with
        | some k => .ok (⟨k, some n⟩, c.step)
        | none => .ok (⟨.clip, some n⟩, c)
      | none => .ok ({}, c)
  if !endsWord c.head then .error .document
  let c := c.skipComment
  if !endsLine c.head then .error .document
  .ok (h, c.skipBreak)

/-- The line breaks before the first line of a block whose indentation is not given, with the
    greatest indentation of these lines. -/
def blockIndentation : Nat → Cursor → List Char → Nat → List Char × Nat × Cursor
  | 0, c, breaks, deepest => (breaks, deepest, c)
  | fuel + 1, c, breaks, deepest =>
    if c.head == ' ' then
      let c := c.step
      blockIndentation fuel c breaks (max deepest c.column)
    else match c.lineBreak? with
      | some (b, c) => blockIndentation fuel c (breaks ++ [b]) deepest
      | none => (breaks, deepest, c)

/-- The place after at most so many spaces as lead to the column `indent`. -/
def skipIndent (indent : Nat) (c : Cursor) : Cursor :=
  c.advance (min (indent - c.column) (c.rest.takeWhile (· == ' ')).length)

/-- Line breaks between lines of a block. -/
def blockBreaks (indent : Nat) : Nat → Cursor → List Char × Cursor
  | 0, c => ([], c)
  | fuel + 1, c =>
    let c := skipIndent indent c
    match c.lineBreak? with
    | none => ([], c)
    | some (b, c) =>
      let (bs, c) := blockBreaks indent fuel c
      (b :: bs, c)

/-- Whether the block goes on at the cursor. -/
def blockGoesOn (indent : Nat) (c : Cursor) : Bool :=
  c.column == indent && !c.rest.isEmpty

/-- The lines of a block after the line breaks `breaks`: their text, the last line break and the
    breaks after it. -/
def blockLines (folded : Bool) (indent : Nat) :
    Nat → Cursor → List Char → List Char × List Char × List Char × Cursor
  | 0, c, breaks => ([], [], breaks, c)
  | fuel + 1, c, breaks =>
    let startsText := !(c.head == ' ' || c.head == '\t')
    let (line, c) := c.span fun ch => !endsLine ch
    let (lineBreak, c) := match c.lineBreak? with
      | some (b, c) => ([b], c)
      | none => ([], c)
    let (next, c) := blockBreaks indent (c.rest.length + 1) c
    if blockGoesOn indent c then
      let joint :=
        if folded && lineBreak == ['\n'] && startsText && !(c.head == ' ' || c.head == '\t') then
          if next.isEmpty then [' '] else []
        else lineBreak
      let (text, last, tail, c) := blockLines folded indent fuel c next
      (breaks ++ line ++ joint ++ text, last, tail, c)
    else (breaks ++ line, lineBreak, next, c)

/-- The block scalar at the cursor inside a collection of the given indentation. -/
def blockText (outer : Int) (c : Cursor) : Except Fault (List Char × Cursor) := do
  let folded := c.head == '>'
  let (h, c) ← blockHeader c.step
  let least := (max (outer + 1) 1).toNat
  let (indent, breaks, c) := match h.increment with
    | none =>
      let (breaks, deepest, c) := blockIndentation (c.rest.length + 1) c [] 0
      (max least deepest, breaks, c)
    | some n =>
      let indent := least + n - 1
      let (breaks, c) := blockBreaks indent (c.rest.length + 1) c
      (indent, breaks, c)
  let (text, last, tail, c) :=
    if blockGoesOn indent c then blockLines folded indent (c.rest.length + 1) c breaks
    else ([], [], breaks, c)
  let closing := match h.chomping with
    | .strip => []
    | .clip => last
    | .keep => last ++ tail
  .ok (text ++ closing, c)

end Yaml

end SpringRoutes
