import SpringRoutes.Yaml.Token

/-!
# `SpringRoutes.Yaml.Tokens` — from text to tokens

The scanner keeps the indentation of the open block collections and, per level of brackets, the
place where a key may have started that only a later colon confirms.

## Contents
- `Yaml.SimpleKey`, `Yaml.Scanner`: the state of the scanner.
- `Scanner.next`: read one token.
- `Yaml.tokens`: all tokens of a document.
-/

namespace SpringRoutes

namespace Yaml

/-- A place where a key may have started. -/
structure SimpleKey where
  /-- How many tokens precede it. -/
  token : Nat
  /-- Whether nothing but a key can stand there. -/
  required : Bool
  index : Nat
  line : Nat
  column : Nat
  deriving Repr

/-- The state of the scanner. -/
structure Scanner where
  cursor : Cursor
  /-- How many brackets are open. -/
  flow : Nat := 0
  /-- The indentation of the innermost block collection. -/
  indent : Int := -1
  /-- The indentations of the block collections around it. -/
  outer : List Int := []
  /-- Whether a key may start at the cursor. -/
  keyAllowed : Bool := true
  /-- The possible keys, by level of brackets. -/
  keys : List (Nat × SimpleKey) := []
  tokens : List Token := []
  deriving Repr

namespace Scanner

/-- Add a token. -/
def push (s : Scanner) (t : Token) : Scanner :=
  { s with tokens := s.tokens ++ [t] }

/-- Move to a place. -/
def goto (s : Scanner) (c : Cursor) : Scanner :=
  { s with cursor := c }

/-- Whether the scanner is inside brackets. -/
def inFlow (s : Scanner) : Bool :=
  s.flow != 0

/-! ## Indentation -/

/-- Close the block collections that are deeper than a column. -/
def unwind (column : Int) : List Int → Scanner → Scanner
  | [], s => s
  | o :: os, s =>
    if column < s.indent then unwind column os ({ s with indent := o, outer := os }.push .blockEnd)
    else s

/-- Close the block collections that are deeper than a column; inside brackets there are none. -/
def unwindTo (s : Scanner) (column : Int) : Scanner :=
  if s.inFlow then s else unwind column s.outer s

/-- Open a block collection at a column, unless one is open there. -/
def openBlock (s : Scanner) (column : Nat) : Option Scanner :=
  if s.indent < column then some { s with indent := column, outer := s.indent :: s.outer } else none

/-- Open a block collection at the cursor, with its token, unless one is open there. -/
def openBlockHere (s : Scanner) (t : Token) : Scanner :=
  match s.openBlock s.cursor.column with
  | some s => s.push t
  | none => s

/-! ## Possible keys -/

/-- Give up the possible keys that the cursor has left behind. A required one may not be given
    up. -/
def dropStaleKeys (s : Scanner) : Except Fault Scanner :=
  let isStale (k : SimpleKey) : Bool :=
    k.line != s.cursor.line || decide (1024 < s.cursor.index - k.index)
  if s.keys.any fun e => isStale e.2 && e.2.required then .error .document
  else .ok { s with keys := s.keys.filter fun e => !isStale e.2 }

/-- Give up the possible key of the current level. -/
def dropKey (s : Scanner) : Except Fault Scanner :=
  match s.keys.lookup s.flow with
  | none => .ok s
  | some k =>
    if k.required then .error .document
    else .ok { s with keys := s.keys.filter (·.1 != s.flow) }

/-- Note that a key may start at the cursor. -/
def saveKey (s : Scanner) : Except Fault Scanner :=
  if s.keyAllowed then do
    let s ← s.dropKey
    let k : SimpleKey :=
      { token := s.tokens.length
        required := !s.inFlow && s.indent == (s.cursor.column : Int)
        index := s.cursor.index
        line := s.cursor.line
        column := s.cursor.column }
    .ok { s with keys := (s.flow, k) :: s.keys }
  else .ok s

/-! ## Tokens -/

/-- Move past spaces, comments and line breaks. Outside brackets a key may start on a new line. -/
def skipBlanks : Nat → Scanner → Scanner
  | 0, s => s
  | fuel + 1, s =>
    let c := s.cursor.skipComment
    match c.lineBreak? with
    | none => s.goto c
    | some (_, c) => skipBlanks fuel { s with cursor := c, keyAllowed := s.keyAllowed || !s.inFlow }

/-- Move past a byte order mark at the very start. -/
def skipMark (s : Scanner) : Scanner :=
  if s.cursor.index == 0 && s.cursor.head == '\ufeff' then s.goto s.cursor.step else s

/-- A token that ends all block collections: a directive, or the start or end of a document. -/
def boundary (s : Scanner) (t : Token) (c : Cursor) : Except Fault Scanner := do
  let s ← (s.unwindTo (-1)).dropKey
  .ok (({ s with keyAllowed := false, cursor := c }).push t)

/-- An opening bracket. -/
def openFlow (s : Scanner) (t : Token) : Except Fault Scanner := do
  let s ← s.saveKey
  .ok (({ s with flow := s.flow + 1, keyAllowed := true, cursor := s.cursor.step }).push t)

/-- A closing bracket. -/
def closeFlow (s : Scanner) (t : Token) : Except Fault Scanner := do
  if s.flow = 0 then .error .document
  let s ← s.dropKey
  .ok (({ s with flow := s.flow - 1, keyAllowed := false, cursor := s.cursor.step }).push t)

/-- A comma inside brackets. -/
def flowEntry (s : Scanner) : Except Fault Scanner := do
  let s ← s.dropKey
  .ok (({ s with keyAllowed := true, cursor := s.cursor.step }).push .flowEntry)

/-- The hyphen of a sequence entry. -/
def blockEntry (s : Scanner) : Except Fault Scanner := do
  if !s.inFlow && !s.keyAllowed then .error .document
  let s := if s.inFlow then s else s.openBlockHere .blockSequenceStart
  let s ← s.dropKey
  .ok (({ s with keyAllowed := true, cursor := s.cursor.step }).push .blockEntry)

/-- The question mark of a key. -/
def explicitKey (s : Scanner) : Except Fault Scanner := do
  if !s.inFlow && !s.keyAllowed then .error .document
  let s := if s.inFlow then s else s.openBlockHere .blockMappingStart
  let s ← s.dropKey
  .ok (({ s with keyAllowed := !s.inFlow, cursor := s.cursor.step }).push .key)

/-- The colon that confirms a possible key: tokens are added before it. -/
def confirmKey (s : Scanner) (k : SimpleKey) : Scanner :=
  let s := { s with keys := s.keys.filter (·.1 != s.flow), keyAllowed := false }
  let (s, marks) :=
    if s.inFlow then (s, [Token.key])
    else match s.openBlock k.column with
      | some s => (s, [.blockMappingStart, .key])
      | none => (s, [.key])
  { s with tokens := s.tokens.take k.token ++ marks ++ s.tokens.drop k.token }

/-- A colon after a key. -/
def value (s : Scanner) : Except Fault Scanner := do
  let s ← match s.keys.lookup s.flow with
    | some k => .ok (s.confirmKey k)
    | none => do
      if !s.inFlow && !s.keyAllowed then .error .document
      let s := if s.inFlow then s else s.openBlockHere .blockMappingStart
      let s ← { s with keyAllowed := !s.inFlow }.dropKey
      .ok s
  .ok ((s.goto s.cursor.step).push .value)

/-- A token that may be a key, or start one. -/
def keyLike (s : Scanner) (read : Cursor → Except Fault (Token × Cursor)) :
    Except Fault Scanner := do
  let s ← s.saveKey
  let (t, c) ← read s.cursor
  .ok (({ s with keyAllowed := false, cursor := c }).push t)

/-- A block scalar. -/
def block (s : Scanner) : Except Fault Scanner := do
  let s ← s.dropKey
  let (text, c) ← blockText s.indent s.cursor
  .ok (({ s with keyAllowed := true, cursor := c }).push (.scalar text false))

/-- A plain scalar. A key may start after it when it ended with its line. -/
def plain (s : Scanner) : Except Fault Scanner := do
  let s ← s.saveKey
  let t := plainText s.inFlow (s.indent + 1) s.cursor
  .ok (({ s with keyAllowed := t.crossed, cursor := t.after }).push (.scalar t.text true))

/-- Whether a plain scalar can start at the cursor. -/
def startsPlain (s : Scanner) : Bool :=
  let c := s.cursor.head
  !(endsToken c || "-?:,[]\x7b\x7d#&*!|>'\"%@`".toList.contains c)
    || (!endsToken (s.cursor.peek 1) && (c == '-' || (!s.inFlow && (c == '?' || c == ':'))))

/-- Read the token at the cursor, or finish. The flag says whether the document is finished. -/
def next (s : Scanner) : Except Fault (Scanner × Bool) := do
  let s := s.skipMark
  let s := skipBlanks (s.cursor.rest.length + 1) s
  let s ← s.dropStaleKeys
  let s := s.unwindTo s.cursor.column
  let c := s.cursor
  let ch := c.head
  let atStart := c.column == 0
  let blankNext := endsToken (c.peek 1)
  if c.rest.isEmpty then
    let s ← (s.unwindTo (-1)).dropKey
    return (s.push .streamEnd, true)
  let s ←
    if ch == '%' && atStart then do
      let (d, c) ← directive c
      s.boundary (.directive d) c
    else if atStart && c.hasMarker '-' then s.boundary .documentStart (c.advance 3)
    else if atStart && c.hasMarker '.' then s.boundary .documentEnd (c.advance 3)
    else if ch == '[' then s.openFlow .flowSequenceStart
    else if ch == '\x7b' then s.openFlow .flowMappingStart
    else if ch == ']' then s.closeFlow .flowSequenceEnd
    else if ch == '\x7d' then s.closeFlow .flowMappingEnd
    else if ch == ',' then s.flowEntry
    else if ch == '-' && blankNext then s.blockEntry
    else if ch == '?' && (s.inFlow || blankNext) then s.explicitKey
    else if ch == ':' && (s.inFlow || blankNext) then s.value
    else if ch == '*' then s.keyLike fun c => (anchorName c).map fun r => (.alias r.1, r.2)
    else if ch == '&' then s.keyLike fun c => (anchorName c).map fun r => (.anchor r.1, r.2)
    else if ch == '!' then s.keyLike fun c => (writtenTag c).map fun r => (.tag r.1, r.2)
    else if (ch == '|' || ch == '>') && !s.inFlow then s.block
    else if ch == '\'' || ch == '"' then
      s.keyLike fun c => (quotedText c).map fun r => (.scalar r.1 false, r.2)
    else if s.startsPlain then s.plain
    else .error .document
  return (s, false)

/-- How many tokens are certain: no key may still be put in front of them. -/
def settled (s : Scanner) : Nat :=
  (s.keys.map fun e => e.2.token).foldl min s.tokens.length

/-- Read tokens until the document is finished, or until a fault. Then the tokens that are certain
    are followed by the fault. -/
def run : Nat → Scanner → List Token × Fault
  | 0, s => (s.tokens, .document)
  | fuel + 1, s =>
    match s.next with
    | .error f => (s.tokens.take s.settled, f)
    | .ok (s, true) => (s.tokens, .document)
    | .ok (s, false) => run fuel s

end Scanner

/-- Whether a document may hold the character. -/
def isAllowed (c : Char) : Bool :=
  let n := c.toNat
  n == 0x9 || n == 0xa || n == 0xd || (0x20 ≤ n && n ≤ 0x7e) || n == 0x85
    || (0xa0 ≤ n && n ≤ 0xfffd) || 0x10000 ≤ n

/-- All tokens of a document up to its first fault, and that fault. -/
def tokens (text : List Char) : List Token × Fault :=
  if text.all isAllowed then Scanner.run (text.length + 1) { cursor := { rest := text } }
  else ([], .document)

end Yaml

end SpringRoutes
