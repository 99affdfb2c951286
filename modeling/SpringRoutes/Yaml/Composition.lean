import SpringRoutes.Yaml.Node
import SpringRoutes.Yaml.Tokens

/-!
# `SpringRoutes.Yaml.Composition` — from tokens to nodes

## Contents
- `Yaml.Composer`: the tokens that are left, the tag handles and the anchors.
- `Composer.node`: the node at the front of the tokens.
- `Composer.document`: the only document of a stream.
-/

namespace SpringRoutes

namespace Yaml

/-- What is left to compose, and what names mean. -/
structure Composer where
  tokens : List Token
  /-- Why there are no more tokens. -/
  ending : Fault := .document
  handles : List (List Char × List Char) :=
    [(['!'], ['!']), (['!', '!'], "tag:yaml.org,2002:".toList)]
  anchors : List (List Char × Node) := []

/-- Composing consumes tokens and may fail. -/
abbrev Composing := StateT Composer (Except Fault)

namespace Composer

/-! ## Tokens and names -/

/-- Fail on an ill-formed document. -/
def reject {α : Type} : Composing α :=
  throw .document

/-- The next token; it stays there. -/
def peek : Composing Token := do
  let c ← get
  match c.tokens with
  | t :: _ => return t
  | [] => throw c.ending

/-- Drop the next token. -/
def skip : Composing Unit :=
  modify fun c => { c with tokens := c.tokens.drop 1 }

/-- Drop the next token, which has to be the given one. -/
def expect (t : Token) : Composing Unit := do
  if (← peek) = t then skip else reject

/-- The tag with its handle written out. -/
def expanded (t : WrittenTag) : Composing (List Char) := do
  match t.handle with
  | none => return t.suffix
  | some h =>
    match (← get).handles.lookup h with
    | some expansion => return expansion ++ t.suffix
    | none => reject

/-- The anchor and the tag before a node, in either order. -/
def properties : Composing (Option (List Char) × Option (List Char)) := do
  match ← peek with
  | .anchor a =>
    skip
    match ← peek with
    | .tag t =>
      skip
      return (some a, some (← expanded t))
    | _ => return (some a, none)
  | .tag t =>
    skip
    match ← peek with
    | .anchor a =>
      skip
      return (some a, some (← expanded t))
    | _ => return (none, some (← expanded t))
  | _ => return (none, none)

/-- Let an anchor name a node. -/
def name (anchor : List Char) (n : Node) : Composing Unit :=
  modify fun c => { c with anchors := (anchor, n) :: c.anchors }

/-- Refuse an anchor that names a node already. -/
def checkNew (anchor : Option (List Char)) : Composing Unit := do
  match anchor with
  | none => pure ()
  | some a => if ((← get).anchors.lookup a).isSome then reject

/-- The tag of a collection. -/
def collectionTag (tag : Option (List Char)) (default : Tag) : Tag :=
  match tag with
  | none | some ['!'] => default
  | some t => Tag.ofText t

/-- The tag of a scalar: an explicit one, or the one its text suggests if it is plain. -/
def scalarTag (tag : Option (List Char)) (text : List Char) (plain : Bool) : Tag :=
  match tag with
  | none => if plain then implicitTag text else .str
  | some ['!'] => implicitTag text
  | some t => Tag.ofText t

/-- The node of an omitted value. -/
def omitted : Node :=
  .scalar .null []

/-! ## Nodes

The `fuel` bounds the number of steps; each step that leads to another one takes a token. -/

/-- Where a node stands: in a block, as the value of a block mapping, where a sequence needs no
    indentation of its own, or between brackets. -/
inductive Place
  | block
  | blockValue
  | flow
  deriving DecidableEq

mutual

/-- The node at the front of the tokens. -/
def node : Nat → Place → Composing Node
  | 0, _ => reject
  | fuel + 1, place => do
    match ← peek with
    | .alias a =>
      skip
      match (← get).anchors.lookup a with
      | some n => return n
      | none => reject
    | _ =>
      let (anchor, tag) ← properties
      match ← peek with
      | .scalar text plain =>
        skip
        checkNew anchor
        let n := Node.scalar (scalarTag tag text plain) text
        anchor.forM (name · n)
        return n
      | .flowSequenceStart =>
        skip
        collection anchor (do return .sequence (collectionTag tag .seq) (← flowItems fuel true))
      | .flowMappingStart =>
        skip
        collection anchor (do return .ofEntries (collectionTag tag .map) (← flowEntries fuel true))
      | .blockSequenceStart =>
        if place = .flow then absent anchor tag
        else
          skip
          collection anchor (do return .sequence (collectionTag tag .seq) (← blockItems fuel))
      | .blockMappingStart =>
        if place = .flow then absent anchor tag
        else
          skip
          collection anchor (do return .ofEntries (collectionTag tag .map) (← blockEntries fuel))
      | .blockEntry =>
        if place = .blockValue then
          collection anchor (do return .sequence (collectionTag tag .seq) (← looseItems fuel))
        else absent anchor tag
      | _ => absent anchor tag
where
  /-- A collection: from inside, its anchor is a reference to what encloses. -/
  collection (anchor : Option (List Char)) (content : Composing Node) : Composing Node := do
    checkNew anchor
    match anchor with
    | none => content
    | some a =>
      name a (.enclosing a)
      let inner ← content
      let n := inner.mergeEnclosing a inner
      name a n
      return n
  /-- A node without content, which has to have an anchor or a tag. -/
  absent (anchor tag : Option (List Char)) : Composing Node := do
    if anchor.isNone && tag.isNone then reject
    checkNew anchor
    let n := Node.scalar (scalarTag tag [] true) []
    anchor.forM (name · n)
    return n

/-- The node at the front, or an omitted one before any of the given tokens. -/
def nodeUnless : Nat → Place → List Token → Composing Node
  | 0, _, _ => reject
  | fuel + 1, place, ends => do
    if ends.contains (← peek) then return omitted else node fuel place

/-- The items of an indented sequence. -/
def blockItems : Nat → Composing (List Node)
  | 0 => reject
  | fuel + 1 => do
    match ← peek with
    | .blockEntry =>
      skip
      let n ← nodeUnless fuel .block [.blockEntry, .blockEnd]
      return n :: (← blockItems fuel)
    | .blockEnd =>
      skip
      return []
    | _ => reject

/-- The items of a sequence without indentation of its own. -/
def looseItems : Nat → Composing (List Node)
  | 0 => reject
  | fuel + 1 => do
    match ← peek with
    | .blockEntry =>
      skip
      let n ← nodeUnless fuel .block [.blockEntry, .key, .value, .blockEnd]
      return n :: (← looseItems fuel)
    | _ => return []

/-- The value after a key, if there is one. -/
def valueUnless : Nat → Place → List Token → Composing Node
  | 0, _, _ => reject
  | fuel + 1, place, ends => do
    match ← peek with
    | .value =>
      skip
      nodeUnless fuel place ends
    | _ => return omitted

/-- The entries of a block mapping. -/
def blockEntries : Nat → Composing (List (Node × Node))
  | 0 => reject
  | fuel + 1 => do
    match ← peek with
    | .key =>
      skip
      let k ← nodeUnless fuel .blockValue [.key, .value, .blockEnd]
      let v ← valueUnless fuel .blockValue [.key, .value, .blockEnd]
      return (k, v) :: (← blockEntries fuel)
    | .blockEnd =>
      skip
      return []
    | _ => reject

/-- The items of a sequence between brackets. After the first item there is a comma before each. -/
def flowItems : Nat → Bool → Composing (List Node)
  | 0, _ => reject
  | fuel + 1, first => do
    if (← peek) = .flowSequenceEnd then
      skip
      return []
    if !first then expect .flowEntry
    match ← peek with
    | .flowSequenceEnd =>
      skip
      return []
    | .key =>
      skip
      let k ← nodeUnless fuel .flow [.value, .flowEntry, .flowSequenceEnd]
      let v ← valueUnless fuel .flow [.flowEntry, .flowSequenceEnd]
      return .ofEntries .map [(k, v)] :: (← flowItems fuel false)
    | _ =>
      let n ← node fuel .flow
      return n :: (← flowItems fuel false)

/-- The entries of a mapping between brackets. -/
def flowEntries : Nat → Bool → Composing (List (Node × Node))
  | 0, _ => reject
  | fuel + 1, first => do
    if (← peek) = .flowMappingEnd then
      skip
      return []
    if !first then expect .flowEntry
    match ← peek with
    | .flowMappingEnd =>
      skip
      return []
    | .key =>
      skip
      let k ← nodeUnless fuel .flow [.value, .flowEntry, .flowMappingEnd]
      let v ← valueUnless fuel .flow [.flowEntry, .flowMappingEnd]
      return (k, v) :: (← flowEntries fuel false)
    | _ =>
      let n ← node fuel .flow
      return (n, omitted) :: (← flowEntries fuel false)

end

/-! ## Documents -/

/-- Drop the marks that end a document. -/
def skipEnds : Nat → Composing Unit
  | 0 => pure ()
  | fuel + 1 => do
    if (← peek) = .documentEnd then
      skip
      skipEnds fuel

/-- Read the directives before a document. -/
def directives (hasVersion : Bool) (own : List (List Char × List Char)) : Nat → Composing Unit
  | 0 => pure ()
  | fuel + 1 => do
    match ← peek with
    | .directive (.version major) =>
      skip
      if hasVersion || major != 1 then reject
      directives true own fuel
    | .directive (.tag h expansion) =>
      skip
      if (own.lookup h).isSome then reject
      directives hasVersion ((h, expansion) :: own) fuel
    | .directive .other =>
      skip
      directives hasVersion own fuel
    | _ => modify fun c => { c with handles := own ++ c.handles }

/-- The content of a document after its start mark. -/
def content (fuel : Nat) : Composing Node := do
  match ← peek with
  | .directive _ | .documentStart | .documentEnd | .streamEnd => return omitted
  | _ => node fuel .block

/-- The first document of a stream, if there is one. -/
def firstDocument (fuel : Nat) : Composing (Option Node) := do
  match ← peek with
  | .directive _ | .documentStart | .streamEnd =>
    if (← peek) = .streamEnd then return none
    directives false [] fuel
    expect .documentStart
    return some (← content fuel)
  | _ => return some (← node fuel .block)

/-- The only document of a stream, if there is one. -/
def document (fuel : Nat) : Composing (Option Node) := do
  match ← firstDocument fuel with
  | none => return none
  | some n =>
    skipEnds fuel
    expect .streamEnd
    return some n

end Composer

/-- The value of a document; a stream without a document is empty. There is no limit to how deep
    collections are nested. -/
def parse (text : List Char) : Except Fault Value := do
  let (ts, ending) := tokens text
  let (root, _) ← (Composer.document (4 * ts.length + 4)).run { tokens := ts, ending }
  match root with
  | none => .ok .null
  | some n => n.value

end Yaml

end SpringRoutes
