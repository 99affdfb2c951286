import SpringRoutes.Yaml.Scalar

/-!
# `SpringRoutes.Yaml.Node` — the nodes of a document

A node is a scalar or a collection with its tag. Aliases have been replaced by the nodes that they
name, and a mapping knows the entries that its merge keys bring in. Only an alias inside the
collection that it names is left, since nodes are finite; where such a collection is merged, it is
written out once.

## Contents
- `Yaml.Node`, `Yaml.Node.ofEntries`: nodes, and mappings with their merged entries.
- `Yaml.Node.mergeEnclosing`: merge keys that name a collection around them.
- `Yaml.Node.reading`: the value of a node, with the fault that is found first.
- `Yaml.Node.value`: the value of a node.
-/

namespace SpringRoutes

namespace Yaml

/-- A node of a document. -/
inductive Node
  | scalar (tag : Tag) (text : List Char)
  | sequence (tag : Tag) (items : List Node)
  /-- A mapping with the entries that are merged into it and its own ones; the flag tells that some
      merge key has no mapping to merge. -/
  | mapping (tag : Tag) (inherited own : List (Node × Node)) (badMerge : Bool)
  /-- A reference to the collection with the given anchor from inside that collection. -/
  | enclosing (anchor : List Char)
  deriving Repr, Inhabited

namespace Node

/-! ## Merged entries -/

/-- The tag of a node. -/
def tag : Node → Tag
  | .scalar t _ => t
  | .sequence t _ => t
  | .mapping t _ _ _ => t
  | .enclosing _ => .unknown

/-- The entries that a mapping gives to others, and whether it could merge its own. -/
def entriesToMerge : Node → List (Node × Node) × Bool
  | .mapping _ inherited own bad => (inherited ++ own.filter (·.1.tag != .merge), bad)
  | .enclosing _ => ([], false)
  | _ => ([], true)

/-- The entries that the value of a merge key brings in: those of a mapping, or of a sequence of
    mappings where the first ones count most. -/
def merged : Node → List (Node × Node) × Bool
  | .sequence _ items =>
    let parts := items.map entriesToMerge
    (parts.reverse.flatMap (·.1), parts.any (·.2))
  | n => n.entriesToMerge

/-- The mapping with the given entries of its own. -/
def ofEntries (t : Tag) (own : List (Node × Node)) : Node :=
  let parts := (own.filter (·.1.tag == .merge)).map (·.2.merged)
  .mapping t (parts.flatMap (·.1)) own (parts.any (·.2))

/-- The collection `n` in place of a reference to it by its anchor. -/
def replaced (anchor : List Char) (n : Node) : Node → Node
  | .enclosing a => if a = anchor then n else .enclosing a
  | m => m

/-- The value of a merge key with references to the collection `n` replaced by it. -/
def mergeTarget (anchor : List Char) (n : Node) : Node → Node
  | .sequence t items => .sequence t (items.map (replaced anchor n))
  | m => replaced anchor n m

mutual

/-- A node inside the collection `n` that has the given anchor, with the merge keys that name the
    collection resolved. -/
def mergeEnclosing (anchor : List Char) (n : Node) : Node → Node
  | .sequence t items => .sequence t (mergeItems anchor n items)
  | .mapping t _ own _ => .ofEntries t (mergeEntries anchor n own)
  | m => m

/-- The same for the items of a sequence. -/
def mergeItems (anchor : List Char) (n : Node) : List Node → List Node
  | [] => []
  | m :: ms => mergeEnclosing anchor n m :: mergeItems anchor n ms

/-- The same for the entries of a mapping. -/
def mergeEntries (anchor : List Char) (n : Node) : List (Node × Node) → List (Node × Node)
  | [] => []
  | (k, v) :: rest =>
    let value := mergeEnclosing anchor n v
    (mergeEnclosing anchor n k, if k.tag == .merge then mergeTarget anchor n value else value)
      :: mergeEntries anchor n rest

end

/-! ## Values -/

/-- A value and the fault that is found first: collections are read level by level, so a fault of an
    outer collection comes before one of an inner collection. -/
structure Reading (α : Type) where
  value : α
  fault : Option (Nat × Fault) := none

/-- Of two faults the one that is found first. -/
def earlier : Option (Nat × Fault) → Option (Nat × Fault) → Option (Nat × Fault)
  | none, g => g
  | f, none => f
  | some f, some g => if g.1 < f.1 then some g else some f

/-- A fault that is found while the collection around it is read. -/
def faulty {α : Type} (v : α) (f : Fault) : Reading α :=
  ⟨v, some (0, f)⟩

/-- The reading of a scalar. -/
def scalarReading (tag : Tag) (text : List Char) : Reading Value :=
  match scalarValue tag text with
  | .ok v => ⟨v, none⟩
  | .error f =>
    match tag with
    | .seq | .map | .set | .omap | .pairs => ⟨.null, some (1, f)⟩
    | _ => faulty .null f

/-- The text of a mapping that stands for its default value. -/
def defaultText? : List (Node × Node) → Option (List Char)
  | [] => none
  | (.scalar .defaultValue _, .scalar _ text) :: _ => some text
  | (.scalar .defaultValue _, .mapping _ _ own _) :: _ => defaultText? own
  | (.scalar .defaultValue _, _) :: _ => none
  | (.scalar _ _, _) :: rest => defaultText? rest
  | (.sequence _ _, _) :: rest => defaultText? rest
  | (.mapping _ _ _ _, _) :: rest => defaultText? rest
  | (.enclosing _, _) :: rest => defaultText? rest

/-- Whether a value can be a key. -/
def isKey : Value → Bool
  | .sequence _ | .mapping _ | .set _ | .enclosing => false
  | _ => true

mutual

/-- The value of a node. -/
def reading : Node → Reading Value
  | .scalar tag text => scalarReading tag text
  | .sequence tag items =>
    let r := itemReadings items
    let inner := r.fault.map fun f => (f.1 + 1, f.2)
    match tag with
    | .seq => ⟨.sequence r.value, inner⟩
    | .omap | .pairs =>
      let pairs := pairReadings items
      ⟨.sequence pairs.value, pairs.fault.map fun f => (f.1 + 1, f.2)⟩
    | .map | .set => ⟨.null, some (1, .document)⟩
    | _ => faulty .null .document
  | .mapping tag inherited own badMerge =>
    let above := entryReadings inherited
    let below := entryReadings own
    let merge := if badMerge then some (0, Fault.document) else none
    let fault := (earlier merge (earlier above.fault below.fault)).map fun f => (f.1 + 1, f.2)
    match tag with
    | .map => ⟨.mapping (above.value ++ below.value), fault⟩
    | .set => ⟨.set ((above.value ++ below.value).map (·.1)), fault⟩
    | .seq | .omap | .pairs => ⟨.null, some (1, .document)⟩
    | _ =>
      match defaultText? own with
      | some text => scalarReading tag text
      | none => faulty .null .document
  | .enclosing _ => ⟨.enclosing, none⟩

/-- The values of the items of a sequence. -/
def itemReadings : List Node → Reading (List Value)
  | [] => ⟨[], none⟩
  | n :: ns =>
    let r := reading n
    let rs := itemReadings ns
    ⟨r.value :: rs.value, earlier r.fault rs.fault⟩

/-- The values of a sequence of mappings with one entry each. -/
def pairReadings : List Node → Reading (List Value)
  | [] => ⟨[], none⟩
  | .mapping _ _ [(k, v)] _ :: ns =>
    let key := reading k
    let val := reading v
    let rs := pairReadings ns
    ⟨.sequence [key.value, val.value] :: rs.value, earlier key.fault (earlier val.fault rs.fault)⟩
  | _ :: _ => faulty [] .document

/-- The values of the entries of a mapping. Merge keys have been dealt with, and a default key
    stands for its text. -/
def entryReadings : List (Node × Node) → Reading (List (Value × Value))
  | [] => ⟨[], none⟩
  | (.scalar .merge _, _) :: rest => entryReadings rest
  | (.scalar .defaultValue text, v) :: rest =>
    let val := reading v
    let rs := entryReadings rest
    ⟨(.text (String.ofList text), val.value) :: rs.value, earlier val.fault rs.fault⟩
  | (k, v) :: rest =>
    let key := reading k
    let val := reading v
    let rs := entryReadings rest
    let unusable := if isKey key.value then none else some (0, Fault.document)
    ⟨(key.value, val.value) :: rs.value,
      earlier key.fault (earlier unusable (earlier val.fault rs.fault))⟩

end

/-- The value of a node, or the fault that is found first. -/
def value (n : Node) : Except Fault Value :=
  let r := n.reading
  match r.fault with
  | none => .ok r.value
  | some f => .error f.2

end Node

end Yaml

end SpringRoutes
