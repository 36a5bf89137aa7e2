import Wireframe.Yaml.Node
import Wireframe.Yaml.Scalar

/-! # From nodes to values

The value of a node. A mapping takes in the entries of the mappings that its merge keys
name, in front of its own entries; of entries with equal keys the last value counts and
the first place. When several nodes have no value, the fault of the one that is nearest
to the root is reported, and of those on one level the first.
-/

namespace Wireframe.Yaml

namespace Node

/-- A node under a merge key or one of the nodes in it, turned into entries. -/
abbrev Entries := List (Node × Node)

/-- An equals sign as a key stands for itself. -/
def asKey : Node → Node
  | scalar .value text mark => scalar .str text mark
  | other => other

mutual

/-- The entries of a mapping, with those of its merge keys in front. -/
def mergedEntries : Entries → Except Error (Entries × Entries)
  | [] => .ok ([], [])
  | (key, value) :: rest =>
    if key.tag == .merge then do
      let merged ← mergeSource value
      let (before, own) ← mergedEntries rest
      return (merged ++ before, own)
    else do
      let (before, own) ← mergedEntries rest
      return (before, (key.asKey, value) :: own)

/-- The entries of the mapping or the mappings under a merge key. Of several mappings the first one
comes last, so that its values count. -/
def mergeSource : Node → Except Error Entries
  | mapping _ entries _ => do
    let (before, own) ← mergedEntries entries
    return before ++ own
  | sequence _ items _ => do return (← mergeItems items).reverse.flatten
  | scalar _ _ mark => .error (.broken (.mergeNeedsMappings .scalar) mark)

/-- The entries of each mapping in a list under a merge key. -/
def mergeItems : List Node → Except Error (List Entries)
  | [] => .ok []
  | mapping _ entries _ :: rest => do
    let (before, own) ← mergedEntries entries
    return (before ++ own) :: (← mergeItems rest)
  | sequence _ _ mark :: _ => .error (.broken (.mergeNeedsMapping .sequence) mark)
  | scalar _ _ mark :: _ => .error (.broken (.mergeNeedsMapping .scalar) mark)

end

/-- The entries of a mapping after merging. -/
def allEntries (entries : Entries) : Except Error Entries := do
  let (before, own) ← mergedEntries entries
  return before ++ own

/-- The text of a node that is used as a scalar: of a mapping, the value under its key `=`. -/
def scalarText : Node → Except Error String
  | scalar _ text _ => .ok text
  | sequence _ _ mark => .error (.broken (.wrongNode .scalar .sequence) mark)
  | mapping _ entries mark => entryText mark entries
where
  entryText (mark : Mark) : Entries → Except Error String
    | [] => .error (.broken (.wrongNode .scalar .mapping) mark)
    | (key, value) :: rest =>
      if key.tag == .value then scalarText value else entryText mark rest

/-- A scalar's value, its fault turned into an error. -/
def ofScalar (result : Scalar.Result Value) : Except Error Value :=
  match result with
  | .ok value => .ok value
  | .error fault => .error (.scalar fault)

/-- The entry of an item of an ordered mapping, which is a mapping with one entry. -/
def onlyEntry : Node → Except Error (Node × Node)
  | mapping _ [entry] _ => .ok entry
  | mapping _ entries mark => .error (.broken (.pairNeedsOneEntry entries.length) mark)
  | other => .error (.broken (.pairNeedsMapping other.kind) other.mark)

/-- What a node turns into: a scalar value at once, or a collection whose parts are still to be
built. -/
inductive Shape where
  | value (v : Value)
  | list
  | pairs
  | set
  | map

/-- The shape of a node, by its tag. -/
def shape (node : Node) : Except Error Shape :=
  match node.tag with
  | .null => do discard node.scalarText; return .value .null
  | .bool => do return .value (← ofScalar (Scalar.bool (← node.scalarText)))
  | .int => do return .value (← ofScalar (Scalar.int (← node.scalarText)))
  | .float => do return .value (← ofScalar (Scalar.float (← node.scalarText)))
  | .binary => do return .value (← Scalar.binary (← node.scalarText) node.mark)
  | .timestamp => do
    let text ← node.scalarText
    match node with
    | scalar _ _ _ => return .value (← ofScalar (Scalar.timestamp text))
    | _ => throw (.scalar .notTimestampText)
  | .str => do return .value (.text (← node.scalarText))
  | .halved codes => return .value (.halved codes)
  | .seq => return .list
  | .omap | .pairs => return .pairs
  | .set => return .set
  | .map => return .map
  | other => throw (.broken (.unknownTag other.name) node.mark)

/-- Whether the value of a node with this shape can be a key. -/
def Shape.isHashable : Shape → Bool
  | .value v => v.isHashable
  | _ => false

/-- A part of a collection, and whether it stands as a key that must be hashable. -/
structure Part where
  node : Node
  isKey : Bool

/-- The parts of the items of an ordered mapping, up to the first item that is no entry. -/
def pairParts : List Node → List Part × Option Error
  | [] => ([], none)
  | item :: rest =>
    match item.onlyEntry with
    | .error e => ([], some e)
    | .ok (key, value) =>
      let (parts, failure) := pairParts rest
      (⟨key, false⟩ :: ⟨value, false⟩ :: parts, failure)

/-- The parts of a collection in the order in which they are built, and the error behind them. -/
def parts (shape : Shape) (node : Node) : List Part × Option Error :=
  match shape, node with
  | .value _, _ => ([], none)
  | .list, sequence _ items _ => (items.map (⟨·, false⟩), none)
  | .list, other => ([], some (.broken (.wrongNode .sequence other.kind) other.mark))
  | .pairs, sequence _ items _ => pairParts items
  | .pairs, other => ([], some (.broken (.pairsNeedSequence other.kind) other.mark))
  | .set, mapping _ entries _ | .map, mapping _ entries _ =>
    match allEntries entries with
    | .error e => ([], some e)
    | .ok all => (all.flatMap fun entry => [⟨entry.1, true⟩, ⟨entry.2, false⟩], none)
  | .set, other | .map, other => ([], some (.broken (.wrongNode .mapping other.kind) other.mark))

/-- Finds the shapes of parts; the collections among them are returned. -/
def visitParts : List Part → Except Error (List (Node × Shape))
  | [] => .ok []
  | part :: rest => do
    let shape ← part.node.shape
    if part.isKey && !shape.isHashable then throw (.broken .unhashableKey part.node.mark)
    let collections ← visitParts rest
    match shape with
    | .value _ => return collections
    | other => return (part.node, other) :: collections

/-- Visits the parts of the collections of one level; the collections of the next level are
returned. -/
def visitLevel : List (Node × Shape) → Except Error (List (Node × Shape))
  | [] => .ok []
  | (node, shape) :: rest => do
    let (parts, failure) := parts shape node
    let collections ← visitParts parts
    match failure with
    | some e => throw e
    | none => return collections ++ (← visitLevel rest)

/-- Visits level after level, so that the fault nearest to the root is found first. -/
def visitLevels : (fuel : Nat) → List (Node × Shape) → Except Error Unit
  | 0, _ => .ok ()
  | _ + 1, [] => .ok ()
  | fuel + 1, level => do visitLevels fuel (← visitLevel level)

mutual

/-- The number of levels of a node. -/
def height : Node → Nat
  | scalar _ _ _ => 1
  | sequence _ items _ => itemsHeight items + 1
  | mapping _ entries _ => entriesHeight entries + 1

/-- The number of levels of the highest item. -/
def itemsHeight : List Node → Nat
  | [] => 0
  | item :: rest => max item.height (itemsHeight rest)

/-- The number of levels of the highest key or value. -/
def entriesHeight : List (Node × Node) → Nat
  | [] => 0
  | (key, value) :: rest => max (max key.height value.height) (entriesHeight rest)

end

/-- Puts the values of entries together: equal keys keep the first place and the last value. -/
def collect (entries : List (Value × Value)) : List (Value × Value) := Value.putAll entries []

/-- The value of a node with at most `fuel` levels. -/
def build : (fuel : Nat) → Node → Except Error Value
  | 0, _ => .error (.scalar .endless)
  | fuel + 1, node => do
    match (← node.shape), node with
    | .value v, _ => return v
    | .list, sequence _ items _ => return .list (← items.mapM (build fuel))
    | .pairs, sequence _ items _ =>
      let pairs ← items.mapM fun item => do
        let (key, value) ← item.onlyEntry
        return Value.tuple [← build fuel key, ← build fuel value]
      return .list pairs
    | .set, mapping _ entries _ =>
      let keys ← (← allEntries entries).mapM fun entry => build fuel entry.1
      return .set (keys.foldl (fun items key => Value.insertItem key items) [])
    | .map, mapping _ entries _ =>
      let values ← (← allEntries entries).mapM fun entry => do
        return (← build fuel entry.1, ← build fuel entry.2)
      return .map (collect values)
    | _, other => throw (.broken (.wrongNode .mapping other.kind) other.mark)

/-- The value of a node. -/
def toValue (root : Node) : Except Error Value := do
  let collections ← visitParts [⟨root, false⟩]
  visitLevels root.height collections
  build root.height root

end Node

/-- The value of a YAML text; a text without a document has the value null. -/
def load (text : String) : Except Error Value := do
  match (← Node.ofText text.toList) with
  | none => return .null
  | some root => root.toValue

end Wireframe.Yaml
