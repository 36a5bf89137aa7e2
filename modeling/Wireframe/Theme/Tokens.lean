import Wireframe.Table
import Wireframe.Value

/-! # Token trees

The values a theme gives to its variables are written as a tree of names. A leaf of the
tree is a bare value, or a mapping that holds the value under `value`. Flattening a tree
gives each leaf the key that joins the names on the way to it. A leaf that is null is no
leaf at all: a layer below keeps its value.

One tree is laid over another leaf by leaf.

Keys and texts of leaves are as they can be shown. Keys that differ in halves of surrogate
pairs alone are different keys, though; where that matters they are told apart by their code
points.
-/

namespace Wireframe.Theme

/-- The entries of a mapping in a token tree. -/
abbrev Tree := List (Value × Value)

/-- The variables of a theme: texts under keys. -/
abbrev Variables := Table String String

/-- The key of a name below a key. Below the empty key a name stands alone. -/
def joinKey (above : String) (name : Value) : String :=
  if above == "" then name.toText else above ++ "." ++ name.toText

/-- The text of a leaf. Truth values are written in lower case. -/
def leafText : Value → String
  | .bool b => if b then "true" else "false"
  | v => v.toText

/-- The name under which a mapping holds the value of a leaf. -/
def leafName : String := "value"

mutual

/-- Adds the leaves of a tree below a key to the variables that are there. -/
def flattenEntries (above : String) : Tree → Variables → Variables
  | [], found => found
  | (name, v) :: rest, found =>
    flattenEntries above rest (flattenValue (joinKey above name) v found)

/-- Adds the leaves of a value that stands under a key. -/
def flattenValue (key : String) : Value → Variables → Variables
  | .map entries, found =>
    match Value.field? leafName entries with
    | some .null => found
    | some leaf => found.put key (leafText leaf)
    | none => found.putAll (flattenEntries key entries [])
  | .null, found => found
  | v, found => found.put key (leafText v)

end

/-- The variables of a tree below a key. -/
def flatten (above : String) (tree : Tree) : Variables := flattenEntries above tree []

mutual

/-- The leaves of a tree below some names, each with all names on the way to it. -/
def leafPaths (above : List Value) : Tree → List (List Value × Value)
  | [] => []
  | (name, v) :: rest => leafPathsAt (above ++ [name]) v ++ leafPaths above rest

/-- The leaves of a value to which some names lead. -/
def leafPathsAt (path : List Value) : Value → List (List Value × Value)
  | .map entries =>
    match Value.field? leafName entries with
    | some .null => []
    | some leaf => [(path, leaf)]
    | none => leafPaths path entries
  | .null => []
  | v => [(path, v)]

end

/-- The code points of the key to which some names lead. -/
def keyCodes (path : List Value) : List Nat :=
  path.foldl (fun above name =>
    if above.isEmpty then name.codes else above ++ Text.codes "." ++ name.codes) []

/-- Whether some leaves, the later ones over the earlier, make a variable whose key or text holds
half of a surrogate pair. -/
def haveHalves : List (List Value × Value) → Bool
  | [] => false
  | (path, v) :: rest =>
    path.any Value.isHalved ||
      (v.isHalved && !rest.any fun later => keyCodes later.1 == keyCodes path) ||
      haveHalves rest

/-- A value that leaves what is below it as it is: null, or a leaf that is null. -/
def isNullLeaf : Value → Bool
  | .null => true
  | .map entries =>
    match Value.field? leafName entries with
    | some .null => true
    | _ => false
  | _ => false

/-- The value under a key of a mapping. -/
def find? (key : Value) (tree : Tree) : Option Value :=
  (tree.find? fun e => e.1.sameKey key).map (·.2)

mutual

/-- Lays the entries of a tree over another tree. -/
def overlay (below : Tree) : Tree → Tree
  | [] => below
  | (key, v) :: rest =>
    overlay (if isNullLeaf v then below else Value.put key (overlayValue (find? key below) v) below)
      rest

/-- Lays a value over the one that stands in its place, if there is one. -/
def overlayValue (below : Option Value) : Value → Value
  | .map entries =>
    match below with
    | some (.map under) => .map (overlay under entries)
    | _ => .map entries
  | v => v

end

end Wireframe.Theme
