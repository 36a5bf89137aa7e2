import Wireframe.Proofs.Table
import Wireframe.Theme.Resolve

/-! # Layers of a theme

The variables of a theme come from the leaves of three trees: the default tokens, a user's
tokens, and the component styles below a key of their own. Read one after the other, depth
first, the leaves are one list, and that list tells all about the variables: a key stands
where it occurs first and has the value it is given last
(`Wireframe.Theme.variables_of_leaves`). How the leaves nest, and on which level two of
them meet under one key, does not matter.
-/

namespace Wireframe.Theme

/-! ## Leaves -/

mutual

/-- The leaves of a tree below a key, depth first, each as its key and its text. -/
def leaves (above : String) : Tree → Variables
  | [] => []
  | (name, v) :: rest => leavesAt (joinKey above name) v ++ leaves above rest

/-- The leaves of a value under a key. A mapping that holds `value` is one leaf, and a leaf that is
null is none. -/
def leavesAt (key : String) : Value → Variables
  | .map entries =>
    match Value.field? leafName entries with
    | some .null => []
    | some leaf => [(key, leafText leaf)]
    | none => leaves key entries
  | .null => []
  | v => [(key, leafText v)]

end

mutual

/-- Flattening a tree sets its leaves one after the other. -/
theorem flattenEntries_eq_putAll (above : String) (tree : Tree) {found : Variables}
    (distinct : found.keys.Nodup) :
    flattenEntries above tree found = found.putAll (leaves above tree) := by
  match tree with
  | [] => rfl
  | (name, v) :: rest =>
      have first := flattenValue_eq_putAll (joinKey above name) v distinct
      have kept := Table.nodup_putAll distinct (leavesAt (joinKey above name) v)
      rw [flattenEntries, leaves, first, Table.putAll_append]
      exact flattenEntries_eq_putAll above rest kept

/-- Flattening a value sets the leaves that it has under its key. -/
theorem flattenValue_eq_putAll (key : String) (v : Value) {found : Variables}
    (distinct : found.keys.Nodup) :
    flattenValue key v found = found.putAll (leavesAt key v) := by
  match v with
  | .map entries =>
      rw [flattenValue, leavesAt]
      cases held : Value.field? leafName entries with
      | some leaf => cases leaf <;> rfl
      | none =>
          -- The entries are flattened on their own first, into a table of their own.
          have inner : flattenEntries key entries [] = Table.putAll [] (leaves key entries) :=
            flattenEntries_eq_putAll key entries List.nodup_nil
          rw [inner]
          exact Table.putAll_putAll distinct (leaves key entries)
  | .null | .bool _ | .int _ | .float _ | .text _ | .halved _ | .bytes _ | .date _ | .dateTime _
  | .time _ | .list _ | .tuple _ | .set _ => rfl

end

theorem flatten_eq_putAll (above : String) (tree : Tree) :
    flatten above tree = Table.putAll [] (leaves above tree) :=
  flattenEntries_eq_putAll above tree List.nodup_nil

/-- A user's theme comes to a resolved one where its leaves can be written. -/
theorem Resolved.ofUser_eq_ok {base : Base} {user : UserTheme} {theme : Resolved} :
    ofUser base (.ok user) = .ok theme ↔ base.writes user = true ∧
      theme = resolve base.tokens (user.tokens.map (·.tokens))
        (some (overlay base.styles (user.components.getD []))) [] := by
  rw [ofUser]
  split <;> simp [*, eq_comm]

/-- The key to which some names lead. -/
def keyOf (path : List Value) : String := path.foldl joinKey ""

mutual

/-- A leaf stands under the key to which its names lead. -/
theorem leaves_eq_map (above : List Value) (tree : Tree) :
    leaves (keyOf above) tree =
      (leafPaths above tree).map fun e => (keyOf e.1, leafText e.2) := by
  match tree with
  | [] => rfl
  | (name, v) :: rest =>
      have key : joinKey (keyOf above) name = keyOf (above ++ [name]) := by simp [keyOf]
      rw [leaves, leafPaths, List.map_append, key, leavesAt_eq_map (above ++ [name]) v,
        leaves_eq_map above rest]

theorem leavesAt_eq_map (path : List Value) (v : Value) :
    leavesAt (keyOf path) v =
      (leafPathsAt path v).map fun e => (keyOf e.1, leafText e.2) := by
  match v with
  | .map entries =>
      rw [leavesAt, leafPathsAt]
      cases Value.field? leafName entries with
      | some leaf => cases leaf <;> rfl
      | none => exact leaves_eq_map path entries
  | .null | .bool _ | .int _ | .float _ | .text _ | .halved _ | .bytes _ | .date _ | .dateTime _
  | .time _ | .list _ | .tuple _ | .set _ => rfl

end

theorem leaves_of_leafPaths {above : List Value} {tree other : Tree}
    (same : leafPaths above tree = leafPaths above other) :
    leaves (keyOf above) tree = leaves (keyOf above) other := by
  rw [leaves_eq_map, leaves_eq_map, same]

/-- The theme of a base has an encoding. -/
theorem Resolved.hasHalves_defaults (base : Base) (diagnostics : List Refusal) :
    (defaults base diagnostics).hasHalves = false := by
  have writable := base.writable
  rw [Bool.or_eq_false_iff] at writable
  exact writable.2

/-! ## Changing a leaf -/

/-- A value that is a leaf of a tree and no group of leaves. -/
def isLeaf : Value → Bool
  | .map entries => Value.hasField leafName entries
  | _ => true

/-- One leaf of a tree, which stands under a key, is given another value. -/
inductive Revises (key : String) : (above : String) → Tree → Tree → Prop where
  | leaf {above : String} {name old new : Value} {rest : Tree} (before : isLeaf old = true)
    (after : isLeaf new = true) (here : joinKey above name = key) :
    Revises key above ((name, old) :: rest) ((name, new) :: rest)
  | inside {above : String} {name : Value} {old new rest : Tree}
    (before : isLeaf (.map old) = false) (after : isLeaf (.map new) = false)
    (revises : Revises key (joinKey above name) old new) :
    Revises key above ((name, .map old) :: rest) ((name, .map new) :: rest)
  | behind {above : String} {e : Value × Value} {old new : Tree}
    (revises : Revises key above old new) : Revises key above (e :: old) (e :: new)

theorem leavesAt_of_isLeaf {key other : String} {v : Value} (leaf : isLeaf v = true)
    (differs : other ≠ key) : (leavesAt key v).lastValue? other = none := by
  have alone : ∀ text : String, Table.lastValue? [(key, text)] other = none := by
    intro text
    rw [Table.lastValue?_singleton]
    simp [differs]
  cases v with
  | map entries =>
      rw [leavesAt]
      obtain ⟨held, found⟩ := Option.isSome_iff_exists.mp leaf
      rw [found]
      cases held <;> first | rfl | exact alone _
  | null => rfl
  | _ => exact alone _

theorem leavesAt_group {key : String} {entries : Tree} (group : isLeaf (.map entries) = false) :
    leavesAt key (.map entries) = leaves key entries := by
  have missing : Value.field? leafName entries = none := by
    simpa [isLeaf, Value.hasField] using group
  rw [leavesAt, missing]

/-- A leaf that is given another value gives no other key another value. -/
theorem Revises.lastValue? {key above other : String} {old new : Tree}
    (revises : Revises key above old new) (differs : other ≠ key) :
    (leaves above old).lastValue? other = (leaves above new).lastValue? other := by
  induction revises with
  | leaf before after here =>
      subst here
      rw [leaves, leaves, Table.lastValue?_append, Table.lastValue?_append,
        leavesAt_of_isLeaf before differs, leavesAt_of_isLeaf after differs]
  | inside before after revises ih =>
      rw [leaves, leaves, Table.lastValue?_append, Table.lastValue?_append,
        leavesAt_group before, leavesAt_group after, ih]
  | behind revises ih =>
      rw [leaves, leaves, Table.lastValue?_append, Table.lastValue?_append, ih]

/-! ## Variables -/

/-- The leaves of all layers of a theme, from the lowest to the highest. -/
def allLeaves (defaults : Tree) (user styles : Option Tree) : Variables :=
  leaves "" defaults ++ leaves "" (user.getD []) ++ leaves componentKey (styles.getD [])

/-- A tree that is not there is flattened like one without leaves. -/
theorem flatten_getD (above : String) (tree : Option Tree) :
    (tree.map (flatten above)).getD [] = Table.putAll [] (leaves above (tree.getD [])) := by
  cases tree with
  | none => rfl
  | some tree => exact flatten_eq_putAll above tree

theorem variables_resolve (defaults : Tree) (user styles : Option Tree)
    (diagnostics : List Refusal) :
    (resolve defaults user styles diagnostics).«variables» =
      Table.putAll [] (allLeaves defaults user styles) := by
  have fresh : (Table.keys ([] : Variables)).Nodup := List.nodup_nil
  have base := Table.nodup_putAll fresh (leaves "" defaults)
  rw [resolve, allLeaves, Table.putAll_append, Table.putAll_append]
  dsimp only
  rw [flatten_eq_putAll, flatten_getD, flatten_getD, Table.putAll_putAll base,
    Table.putAll_putAll (Table.nodup_putAll base _)]

/-- **Layers of variables.** The variables of a theme are the keys of the leaves of all layers, each
where it occurs first and with the value that it is given last. So on a key that no component style
has, a user's leaf wins over a default one, and a default one without a user's keeps its value;
another value for one leaf of the user changes the value of no other key; and no key of a lower
layer is lost. -/
theorem variables_of_leaves (defaults : Tree) (user styles : Option Tree)
    (diagnostics : List Refusal) :
    let found := (resolve defaults user styles diagnostics).«variables»
    let lowest := leaves "" defaults
    let middle := leaves "" (user.getD [])
    let highest := leaves componentKey (styles.getD [])
    found.keys = (Table.keys (lowest ++ middle ++ highest)).eraseDups ∧
      (∀ key, found.get? key = Table.lastValue? (lowest ++ middle ++ highest) key) ∧
      (∀ key, key ∉ highest.keys →
        found.get? key = (middle.lastValue? key).or (lowest.lastValue? key)) ∧
      (∀ tokens revised key, user = some tokens → Revises key "" tokens revised →
        ∀ other, other ≠ key →
          (resolve defaults (some revised) styles diagnostics).«variables».get? other =
            found.get? other) ∧
      ∀ key, key ∈ lowest.keys ∨ key ∈ middle.keys → key ∈ found.keys := by
  intro found lowest middle highest
  have fresh : (Table.keys ([] : Variables)).Nodup := List.nodup_nil
  have keys : found.keys = (Table.keys (lowest ++ middle ++ highest)).eraseDups := by
    have set := variables_resolve defaults user styles diagnostics
    rw [show found = _ from set, Table.keys_putAll fresh]
    rfl
  have values (tokens : Option Tree) (key : String) :
      (resolve defaults tokens styles diagnostics).«variables».get? key =
        Table.lastValue? (allLeaves defaults tokens styles) key := by
    rw [variables_resolve, Table.get?_putAll]
    exact Option.or_none
  refine ⟨keys, values user, ?_, ?_, ?_⟩
  · intro key missing
    rw [values user key, allLeaves, Table.lastValue?_append, Table.lastValue?_append,
      Table.lastValue?_eq_none missing]
    rfl
  · rintro tokens revised key rfl revises other differs
    have same := revises.lastValue? differs
    rw [values (some revised) other, values (some tokens) other, allLeaves, allLeaves]
    simp only [Table.lastValue?_append, Option.getD_some, same]
  · intro key member
    rw [keys, List.mem_eraseDups, Table.keys_append, Table.keys_append]
    simp only [List.mem_append]
    exact .inl member

example :
    (resolve [(.text "a", .int 1), (.text "b", .int 2)]
      (some [(.text "b", .map [(.text "value", .int 3)]), (.text "a", .null)]) none
      []).«variables» = [("a", "1"), ("b", "3")] := by
  decide +kernel

end Wireframe.Theme
