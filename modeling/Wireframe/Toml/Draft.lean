import Wireframe.Toml.Fault

/-! # Drafts

What a TOML text has told up to some place: the values so far, in nested tables, and
the marks that keep tables and values from being changed later. A table that was
declared cannot be declared again, and what was written as one value cannot be added to.
-/

namespace Wireframe.Toml

/-- The entries of a table. -/
abbrev Entries := List (Value × Value)

namespace Entries

/-- Changes the table that a key leads to. Tables on the way that are not there yet are made; with
`throughArrays` an array on the way stands for its last table. There is no result where something
else than a table is on the way, or where the change has none. -/
def change (throughArrays : Bool) (f : Entries → Option Entries) : Key → Entries → Option Entries
  | [], entries => f entries
  | name :: rest, entries =>
    let set (inner : Value) := Value.put (.text name) inner entries
    match Value.field? name entries with
    | none => (change throughArrays f rest []).map fun inner => set (.map inner)
    | some (.map inner) => (change throughArrays f rest inner).map fun inner => set (.map inner)
    | some (.list items) =>
      match throughArrays, items.getLast? with
      | true, some (.map inner) =>
        (change throughArrays f rest inner).map fun inner =>
          set (.list (items.dropLast ++ [.map inner]))
      | _, _ => none
    | some _ => none

/-- Makes a table, if nothing is in its place yet. -/
def declare (key : Key) : Entries → Option Entries := change true some key

/-- Adds an empty table to the array of a name, which is made if it is not there. -/
def addTable (name : String) (entries : Entries) : Option Entries :=
  match Value.field? name entries with
  | none => some (Value.put (.text name) (.list [.map []]) entries)
  | some (.list items) => some (Value.put (.text name) (.list (items ++ [.map []])) entries)
  | some _ => none

/-- Adds an empty table to the array that a key leads to. -/
def append (key : Key) : Entries → Option Entries :=
  change true (addTable (key.getLastD "")) key.dropLast

/-- Sets the value of a name that has none. -/
def set (name : String) (value : Value) (entries : Entries) : Option Entries :=
  if Value.hasField name entries then none else some (Value.put (.text name) value entries)

end Entries

/-- The keys of a text that cannot be changed any more. -/
structure Marks where
  /-- Tables that cannot be declared again. -/
  declared : List Key
  /-- Values to which nothing can be added, at any depth. -/
  frozen : List Key
  /-- Tables that cannot be declared any more from the next declaration on. -/
  pending : List Key

namespace Marks

/-- No marks at all. -/
def none : Marks := ⟨[], [], []⟩

/-- Whether a table cannot be declared again. -/
def isDeclared (marks : Marks) (key : Key) : Bool := marks.declared.contains key

/-- Whether a key leads into a value that cannot be added to. -/
def isFrozen (marks : Marks) (key : Key) : Bool := marks.frozen.any (·.isPrefixOf key)

/-- Marks a table as declared. -/
def declare (marks : Marks) (key : Key) : Marks :=
  { marks with declared := key :: marks.declared }

/-- Marks a value as one that cannot be added to, if it can hold something. -/
def freeze (marks : Marks) (key : Key) : Value → Marks
  | .map _ | .list _ => { marks with frozen := key :: marks.frozen }
  | _ => marks

/-- Marks the tables that were waiting for it as declared. -/
def settle (marks : Marks) : Marks :=
  { marks with declared := marks.pending ++ marks.declared, pending := [] }

/-- Takes away the marks of a key and of all that it leads to. -/
def clear (marks : Marks) (key : Key) : Marks :=
  { marks with
    declared := marks.declared.filter fun k => !key.isPrefixOf k
    frozen := marks.frozen.filter fun k => !key.isPrefixOf k }

end Marks

/-- What a text has told so far: its values, its marks, and the table to which entries go now. -/
structure Draft where
  entries : Entries
  marks : Marks
  header : Key

namespace Draft

/-- The draft of an empty text. -/
def empty : Draft := ⟨[], .none, []⟩

/-- Takes a change of the entries, which must not be blocked by a value. -/
def changed (draft : Draft) (entries : Option Entries) : Except Flaw Draft :=
  match entries with
  | some entries => .ok { draft with entries := entries }
  | none => .error .overwritten

/-- Declares a table, to which entries go from now on. -/
def declareTable (draft : Draft) (key : Key) : Except Flaw Draft :=
  if draft.marks.isDeclared key || draft.marks.isFrozen key then .error (.declaredTwice key)
  else
    { draft with marks := draft.marks.declare key, header := key }.changed
      (draft.entries.declare key)

/-- Adds a table to an array of tables, to which entries go from now on. -/
def appendTable (draft : Draft) (key : Key) : Except Flaw Draft :=
  if draft.marks.isFrozen key then .error (.immutable key)
  else
    { draft with marks := (draft.marks.clear key).declare key, header := key }.changed
      (draft.entries.append key)

/-- The tables on the way of a dotted key, seen from a header. -/
def onTheWay (header key : Key) : List Key :=
  (List.range (key.length - 1)).map fun i => header ++ key.take (i + 1)

/-- Sets a value in the table to which entries go. A dotted key leads further into that table. -/
def setValue (draft : Draft) (key : Key) (value : Value) : Except Flaw Draft :=
  let passed := onTheWay draft.header key
  let table := draft.header ++ key.dropLast
  match passed.find? draft.marks.isDeclared with
  | some other => .error (.redefined other)
  | none =>
    if draft.marks.isFrozen table then .error (.immutable table)
    else
      let marks := { draft.marks with pending := passed ++ draft.marks.pending }
      { draft with marks := marks.freeze (draft.header ++ key) value }.changed
        (draft.entries.change true (Entries.set (key.getLastD "") value) table)

end Draft

/-- What an inline table has told so far. -/
structure InlineDraft where
  entries : Entries
  marks : Marks

namespace InlineDraft

/-- The draft of an empty inline table. -/
def empty : InlineDraft := ⟨[], .none⟩

/-- Sets a value. Arrays are never on the way here. -/
def setValue (draft : InlineDraft) (key : Key) (value : Value) : Except Flaw InlineDraft :=
  let name := key.getLastD ""
  if draft.marks.isFrozen key then .error (.immutable key)
  else
    match draft.entries.change false some key.dropLast with
    | none => .error .overwritten
    | some _ =>
      match draft.entries.change false (Entries.set name value) key.dropLast with
      | none => .error (.duplicateKey name)
      | some entries => .ok ⟨entries, draft.marks.freeze key value⟩

end InlineDraft

end Wireframe.Toml
