import Wireframe.Document.Build

/-! # Outlines

The entries of a source form a tree: below an entry stand the entries of the lists in its
body, for a form those of its fields before those of its actions. The outline of a source
names them all, the page first.

In the outline of an accepted source one sees which texts are given by halves of surrogate
pairs. The document has such a text as it can be shown, but nothing can encode what was given.
-/

namespace Wireframe.Document

namespace Content

/-- The entries of the list that stands under a key; there are none where no list stands. -/
def listed (body : Fields) (name : String) : List Value :=
  match Value.field? name body with
  | some (.list entries) => entries
  | _ => []

end Content

open Content

/-! ## The entries of a source -/

/-- The kind and the body of an entry, if it is one. -/
def entryOf? : Value → Option (Kind × Fields)
  | .map [(key, .null)] => (Kind.ofKey? key).map fun kind => (kind, [])
  | .map [(key, .map body)] => (Kind.ofKey? key).map fun kind => (kind, body)
  | _ => none

/-- The entries of a list are smaller than the body in which they are listed. -/
theorem sizeOf_listed_lt (body : Fields) (name : String) :
    sizeOf (listed body name) < sizeOf body + 1 := by
  unfold listed
  split
  · rename_i entries found
    have smaller := sizeOf_field?_lt found
    simp only [Value.list.sizeOf_spec] at smaller
    omega
  · cases body with
    | nil => simp
    | cons field rest =>
        have fewer : sizeOf ([] : List Value) = 1 := rfl
        simp only [List.cons.sizeOf_spec]
        omega

/-- The body of an entry is smaller than the entry. -/
theorem sizeOf_entryOf?_lt {v : Value} {kind : Kind} {body : Fields}
    (opened : entryOf? v = some (kind, body)) : sizeOf body + 1 < sizeOf v := by
  unfold entryOf? at opened
  split at opened
  · obtain ⟨_, _, same⟩ := Option.map_eq_some_iff.mp opened
    cases same
    simp
    omega
  · obtain ⟨_, _, same⟩ := Option.map_eq_some_iff.mp opened
    cases same
    simp
    omega
  · cases opened

/-- The body of an entry is smaller than a list that begins with the entry. -/
theorem sizeOf_body_lt {v : Value} {kind : Kind} {body : Fields} (rest : List Value)
    (opened : entryOf? v = some (kind, body)) : sizeOf body + 1 < sizeOf (v :: rest) := by
  have smaller := sizeOf_entryOf?_lt opened
  simp only [List.cons.sizeOf_spec]
  omega

/-- What is behind the first entry of a list is smaller than the list. -/
theorem sizeOf_rest_lt (v : Value) (rest : List Value) : sizeOf rest < sizeOf (v :: rest) := by
  simp only [List.cons.sizeOf_spec]
  omega

mutual

/-- An entry and all entries below it, in the order of the source. The fields of a form come before
its actions, whichever of the two is written first. -/
def outline (kind : Kind) (body : Fields) : List (Kind × Fields) :=
  (kind, body) ::
    match kind with
    | .page | .container => outlineAll (listed body "components")
    | .form => outlineAll (listed body "fields") ++ outlineAll (listed body "actions")
    | _ => []
termination_by sizeOf body + 1
decreasing_by all_goals exact sizeOf_listed_lt ..

/-- The entries of a list, each with all entries below it. -/
def outlineAll (entries : List Value) : List (Kind × Fields) :=
  match entries with
  | [] => []
  | v :: rest =>
    match _ : entryOf? v with
    | some (kind, body) => outline kind body ++ outlineAll rest
    | none => outlineAll rest
termination_by sizeOf entries
decreasing_by
  · exact sizeOf_body_lt rest ‹_›
  · exact sizeOf_rest_lt v rest
  · exact sizeOf_rest_lt v rest

end

/-! ## Texts with halves of surrogate pairs -/

/-- The members of a sequence or a set. -/
def members : Value → List Value
  | .list items | .tuple items | .set items => items
  | _ => []

/-- Whether one of some entries of a mapping has a text with halves of surrogate pairs. -/
def halvesAt (names : List String) (entries : Fields) : Bool :=
  names.any fun name => (Value.field? name entries).any Value.isHalved

/-- Whether a choice is labelled or valued by a text with halves of surrogate pairs. -/
def choiceHasHalves : Value → Bool
  | .map entries => halvesAt ["label", "value"] entries
  | _ => false

/-- Whether a node of a kind offers choices. -/
def Kind.hasOptions : Kind → Bool
  | radio | select => true
  | _ => false

/-- Whether an entry gives a text of its node by halves of surrogate pairs. -/
def entryHasHalves (entry : Kind × Fields) : Bool :=
  halvesAt entry.1.textFields entry.2 ||
    (entry.1.hasOptions && (Value.field? "options" entry.2).any fun v =>
      (members v).any choiceHasHalves)

/-- Whether a text of a document is given by halves of surrogate pairs, where the document is that
of a value. -/
def hasHalves : Value → Bool
  | .map entries =>
    match Value.field? "page" entries with
    | some (.map body) => (outline .page body).any entryHasHalves
    | _ => false
  | _ => false

end Wireframe.Document
