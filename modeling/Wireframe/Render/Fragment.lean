import Wireframe.Document.Walk
import Wireframe.Render.Structure
import Wireframe.Render.Template

/-! # Rendered fragments

A document under a theme becomes a fragment: the markup of its page, and the variables of
the theme that its looks depend on. These are the variables that the styles of the
classes in use refer to, and those that the values of such variables refer to in turn.
-/

namespace Wireframe.Render

/-- The markup of a document, with the variables it depends on in the order of the theme. -/
structure Fragment where
  markup : String
  «variables» : List String
deriving DecidableEq, Repr

/-- The kinds and variants of the nodes of a document. -/
def styled (d : Document) : List (Document.Kind × Option String) :=
  d.walk.map fun node => (node.kind, node.variant?)

/-- The variables that the styles of a kind and a variant refer to. -/
def styleReferences (theme : Theme.Resolved) (kind : Document.Kind) (variant : Option String) :
    List String :=
  (classes kind variant).flatMap classReferences ++
    match variant with
    | none => []
    | some v =>
      ((theme.components.get? (Text.lower kind.name, v)).getD []).map fun (_, key) =>
        Theme.variableName key

/-- The variables of a theme under the names they have in a style sheet. Of two variables with one
name the later one counts. -/
def named (theme : Theme.Resolved) : Table String String :=
  Table.putAll [] (theme.«variables».map fun (key, value) => (Theme.variableName key, value))

/-- Follows the references from some names on and tells which variables are not reached. A variable
leaves the table when it is reached, so each is followed once, whatever refers to what. -/
def unreached (table : Table String String) (pending : List String) : Table String String :=
  match pending with
  | [] => table
  | name :: rest =>
    match found : table.get? name with
    | none => unreached table rest
    | some value =>
      have := Table.length_erase_lt found
      unreached (table.erase name) (references value ++ rest)
termination_by (List.length table, pending.length)

/-- The variables that a document depends on under a theme, in the order of the theme. -/
def «variables» (d : Document) (theme : Theme.Resolved) : List String :=
  let table := named theme
  let left := unreached table ((styled d).flatMap fun (kind, variant) =>
    styleReferences theme kind variant)
  table.keys.filter fun name => (left.get? name).isNone

/-- Renders a document under a theme. -/
def fragment (d : Document) (theme : Theme.Resolved) : Fragment :=
  ⟨(page d.page).write, «variables» d theme⟩

end Wireframe.Render
