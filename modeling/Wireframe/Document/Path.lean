import Wireframe.Document.Vocabulary

/-! # Paths

Where in the source of a document a node or a field stands. A path leads from the page
down: into a field, to an item of a list of components, into the body of an entry, or to
a member of a list within a field.
-/

namespace Wireframe.Document

/-- One step down into a source. -/
inductive Step where
  /-- To the value of a field. -/
  | field (name : String)
  /-- To an entry of a list of components. -/
  | item (index : Nat)
  /-- From an entry into its body. -/
  | body (kind : Kind)
  /-- To a member of a list that a field holds. -/
  | member (index : Nat)
deriving DecidableEq, Repr

/-- The text of a step. -/
def Step.text : Step → String
  | field name => "." ++ name
  | item index => "[" ++ Nat.repr index ++ "]"
  | body kind => "." ++ kind.name
  | member index => "." ++ Nat.repr index

/-- The steps that lead down from the page. -/
abbrev Path := List Step

/-- The text of a path. -/
def Path.text (path : Path) : String := "page" ++ String.join (path.map Step.text)

end Wireframe.Document
