import Wireframe.Document.Basic

/-! # Walking a document

The nodes of a document in the order of its source: a node comes before what it holds,
and what it holds comes before what follows it. The walk keeps the components it has
still to visit on a stack; `preorder` says the same by recursion over the tree.
-/

namespace Wireframe.Document

mutual

/-- How many components a component consists of, itself included. -/
def Component.count : Component → Nat
  | .form c => 1 + c.fields.length + c.actions.length
  | .container _ _ items => 1 + countAll items
  | _ => 1

/-- How many components a list of components consists of. -/
def countAll : List Component → Nat
  | [] => 0
  | c :: rest => c.count + countAll rest

end

mutual

/-- A component followed by all that it holds. -/
def Component.preorder : Component → List Component
  | .form c => .form c :: (c.fields.map .control ++ c.actions.map .button)
  | .container id layout items => .container id layout items :: preorderAll items
  | leaf => [leaf]

/-- The components of a list, each followed by all that it holds. -/
def preorderAll : List Component → List Component
  | [] => []
  | c :: rest => c.preorder ++ preorderAll rest

end

theorem countAll_append (left right : List Component) :
    countAll (left ++ right) = countAll left + countAll right := by
  induction left with
  | nil => simp [countAll]
  | cons c rest ih => simp [countAll, ih, Nat.add_assoc]

theorem countAll_controls (fields : List Control) :
    countAll (fields.map .control) = fields.length := by
  induction fields with
  | nil => rfl
  | cons c rest ih => simp [countAll, Component.count, ih, Nat.add_comm]

theorem countAll_buttons (actions : List Button) :
    countAll (actions.map .button) = actions.length := by
  induction actions with
  | nil => rfl
  | cons c rest ih => simp [countAll, Component.count, ih, Nat.add_comm]

/-- A component is one component more than what it holds. -/
theorem countAll_children (c : Component) : countAll c.children + 1 = c.count := by
  cases c <;>
    simp [Component.children, Component.count, countAll, countAll_append, countAll_controls,
      countAll_buttons] <;> omega

/-- Visits the components of a stack, the topmost first; what a component holds is put on top of the
stack when the component is visited. -/
def visit : List Component → List Component
  | [] => []
  | c :: stack => c :: visit (c.children ++ stack)
termination_by stack => countAll stack
decreasing_by
  simp only [countAll_append, countAll]
  have := countAll_children c
  omega

end Wireframe.Document

namespace Wireframe

/-- The nodes of a document, its page first. -/
def Document.walk (d : Document) : List Document.Node :=
  .page d.page :: (Document.visit d.page.items).map .component

end Wireframe
