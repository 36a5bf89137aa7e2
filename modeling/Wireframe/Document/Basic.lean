import Wireframe.Document.Vocabulary

/-! # Documents

A document is one page that holds components. Most kinds of component are leaves; a
container holds components of any kind, and a form holds controls, which take a user's
input, and buttons below them. What a form may hold is part of its type.
-/

namespace Wireframe

namespace Document

/-- A choice that a radio group or a select offers. -/
structure Choice where
  label : String
  value : String
deriving DecidableEq, Repr

/-- A heading or a paragraph. -/
structure TextBlock where
  id : Option String
  variant : TextVariant
  value : String
deriving DecidableEq, Repr

/-- A button. -/
structure Button where
  id : Option String
  kind : ButtonKind
  label : String
  submit : Bool
  disabled : Bool
deriving DecidableEq, Repr

/-- A line or a field of text to fill in. -/
structure Input where
  id : Option String
  label : String
  name : String
  type : InputType
  required : Bool
  placeholder : Option String
  disabled : Bool
deriving DecidableEq, Repr

/-- A box to tick. -/
structure Checkbox where
  id : Option String
  label : String
  name : String
  checked : Bool
  disabled : Bool
deriving DecidableEq, Repr

/-- A group of choices of which one is taken. -/
structure Radio where
  id : Option String
  label : String
  name : String
  options : List Choice
  disabled : Bool
deriving DecidableEq, Repr

/-- A list to choose from. -/
structure Select where
  id : Option String
  label : String
  name : String
  options : List Choice
  placeholder : Option String
  multiple : Bool
  disabled : Bool
deriving DecidableEq, Repr

/-- A line between components. -/
structure Divider where
  id : Option String
  orientation : Orientation
deriving DecidableEq, Repr

/-- A message that stands out. -/
structure Alert where
  id : Option String
  variant : Severity
  message : String
  title : Option String
deriving DecidableEq, Repr

/-- A component that takes a user's input. -/
inductive Control where
  | input (c : Input)
  | checkbox (c : Checkbox)
  | radio (c : Radio)
  | select (c : Select)
deriving DecidableEq, Repr

/-- Controls with the buttons below them. A form has an id in any case. -/
structure Form where
  id : String
  fields : List Control
  actions : List Button
deriving DecidableEq, Repr

/-- A component of a page. -/
inductive Component where
  | text (c : TextBlock)
  | button (c : Button)
  | control (c : Control)
  | divider (c : Divider)
  | alert (c : Alert)
  | form (c : Form)
  | container (id : Option String) (layout : Layout) (items : List Component)

/-- The page of a document. -/
structure Page where
  id : Option String
  title : Option String
  layout : Layout
  items : List Component

/-- A node of a document: its page or a component. -/
inductive Node where
  | page (p : Page)
  | component (c : Component)

namespace Control

/-- The kind of a control. -/
def kind : Control → Kind
  | input _ => .input
  | checkbox _ => .checkbox
  | radio _ => .radio
  | select _ => .select

/-- The id of a control. -/
def id? : Control → Option String
  | input c => c.id
  | checkbox c => c.id
  | radio c => c.id
  | select c => c.id

/-- The word for a control's variant; only an input has one. -/
def variant? : Control → Option String
  | input c => some (Named.name c.type)
  | _ => none

end Control

namespace Component

/-- The kind of a component. -/
def kind : Component → Kind
  | text _ => .text
  | button _ => .button
  | control c => c.kind
  | divider _ => .divider
  | alert _ => .alert
  | form _ => .form
  | container .. => .container

/-- The id of a component. -/
def id? : Component → Option String
  | text c => c.id
  | button c => c.id
  | control c => c.id?
  | divider c => c.id
  | alert c => c.id
  | form c => some c.id
  | container id _ _ => id

/-- The word for a component's variant, if its kind has variants. -/
def variant? : Component → Option String
  | text c => some (Named.name c.variant)
  | button c => some (Named.name c.kind)
  | control c => c.variant?
  | divider c => some (Named.name c.orientation)
  | alert c => some (Named.name c.variant)
  | form _ => none
  | container _ layout _ => some (Named.name layout)

/-- The components that a component holds, in order. A form's fields come before its actions. -/
def children : Component → List Component
  | form c => c.fields.map control ++ c.actions.map button
  | container _ _ items => items
  | _ => []

/-- Whether a component is of a kind that holds others. -/
def isContainer : Component → Bool
  | form _ | container .. => true
  | _ => false

end Component

namespace Node

/-- The kind of a node. -/
def kind : Node → Kind
  | page _ => .page
  | component c => c.kind

/-- The id of a node. -/
def id? : Node → Option String
  | page p => p.id
  | component c => c.id?

/-- The word for a node's variant, if its kind has variants. -/
def variant? : Node → Option String
  | page p => some (Named.name p.layout)
  | component c => c.variant?

/-- The components that a node holds, in order. -/
def children : Node → List Component
  | page p => p.items
  | component c => c.children

/-- Whether a node is of a kind that holds others. -/
def isContainer : Node → Bool
  | page _ => true
  | component c => c.isContainer

end Node

end Document

/-- A document: its page, with all that the page holds. -/
structure Document where
  page : Document.Page

end Wireframe
