import Wireframe.Named

/-! # Words of a document

The finite sets from which a document chooses: the kinds of component, and the values of
the fields that admit a few words only. Each member has a name, by which sources write
it, and each set lists its members in the order in which messages show them.
-/

namespace Wireframe.Document

/-- The kinds of node in a document. -/
inductive Kind where
  | page | text | button | input | checkbox | radio | select | divider | alert | container | form
deriving DecidableEq, Repr

/-- The name of a kind, as sources write it. -/
def Kind.name : Kind → String
  | page => "Page"
  | text => "Text"
  | button => "Button"
  | input => "Input"
  | checkbox => "Checkbox"
  | radio => "Radio"
  | select => "Select"
  | divider => "Divider"
  | alert => "Alert"
  | container => "Container"
  | form => "Form"

/-- The kinds that can stand in a list of components; a page stands alone. -/
def Kind.components : List Kind :=
  [.text, .button, .input, .checkbox, .radio, .select, .divider, .alert, .container, .form]

/-- The role of a text in the typography of a page. -/
inductive TextVariant where
  | h1 | h2 | h3 | p | small | caption
deriving DecidableEq, Repr

instance : Named TextVariant where
  all := [.h1, .h2, .h3, .p, .small, .caption]
  name
    | .h1 => "h1"
    | .h2 => "h2"
    | .h3 => "h3"
    | .p => "p"
    | .small => "small"
    | .caption => "caption"

/-- The looks of a button. -/
inductive ButtonKind where
  | primary | secondary | submit
deriving DecidableEq, Repr

instance : Named ButtonKind where
  all := [.primary, .secondary, .submit]
  name
    | .primary => "primary"
    | .secondary => "secondary"
    | .submit => "submit"

/-- What an input takes. -/
inductive InputType where
  | text | email | password | number | multiline
deriving DecidableEq, Repr

instance : Named InputType where
  all := [.text, .email, .password, .number, .multiline]
  name
    | .text => "text"
    | .email => "email"
    | .password => "password"
    | .number => "number"
    | .multiline => "multiline"

/-- The severity of an alert. -/
inductive Severity where
  | info | success | warning | error
deriving DecidableEq, Repr

instance : Named Severity where
  all := [.info, .success, .warning, .error]
  name
    | .info => "info"
    | .success => "success"
    | .warning => "warning"
    | .error => "error"

/-- The direction in which a divider runs. -/
inductive Orientation where
  | horizontal | vertical
deriving DecidableEq, Repr

instance : Named Orientation where
  all := [.horizontal, .vertical]
  name
    | .horizontal => "horizontal"
    | .vertical => "vertical"

/-- How a container arranges what it holds. -/
inductive Layout where
  | vertical | horizontal | flex | grid
deriving DecidableEq, Repr

instance : Named Layout where
  all := [.vertical, .horizontal, .flex, .grid]
  name
    | .vertical => "vertical"
    | .horizontal => "horizontal"
    | .flex => "flex"
    | .grid => "grid"

end Wireframe.Document
