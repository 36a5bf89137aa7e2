import Wireframe.Document.Basic
import Wireframe.Markup.Basic
import Wireframe.Theme.Css

/-! # Templates

The tree of elements that shows a component, one element for each component with line
breaks between the elements it holds. Components carry a class for their kind, and one
for their variant if they have one. The id of a component stands on its element, except
that the controls in a labelled wrapper carry it themselves, so that the label finds
them; a control without an id goes by its name there.
-/

namespace Wireframe.Render

open Document

/-- The classes of a kind and its variant. -/
def classes (kind : Kind) (variant : Option String) : List String :=
  ("textui-" ++ Text.lower kind.name) ::
    (variant.map (Theme.componentClass kind.name)).toList

/-- The attribute of a component's classes. -/
def classAttribute (kind : Kind) (variant : Option String) : Attribute :=
  ("class", some (" ".intercalate (classes kind variant)))

/-- The attribute of an id, unless it is empty. -/
def idAttribute (id : Option String) : List Attribute :=
  match id.filter (· != "") with
  | some id => [("id", some id)]
  | none => []

/-- An attribute without a value, if a condition holds. -/
def flag (name : String) (holds : Bool) : List Attribute := if holds then [(name, none)] else []

/-- An attribute with a value, unless the value is absent or empty. -/
def optionalAttribute (name : String) (value : Option String) : List Attribute :=
  match value.filter (· != "") with
  | some v => [(name, some v)]
  | none => []

/-- The id of a labelled control. -/
def fieldId (id : Option String) (name : String) : String :=
  (id.filter (· != "")).getD ("textui-" ++ name)

/-- A line break between elements. -/
def lineBreak : Markup := .text "\n"

/-- An element that holds one text. -/
def textElement (tag : String) (attributes : List Attribute) (text : String) : Markup :=
  .element tag attributes [.text text]

/-- Elements, each on a line of its own. -/
def inLines (elements : List Markup) : List Markup := elements.flatMap fun e => [e, lineBreak]

/-- The tag of a text. -/
def textTag : TextVariant → String
  | .h1 => "h1"
  | .h2 => "h2"
  | .h3 => "h3"
  | .p => "p"
  | .small => "small"
  | .caption => "span"

/-- The element of a text. -/
def textBlock (c : TextBlock) : Markup :=
  textElement (textTag c.variant)
    (classAttribute .text (some (Named.name c.variant)) :: idAttribute c.id) c.value

/-- The element of a button. -/
def button (c : Button) : Markup :=
  textElement "button"
    (("type", some (if c.submit || c.kind == .submit then "submit" else "button")) ::
      classAttribute .button (some (Named.name c.kind)) ::
        (idAttribute c.id ++ flag "disabled" c.disabled))
    c.label

/-- The mark behind the label of an input that has to be filled in. -/
def requiredMark (required : Bool) : List Markup :=
  if required then
    [.text " ",
      textElement "span" [("class", some "textui-required"), ("aria-hidden", some "true")] "*"]
  else []

/-- The attributes that a field of one line and a field of several lines share. -/
def inputState (c : Input) : List Attribute :=
  [("id", some (fieldId c.id c.name)), ("name", some c.name)] ++
    optionalAttribute "placeholder" c.placeholder ++ flag "required" c.required ++
    flag "disabled" c.disabled

/-- The field in an input. -/
def inputField (c : Input) : Markup :=
  match c.type with
  | .multiline => .element "textarea" (("class", some "textui-control") :: inputState c) []
  | type =>
    .element "input"
      (("class", some "textui-control") :: ("type", some (Named.name type)) :: inputState c) []

/-- The element of an input. -/
def input (c : Input) : Markup :=
  .element "div" [classAttribute .input (some (Named.name c.type))]
    (lineBreak ::
      inLines
        [.element "label" [("for", some (fieldId c.id c.name))]
            (.text c.label :: requiredMark c.required),
          inputField c])

/-- The element of a checkbox. -/
def checkbox (c : Checkbox) : Markup :=
  .element "div" [classAttribute .checkbox none]
    (lineBreak ::
      inLines
        [.element "label" [("for", some (fieldId c.id c.name))]
          [.element "input"
              ([("type", some "checkbox"), ("id", some (fieldId c.id c.name)),
                  ("name", some c.name)] ++
                flag "checked" c.checked ++ flag "disabled" c.disabled) [],
            .text " ", .text c.label]])

/-- The element of a choice in a radio group. -/
def radioChoice (name : String) (choice : Choice) : Markup :=
  .element "label" []
    [.element "input"
        [("type", some "radio"), ("name", some name), ("value", some choice.value)] [],
      .text " ", .text choice.label]

/-- The element of a radio group. -/
def radio (c : Radio) : Markup :=
  .element "fieldset"
    (classAttribute .radio none :: (idAttribute c.id ++ flag "disabled" c.disabled))
    (lineBreak ::
      inLines (textElement "legend" [] c.label :: c.options.map (radioChoice c.name)))

/-- The element of a choice in a select. -/
def selectChoice (choice : Choice) : Markup :=
  textElement "option" [("value", some choice.value)] choice.label

/-- The choice that shows the placeholder of a select. It is chosen at first and cannot be chosen
again. -/
def placeholderChoice (placeholder : Option String) : List Markup :=
  match placeholder.filter (· != "") with
  | some text =>
    [textElement "option" [("value", some ""), ("disabled", none), ("selected", none)] text]
  | none => []

/-- The element of a select. -/
def select (c : Select) : Markup :=
  .element "div" [classAttribute .select none]
    (lineBreak ::
      inLines
        [textElement "label" [("for", some (fieldId c.id c.name))] c.label,
          .element "select"
            ([("class", some "textui-control"), ("id", some (fieldId c.id c.name)),
                ("name", some c.name)] ++
              flag "multiple" c.multiple ++ flag "disabled" c.disabled)
            (lineBreak ::
              inLines (placeholderChoice c.placeholder ++ c.options.map selectChoice))])

/-- The element of a divider. -/
def divider (c : Divider) : Markup :=
  .element "hr"
    (classAttribute .divider (some (Named.name c.orientation)) ::
      (idAttribute c.id ++ [("aria-orientation", some (Named.name c.orientation))])) []

/-- The title of an alert, unless it is empty. -/
def alertTitle (title : Option String) : List Markup :=
  match title.filter (· != "") with
  | some text => [textElement "strong" [] text]
  | none => []

/-- The element of an alert. -/
def alert (c : Alert) : Markup :=
  .element "div"
    (classAttribute .alert (some (Named.name c.variant)) ::
      (idAttribute c.id ++ [("role", some "alert")]))
    (lineBreak :: inLines (alertTitle c.title ++ [textElement "p" [] c.message]))

/-- The element of a control. -/
def control : Control → Markup
  | .input c => input c
  | .checkbox c => checkbox c
  | .radio c => radio c
  | .select c => select c

/-- Elements on lines of their own, with a line break before the first and after the last; without
elements, the two line breaks alone. -/
def block (elements : List Markup) : List Markup :=
  lineBreak :: (elements.intersperse lineBreak ++ [lineBreak])

/-- The element of a form: its fields in one group and its actions in another. -/
def form (c : Form) : Markup :=
  .element "form" (classAttribute .form none :: idAttribute (some c.id))
    (lineBreak ::
      inLines
        [.element "div" [("class", some "textui-form-fields")] (block (c.fields.map control)),
          .element "div" [("class", some "textui-form-actions")] (block (c.actions.map button))])

mutual

/-- The element of a component. -/
def component : Component → Markup
  | .text c => textBlock c
  | .button c => button c
  | .control c => control c
  | .divider c => divider c
  | .alert c => alert c
  | .form c => form c
  | .container id layout items =>
    .element "div" (classAttribute .container (some (Named.name layout)) :: idAttribute id)
      (block (components items))

/-- The elements of the components in a list. -/
def components : List Component → List Markup
  | [] => []
  | c :: rest => component c :: components rest

end

/-- The element of a page. -/
def page (p : Page) : Markup :=
  .element "div" (classAttribute .page (some (Named.name p.layout)) :: idAttribute p.id)
    (block (components p.items))

end Wireframe.Render
