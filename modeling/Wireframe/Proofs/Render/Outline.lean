import Mathlib.Data.List.Forall2
import Wireframe.Proofs.Markup.Contents
import Wireframe.Render.Fragment

/-! # What a document shows

The outline of a document is the tree of its elements without any layout: one root element
for each node, the children of a node in the order of the document, the fields of a form
before its actions, and every string of the document as it stands there.

Reading the markup of a rendered document gives its outline, less the runs of text that
are blank (`Wireframe.Render.read_page`). The strings of the document may hold any
characters: none of them adds, ends, renames or moves an element or an attribute.
-/

namespace Wireframe.Render

open Document

/-! ## Outlines -/

namespace Outline

/-- What a text shows. -/
def textBlock (c : TextBlock) : Markup :=
  .element (textTag c.variant)
    (classAttribute .text (some (Named.name c.variant)) :: idAttribute c.id) [.text c.value]

/-- What a button shows. -/
def button (c : Button) : Markup :=
  .element "button"
    (("type", some (if c.submit || c.kind == .submit then "submit" else "button")) ::
      classAttribute .button (some (Named.name c.kind)) ::
        (idAttribute c.id ++ flag "disabled" c.disabled))
    [.text c.label]

/-- What a divider shows. -/
def divider (c : Divider) : Markup :=
  .element "hr"
    (classAttribute .divider (some (Named.name c.orientation)) ::
      (idAttribute c.id ++ [("aria-orientation", some (Named.name c.orientation))])) []

/-- What the field of an input shows: several lines, or one line of a type. -/
def inputField (c : Input) : Markup :=
  match c.type with
  | .multiline => .element "textarea" (("class", some "textui-control") :: inputState c) []
  | type =>
    .element "input"
      (("class", some "textui-control") :: ("type", some (Named.name type)) :: inputState c) []

/-- What a labelled control shows: a label that names the control, and the control. -/
def input (c : Input) : Markup :=
  .element "div" [classAttribute .input (some (Named.name c.type))]
    [.element "label" [("for", some (fieldId c.id c.name))]
        (if c.required then
          [.text (c.label ++ " "),
            .element "span" [("class", some "textui-required"), ("aria-hidden", some "true")]
              [.text "*"]]
        else [.text c.label]),
      inputField c]

/-- What a checkbox shows: a label around the box. -/
def checkbox (c : Checkbox) : Markup :=
  .element "div" [classAttribute .checkbox none]
    [.element "label" [("for", some (fieldId c.id c.name))]
      [.element "input"
          ([("type", some "checkbox"), ("id", some (fieldId c.id c.name)), ("name", some c.name)] ++
            flag "checked" c.checked ++ flag "disabled" c.disabled) [],
        .text (" " ++ c.label)]]

/-- What a choice of a radio group shows. -/
def radioChoice (name : String) (choice : Choice) : Markup :=
  .element "label" []
    [.element "input"
        [("type", some "radio"), ("name", some name), ("value", some choice.value)] [],
      .text (" " ++ choice.label)]

/-- What a radio group shows: its legend, and its choices in order. -/
def radio (c : Radio) : Markup :=
  .element "fieldset"
    (classAttribute .radio none :: (idAttribute c.id ++ flag "disabled" c.disabled))
    (.element "legend" [] [.text c.label] :: c.options.map (radioChoice c.name))

/-- What a choice of a select shows. -/
def selectChoice (choice : Choice) : Markup :=
  .element "option" [("value", some choice.value)] [.text choice.label]

/-- What a placeholder shows, if there is one: a choice without a value. -/
def placeholderChoice (placeholder : Option String) : List Markup :=
  match placeholder.filter (· != "") with
  | some text =>
    [.element "option" [("value", some ""), ("disabled", none), ("selected", none)] [.text text]]
  | none => []

/-- What a select shows: its label, and its choices in order behind the placeholder. -/
def select (c : Select) : Markup :=
  .element "div" [classAttribute .select none]
    [.element "label" [("for", some (fieldId c.id c.name))] [.text c.label],
      .element "select"
        ([("class", some "textui-control"), ("id", some (fieldId c.id c.name)),
            ("name", some c.name)] ++
          flag "multiple" c.multiple ++ flag "disabled" c.disabled)
        (placeholderChoice c.placeholder ++ c.options.map selectChoice)]

/-- What the title of an alert shows, if it has one. -/
def alertTitle (title : Option String) : List Markup :=
  match title.filter (· != "") with
  | some text => [.element "strong" [] [.text text]]
  | none => []

/-- What an alert shows: its title if it has one, and its message. -/
def alert (c : Alert) : Markup :=
  .element "div"
    (classAttribute .alert (some (Named.name c.variant)) ::
      (idAttribute c.id ++ [("role", some "alert")]))
    (alertTitle c.title ++ [.element "p" [] [.text c.message]])

/-- What a control shows. -/
def control : Control → Markup
  | .input c => input c
  | .checkbox c => checkbox c
  | .radio c => radio c
  | .select c => select c

/-- What a form shows: its fields in one group, and its actions in another behind it. -/
def form (c : Form) : Markup :=
  .element "form" (classAttribute .form none :: idAttribute (some c.id))
    [.element "div" [("class", some "textui-form-fields")] (c.fields.map control),
      .element "div" [("class", some "textui-form-actions")] (c.actions.map button)]

mutual

/-- What a component shows. -/
def component : Component → Markup
  | .text c => textBlock c
  | .button c => button c
  | .control c => control c
  | .divider c => divider c
  | .alert c => alert c
  | .form c => form c
  | .container id layout items =>
    .element "div" (classAttribute .container (some (Named.name layout)) :: idAttribute id)
      (components items)

/-- What the components of a list show, in order. -/
def components : List Component → List Markup
  | [] => []
  | c :: rest => component c :: components rest

end

/-- What a page shows. -/
def page (p : Page) : Markup :=
  .element "div" (classAttribute .page (some (Named.name p.layout)) :: idAttribute p.id)
    (components p.items)

end Outline

end Wireframe.Render

namespace Wireframe.Markup

/-- Trees without the runs of text in them that are blank. -/
@[simp] def dropBlanks : List Markup → List Markup
  | [] => []
  | .text s :: rest => run s ++ dropBlanks rest
  | .element tag attributes children :: rest =>
    .element tag attributes (dropBlanks children) :: dropBlanks rest

end Wireframe.Markup

namespace Wireframe.Render

open Document

/-! ## Layout shows nothing -/

/-- An element with layout in it and an element without, which read the same. -/
def Shows (m outline : Markup) : Prop :=
  ∃ tag attributes children shown, m = .element tag attributes children ∧
    outline = .element tag attributes shown ∧ Markup.contents children = Markup.dropBlanks shown

/-- Elements on lines of their own read as the elements alone. -/
theorem contentsFrom_inLines {elements outlines : List Markup}
    (shows : List.Forall₂ Shows elements outlines) : ∀ (pending : String),
      Markup.run pending = [] →
        Markup.contentsFrom pending (inLines elements) = Markup.dropBlanks outlines := by
  induction shows with
  | nil =>
      intro pending blank
      simpa [inLines, Markup.contentsFrom, Markup.dropBlanks] using blank
  | cons first _ ih =>
      intro pending blank
      obtain ⟨tag, attributes, children, shown, rfl, rfl, same⟩ := first
      have behind := ih "\n" rfl
      simp only [inLines, List.flatMap_cons, List.cons_append, List.nil_append, lineBreak,
        Markup.contentsFrom, blank, Markup.dropBlanks] at behind ⊢
      rw [← same]
      exact congrArg _ behind

/-- Elements with line breaks around them read as the elements alone. -/
theorem contents_lineBreak {elements outlines : List Markup}
    (shows : List.Forall₂ Shows elements outlines) :
    Markup.contents (lineBreak :: inLines elements) = Markup.dropBlanks outlines := by
  rw [Markup.contents, lineBreak, Markup.contentsFrom]
  exact contentsFrom_inLines shows "\n" rfl

/-- A block is a line break, its elements on lines of their own, and a line break more where there
are no elements. -/
theorem block_eq (elements : List Markup) :
    block elements =
      lineBreak :: (inLines elements ++ if elements = [] then [lineBreak] else []) := by
  unfold block
  congr 1
  induction elements with
  | nil => rfl
  | cons e elements ih =>
      cases elements with
      | nil => rfl
      | cons next elements =>
          simp only [List.intersperse_cons_cons, List.cons_append, ih, inLines, List.flatMap_cons,
            List.nil_append, reduceCtorEq, ↓reduceIte]

theorem contents_block {elements outlines : List Markup}
    (shows : List.Forall₂ Shows elements outlines) :
    Markup.contents (block elements) = Markup.dropBlanks outlines := by
  rw [block_eq]
  split_ifs with empty
  · subst empty
    cases shows
    simp [inLines, lineBreak, Markup.contents, Markup.contentsFrom, Markup.dropBlanks,
      Markup.run, Text.allBlank, Text.isBlank, Text.isWhiteSpace]
  · rw [List.append_nil]
    exact contents_lineBreak shows

/-- An element that holds texts and elements without layout between them shows itself. -/
theorem shows_of_contents {tag : String} {attributes : List Attribute}
    {children shown : List Markup}
    (same : Markup.contents children = Markup.dropBlanks shown) :
    Shows (.element tag attributes children) (.element tag attributes shown) :=
  ⟨tag, attributes, children, shown, rfl, rfl, same⟩

theorem shows_textElement (tag : String) (attributes : List Attribute) (text : String) :
    Shows (textElement tag attributes text) (textElement tag attributes text) :=
  shows_of_contents (by simp [Markup.contents, Markup.contentsFrom, Markup.dropBlanks])

theorem shows_inputField (c : Input) : Shows (inputField c) (Outline.inputField c) := by
  change Shows (inputField c) (inputField c)
  unfold inputField
  split <;>
    exact shows_of_contents (by simp [Markup.contents, Markup.contentsFrom, Markup.dropBlanks])

theorem shows_input (c : Input) : Shows (input c) (Outline.input c) := by
  apply shows_of_contents
  apply contents_lineBreak
  refine .cons ?_ (.cons (shows_inputField c) .nil)
  apply shows_of_contents
  cases c.required <;>
    simp [requiredMark, textElement, Markup.contents, Markup.contentsFrom, Markup.dropBlanks]

theorem shows_checkbox (c : Checkbox) : Shows (checkbox c) (Outline.checkbox c) := by
  apply shows_of_contents
  apply contents_lineBreak
  refine .cons (shows_of_contents ?_) .nil
  simp [Markup.contents, Markup.contentsFrom, Markup.dropBlanks]

theorem shows_radioChoice (name : String) (choice : Choice) :
    Shows (radioChoice name choice) (Outline.radioChoice name choice) :=
  shows_of_contents (by simp [Markup.contents, Markup.contentsFrom, Markup.dropBlanks])

theorem shows_radio (c : Radio) : Shows (radio c) (Outline.radio c) := by
  apply shows_of_contents
  apply contents_lineBreak
  refine .cons (shows_textElement "legend" [] c.label) ?_
  rw [List.forall₂_map_left_iff, List.forall₂_map_right_iff, List.forall₂_same]
  intro choice _
  exact shows_radioChoice c.name choice

theorem shows_placeholderChoice (placeholder : Option String) :
    List.Forall₂ Shows (placeholderChoice placeholder) (Outline.placeholderChoice placeholder) := by
  unfold placeholderChoice Outline.placeholderChoice
  cases placeholder.filter (· != "") with
  | some text => exact .cons (shows_textElement _ _ _) .nil
  | none => exact .nil

theorem shows_select (c : Select) : Shows (select c) (Outline.select c) := by
  have choices : List.Forall₂ Shows (placeholderChoice c.placeholder ++ c.options.map selectChoice)
      (Outline.placeholderChoice c.placeholder ++ c.options.map Outline.selectChoice) := by
    refine List.rel_append (shows_placeholderChoice c.placeholder) ?_
    rw [List.forall₂_map_left_iff, List.forall₂_map_right_iff, List.forall₂_same]
    exact fun choice _ => shows_textElement _ _ _
  apply shows_of_contents
  apply contents_lineBreak
  refine .cons (shows_textElement _ _ _) (.cons ?_ .nil)
  exact shows_of_contents (contents_lineBreak choices)

theorem shows_alert (c : Alert) : Shows (alert c) (Outline.alert c) := by
  have parts : List.Forall₂ Shows (alertTitle c.title ++ [textElement "p" [] c.message])
      (Outline.alertTitle c.title ++ [.element "p" [] [.text c.message]]) := by
    apply List.rel_append
    · unfold alertTitle Outline.alertTitle
      cases c.title.filter (· != "") with
      | some text => exact .cons (shows_textElement _ _ _) .nil
      | none => exact .nil
    · exact .cons (shows_textElement _ _ _) .nil
  exact shows_of_contents (contents_lineBreak parts)

theorem shows_control (c : Control) : Shows (control c) (Outline.control c) := by
  cases c with
  | input c => exact shows_input c
  | checkbox c => exact shows_checkbox c
  | radio c => exact shows_radio c
  | select c => exact shows_select c

theorem shows_form (c : Form) : Shows (form c) (Outline.form c) := by
  have fields : List.Forall₂ Shows (c.fields.map control) (c.fields.map Outline.control) := by
    rw [List.forall₂_map_left_iff, List.forall₂_map_right_iff, List.forall₂_same]
    exact fun field _ => shows_control field
  have actions : List.Forall₂ Shows (c.actions.map button) (c.actions.map Outline.button) := by
    rw [List.forall₂_map_left_iff, List.forall₂_map_right_iff, List.forall₂_same]
    exact fun action _ => shows_textElement _ _ _
  apply shows_of_contents
  apply contents_lineBreak
  exact .cons (shows_of_contents (contents_block fields))
    (.cons (shows_of_contents (contents_block actions)) .nil)

mutual

/-- The element of a component reads as its outline, at any depth. -/
theorem shows_component (c : Component) : Shows (component c) (Outline.component c) := by
  cases c with
  | text c => exact shows_textElement _ _ _
  | button c => exact shows_textElement _ _ _
  | control c => exact shows_control c
  | divider c =>
      exact shows_of_contents (by simp [Markup.contents, Markup.contentsFrom, Markup.dropBlanks])
  | alert c => exact shows_alert c
  | form c => exact shows_form c
  | container id layout items => exact shows_of_contents (contents_block (shows_components items))

theorem shows_components (cs : List Component) :
    List.Forall₂ Shows (components cs) (Outline.components cs) := by
  cases cs with
  | nil => exact .nil
  | cons c rest => exact .cons (shows_component c) (shows_components rest)

end

theorem shows_page (p : Page) : Shows (page p) (Outline.page p) :=
  shows_of_contents (contents_block (shows_components p.items))

/-! ## Templates are well-formed -/

theorem isName_idAttribute (id : Option String) : ∀ a ∈ idAttribute id, Markup.IsName a.1 := by
  unfold idAttribute
  split <;> simp
  decide

theorem isName_flag {name : String} (valid : Markup.IsName name) (holds : Bool) :
    ∀ a ∈ flag name holds, Markup.IsName a.1 := by
  cases holds <;> simp [flag, valid]

theorem isName_optionalAttribute {name : String} (valid : Markup.IsName name)
    (value : Option String) : ∀ a ∈ optionalAttribute name value, Markup.IsName a.1 := by
  unfold optionalAttribute
  split <;> simp [valid]

/-- An element with content is well-formed if its names are valid and all that it holds is
well-formed. -/
theorem wellFormed_element {tag : String} {attributes : List Attribute} {children : List Markup}
    (sound : Markup.IsName tag ∧ Markup.rawElements.contains tag = false ∧
      Markup.isVoid tag = false)
    (names : ∀ a ∈ attributes, Markup.IsName a.1) (held : ∀ m ∈ children, m.WellFormed) :
    (Markup.element tag attributes children).WellFormed :=
  ⟨sound.1, sound.2.1, names, by simp [sound.2.2], Markup.allWellFormed_iff.mpr held⟩

/-- An element without content is well-formed if its names are valid. -/
theorem wellFormed_empty {tag : String} {attributes : List Attribute}
    (sound : Markup.IsName tag ∧ Markup.rawElements.contains tag = false)
    (names : ∀ a ∈ attributes, Markup.IsName a.1) :
    (Markup.element tag attributes []).WellFormed :=
  ⟨sound.1, sound.2, names, fun _ => rfl, trivial⟩

theorem wellFormed_textElement {tag : String} {attributes : List Attribute} (text : String)
    (sound : Markup.IsName tag ∧ Markup.rawElements.contains tag = false ∧
      Markup.isVoid tag = false)
    (names : ∀ a ∈ attributes, Markup.IsName a.1) :
    (textElement tag attributes text).WellFormed :=
  wellFormed_element sound names (by simp [Markup.WellFormed])

theorem wellFormed_inLines {elements : List Markup} (held : ∀ m ∈ elements, m.WellFormed) :
    ∀ m ∈ lineBreak :: inLines elements, m.WellFormed := by
  intro m member
  rcases List.mem_cons.mp member with rfl | member
  · trivial
  obtain ⟨e, inside, same⟩ := List.mem_flatMap.mp member
  rcases List.mem_pair.mp same with rfl | rfl
  · exact held m inside
  · trivial

theorem wellFormed_block {elements : List Markup} (held : ∀ m ∈ elements, m.WellFormed) :
    ∀ m ∈ block elements, m.WellFormed := by
  rw [block_eq, ← List.cons_append]
  intro m member
  rcases List.mem_append.mp member with member | member
  · exact wellFormed_inLines held m member
  · split_ifs at member
    · obtain rfl := List.mem_singleton.mp member
      trivial
    · cases member

theorem wellFormed_textBlock (c : TextBlock) : (textBlock c).WellFormed := by
  apply wellFormed_textElement
  · cases c.variant <;> decide
  · simp only [classAttribute, List.forall_mem_cons]
    exact ⟨by decide, isName_idAttribute c.id⟩

theorem wellFormed_button (c : Button) : (button c).WellFormed := by
  apply wellFormed_textElement _ (by decide)
  simp only [classAttribute, List.forall_mem_cons, List.forall_mem_append]
  exact ⟨by decide, by decide, isName_idAttribute c.id, isName_flag (by decide) _⟩

theorem wellFormed_inputField (c : Input) : (inputField c).WellFormed := by
  have state : ∀ a ∈ inputState c, Markup.IsName a.1 := by
    simp only [inputState, List.forall_mem_cons, List.forall_mem_append, List.not_mem_nil,
      false_imp_iff, implies_true, and_true]
    exact ⟨⟨⟨⟨by decide, by decide⟩, isName_optionalAttribute (by decide) _⟩,
      isName_flag (by decide) _⟩, isName_flag (by decide) _⟩
  unfold inputField
  split
  · apply wellFormed_empty (by decide)
    simp only [List.forall_mem_cons]
    exact ⟨by decide, state⟩
  · apply wellFormed_empty (by decide)
    simp only [List.forall_mem_cons]
    exact ⟨by decide, by decide, state⟩

theorem wellFormed_input (c : Input) : (input c).WellFormed := by
  apply wellFormed_element (by decide) (by simp [classAttribute]; decide)
  apply wellFormed_inLines
  simp only [List.forall_mem_cons, List.not_mem_nil, false_imp_iff, implies_true, and_true]
  refine ⟨?_, wellFormed_inputField c⟩
  apply wellFormed_element (by decide) (by simp; decide)
  cases c.required
  · simp [requiredMark, Markup.WellFormed]
  · have mark : (textElement "span"
        [("class", some "textui-required"), ("aria-hidden", some "true")] "*").WellFormed :=
      wellFormed_textElement _ (by decide) (by simp; decide)
    simp [requiredMark, Markup.WellFormed, mark]

theorem wellFormed_checkbox (c : Checkbox) : (checkbox c).WellFormed := by
  have box : (Markup.element "input"
      ([("type", some "checkbox"), ("id", some (fieldId c.id c.name)), ("name", some c.name)] ++
        flag "checked" c.checked ++ flag "disabled" c.disabled) []).WellFormed := by
    apply wellFormed_empty (by decide)
    simp only [List.forall_mem_cons, List.forall_mem_append, List.not_mem_nil, false_imp_iff,
      implies_true, and_true]
    exact ⟨⟨⟨by decide, by decide, by decide⟩, isName_flag (by decide) _⟩,
      isName_flag (by decide) _⟩
  apply wellFormed_element (by decide) (by simp [classAttribute]; decide)
  apply wellFormed_inLines
  simp only [List.forall_mem_cons, List.not_mem_nil, false_imp_iff, implies_true, and_true]
  apply wellFormed_element (by decide) (by simp; decide)
  simp only [List.forall_mem_cons, List.not_mem_nil, false_imp_iff, implies_true, and_true]
  exact ⟨box, trivial, trivial⟩

theorem wellFormed_radio (c : Radio) : (radio c).WellFormed := by
  apply wellFormed_element (by decide)
  · simp only [classAttribute, List.forall_mem_cons, List.forall_mem_append]
    exact ⟨by decide, isName_idAttribute c.id, isName_flag (by decide) _⟩
  apply wellFormed_inLines
  simp only [List.forall_mem_cons, List.forall_mem_map]
  refine ⟨wellFormed_textElement _ (by decide) (by simp), ?_⟩
  intro choice _
  apply wellFormed_element (by decide) (by simp)
  simp only [List.forall_mem_cons, List.not_mem_nil, false_imp_iff, implies_true, and_true]
  exact ⟨wellFormed_empty (by decide) (by simp; decide), trivial, trivial⟩

theorem wellFormed_select (c : Select) : (select c).WellFormed := by
  apply wellFormed_element (by decide) (by simp [classAttribute]; decide)
  apply wellFormed_inLines
  simp only [List.forall_mem_cons, List.not_mem_nil, false_imp_iff, implies_true, and_true]
  refine ⟨wellFormed_textElement _ (by decide) (by simp; decide), ?_⟩
  apply wellFormed_element (by decide)
  · simp only [List.forall_mem_cons, List.forall_mem_append, List.not_mem_nil, false_imp_iff,
      implies_true, and_true]
    exact ⟨⟨⟨by decide, by decide, by decide⟩, isName_flag (by decide) _⟩,
      isName_flag (by decide) _⟩
  apply wellFormed_inLines
  simp only [List.forall_mem_append, List.forall_mem_map]
  constructor
  · unfold placeholderChoice
    split
    · simp only [List.forall_mem_cons, List.not_mem_nil, false_imp_iff, implies_true, and_true]
      exact wellFormed_textElement _ (by decide) (by simp; decide)
    · simp
  · exact fun choice _ => wellFormed_textElement _ (by decide) (by simp; decide)

theorem wellFormed_divider (c : Divider) : (divider c).WellFormed := by
  apply wellFormed_empty (by decide)
  simp only [classAttribute, List.forall_mem_cons, List.forall_mem_append, List.not_mem_nil,
    false_imp_iff, implies_true, and_true]
  exact ⟨by decide, isName_idAttribute c.id, by decide⟩

theorem wellFormed_alert (c : Alert) : (alert c).WellFormed := by
  apply wellFormed_element (by decide)
  · simp only [classAttribute, List.forall_mem_cons, List.forall_mem_append, List.not_mem_nil,
      false_imp_iff, implies_true, and_true]
    exact ⟨by decide, isName_idAttribute c.id, by decide⟩
  apply wellFormed_inLines
  simp only [List.forall_mem_append, List.forall_mem_cons, List.not_mem_nil, false_imp_iff,
    implies_true, and_true]
  refine ⟨?_, wellFormed_textElement _ (by decide) (by simp)⟩
  unfold alertTitle
  split
  · simp only [List.forall_mem_cons, List.not_mem_nil, false_imp_iff, implies_true, and_true]
    exact wellFormed_textElement _ (by decide) (by simp)
  · simp

theorem wellFormed_control (c : Control) : (control c).WellFormed := by
  cases c with
  | input c => exact wellFormed_input c
  | checkbox c => exact wellFormed_checkbox c
  | radio c => exact wellFormed_radio c
  | select c => exact wellFormed_select c

theorem wellFormed_form (c : Form) : (form c).WellFormed := by
  apply wellFormed_element (by decide)
  · simp only [classAttribute, List.forall_mem_cons]
    exact ⟨by decide, isName_idAttribute _⟩
  apply wellFormed_inLines
  simp only [List.forall_mem_cons, List.not_mem_nil, false_imp_iff, implies_true, and_true]
  constructor
  · apply wellFormed_element (by decide) (by simp; decide)
    apply wellFormed_block
    simp only [List.forall_mem_map]
    exact fun field _ => wellFormed_control field
  · apply wellFormed_element (by decide) (by simp; decide)
    apply wellFormed_block
    simp only [List.forall_mem_map]
    exact fun action _ => wellFormed_button action

mutual

/-- The element of a component is well-formed, whatever its strings are. -/
theorem wellFormed_component (c : Component) : (component c).WellFormed := by
  cases c with
  | text c => exact wellFormed_textBlock c
  | button c => exact wellFormed_button c
  | control c => exact wellFormed_control c
  | divider c => exact wellFormed_divider c
  | alert c => exact wellFormed_alert c
  | form c => exact wellFormed_form c
  | container id layout items =>
      apply wellFormed_element (by decide)
      · simp only [classAttribute, List.forall_mem_cons]
        exact ⟨by decide, isName_idAttribute id⟩
      · exact wellFormed_block (wellFormed_components items)

theorem wellFormed_components (cs : List Component) : ∀ m ∈ components cs, m.WellFormed := by
  cases cs with
  | nil => simp [components]
  | cons c rest =>
      simp only [components, List.forall_mem_cons]
      exact ⟨wellFormed_component c, wellFormed_components rest⟩

end

theorem wellFormed_page (p : Page) : (page p).WellFormed := by
  apply wellFormed_element (by decide)
  · simp only [classAttribute, List.forall_mem_cons]
    exact ⟨by decide, isName_idAttribute p.id⟩
  · exact wellFormed_block (wellFormed_components p.items)

/-! ## Rendered documents read back -/

/-- **Pages read back.** The markup of a page is read without a fault, and what is read is the
outline of the page without blank texts. -/
theorem read_page (p : Page) :
    Markup.read (page p).write = .ok (Markup.dropBlanks [Outline.page p]) := by
  have read := Markup.read_writeAll [page p] ⟨wellFormed_page p, trivial⟩
  obtain ⟨tag, attributes, children, shown, written, outlined, same⟩ := shows_page p
  simp only [Markup.writeAll, String.append_empty] at read
  rw [read, written, outlined]
  simp [Markup.contents, Markup.contentsFrom, Markup.dropBlanks, ← same]

end Wireframe.Render
