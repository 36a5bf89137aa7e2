import Wireframe.Document.Read
import Wireframe.Proofs.Markup.Regular
import Wireframe.Proofs.Render.Frame

/-! # The vocabulary of rendered documents

The tags and the names of attributes that outlines of documents are made of. None of them
comes from a document: the trees of every document are regular over one vocabulary, and so
are the trees that its markup is read as (`Wireframe.Render.read_usual`).
-/

namespace Wireframe.Render

open Document Markup

/-- The tags of outlines. -/
def tags : List String :=
  ["div", "h1", "h2", "h3", "p", "small", "span", "button", "label", "input", "textarea",
   "fieldset", "legend", "select", "option", "hr", "strong", "form"]

/-- The names of the attributes in outlines. -/
def attributeNames : List String :=
  ["class", "id", "type", "name", "placeholder", "required", "disabled", "checked", "for",
   "value", "role", "aria-hidden", "aria-orientation", "multiple", "selected"]

theorem isName_of_mem_tags : ∀ tag ∈ tags, IsName tag := by decide

theorem isName_of_mem_attributeNames : ∀ name ∈ attributeNames, IsName name := by decide

/-- Trees that are regular over the vocabulary of outlines. -/
abbrev Usual (ms : List Markup) : Prop := Regular tags attributeNames ms

/-! ## Attributes that may be left out -/

/-- Attributes with some of the names in a list, in its order. -/
def Among (attributes : List Attribute) (full : List String) : Prop :=
  (attributes.map Prod.fst).Sublist full

theorem Among.cons {a : Attribute} {attributes : List Attribute} {full : List String}
    (others : Among attributes full) : Among (a :: attributes) (a.1 :: full) :=
  List.Sublist.cons_cons _ others

theorem Among.append {attributes more : List Attribute} {full others : List String}
    (first : Among attributes full) (second : Among more others) :
    Among (attributes ++ more) (full ++ others) := by
  unfold Among at first second ⊢
  rw [List.map_append]
  exact first.append second

theorem among_nil : Among [] [] := List.Sublist.refl _

theorem among_idAttribute (id : Option String) : Among (idAttribute id) ["id"] := by
  unfold Among
  rw [idAttribute_names]
  split_ifs <;> simp

theorem among_optionalAttribute (name : String) (value : Option String) :
    Among (optionalAttribute name value) [name] := by
  unfold Among
  rw [optionalAttribute_names]
  split_ifs <;> simp

theorem among_flag (name : String) (holds : Bool) : Among (flag name holds) [name] := by
  cases holds <;> simp [Among, flag]

/-! ## Elements -/

/-- An element that is regular over the vocabulary of outlines. -/
def IsUsual (m : Markup) : Prop := m.isElement = true ∧ Usual [m]

/-- An element is usual if its tag and its attributes are and all that it holds is. -/
theorem usual_element (full : List String) (distinct : Distinct attributeNames full) {tag : String}
    (known : tag ∈ tags) {attributes : List Attribute} (among : Among attributes full)
    {children : List Markup} (inside : Usual children) :
    IsUsual (.element tag attributes children) := by
  have named : Distinct attributeNames (attributes.map Prod.fst) :=
    ⟨distinct.1.sublist among, fun name member => distinct.2 name (among.mem member)⟩
  refine ⟨rfl, ?_⟩
  rw [Usual, Regular]
  exact ⟨⟨known, named, inside⟩, by rw [Regular]; trivial⟩

theorem usual_elements {ms : List Markup} (each : ∀ m ∈ ms, IsUsual m) : Usual ms :=
  regular_elements each

theorem usual_nil : Usual [] := usual_elements (by simp)

theorem usual_text (s : String) : Usual [.text s] := by
  rw [Usual, Regular]
  exact ⟨by simp, usual_nil⟩

theorem usual_textElement (full : List String) (distinct : Distinct attributeNames full)
    {tag : String} (known : tag ∈ tags) {attributes : List Attribute}
    (among : Among attributes full) (text : String) : IsUsual (textElement tag attributes text) :=
  usual_element full distinct known among (usual_text text)

/-- A text with an element behind it. -/
theorem usual_marked {m : Markup} (label : String) (mark : IsUsual m) :
    Usual [.text label, m] :=
  regular_append (usual_text label) mark.2 (by simpa using mark.1)

/-- An element with a text behind it. -/
theorem usual_labelled {m : Markup} (box : IsUsual m) (label : String) :
    Usual [m, .text label] := by
  obtain ⟨isElement, first⟩ := box
  cases m with
  | text s => cases isElement
  | element tag attributes children =>
      rw [Usual, Regular] at first ⊢
      exact ⟨first.1, usual_text label⟩

/-! ## Templates -/

theorem usual_textBlock (c : TextBlock) : IsUsual (Outline.textBlock c) := by
  have known : textTag c.variant ∈ tags := by cases c.variant <;> decide
  exact usual_textElement ["class", "id"] (by decide) known (among_idAttribute c.id).cons c.value

theorem usual_button (c : Button) : IsUsual (Outline.button c) :=
  usual_textElement ["type", "class", "id", "disabled"] (by decide) (by decide)
    ((among_idAttribute c.id).append (among_flag "disabled" c.disabled)).cons.cons c.label

theorem among_inputState (c : Input) :
    Among (inputState c) ["id", "name", "placeholder", "required", "disabled"] :=
  (((among_nil.cons.cons).append (among_optionalAttribute "placeholder" c.placeholder)).append
    (among_flag "required" c.required)).append (among_flag "disabled" c.disabled)

theorem usual_inputField (c : Input) : IsUsual (Outline.inputField c) := by
  have state := among_inputState c
  unfold Outline.inputField
  split
  · exact usual_element ["class", "id", "name", "placeholder", "required", "disabled"]
      (by decide) (by decide) state.cons usual_nil
  · exact usual_element ["class", "type", "id", "name", "placeholder", "required", "disabled"]
      (by decide) (by decide) state.cons.cons usual_nil

theorem usual_input (c : Input) : IsUsual (Outline.input c) := by
  apply usual_element ["class"] (by decide) (by decide) among_nil.cons
  apply usual_elements
  simp only [List.forall_mem_cons, List.not_mem_nil, false_imp_iff, implies_true, and_true]
  refine ⟨?_, usual_inputField c⟩
  apply usual_element ["for"] (by decide) (by decide) among_nil.cons
  split_ifs
  · apply usual_marked
    exact usual_textElement ["class", "aria-hidden"] (by decide) (by decide) among_nil.cons.cons "*"
  · exact usual_text _

theorem usual_checkbox (c : Checkbox) : IsUsual (Outline.checkbox c) := by
  have label : IsUsual (.element "label" [("for", some (fieldId c.id c.name))]
      [.element "input"
          ([("type", some "checkbox"), ("id", some (fieldId c.id c.name)), ("name", some c.name)] ++
            flag "checked" c.checked ++ flag "disabled" c.disabled) [],
        .text (" " ++ c.label)]) := by
    apply usual_element ["for"] (by decide) (by decide) among_nil.cons
    apply usual_labelled
    exact usual_element ["type", "id", "name", "checked", "disabled"] (by decide) (by decide)
      ((among_nil.cons.cons.cons.append (among_flag "checked" c.checked)).append
        (among_flag "disabled" c.disabled)) usual_nil
  exact usual_element ["class"] (by decide) (by decide) among_nil.cons label.2

theorem usual_radioChoice (name : String) (choice : Choice) :
    IsUsual (Outline.radioChoice name choice) := by
  apply usual_element [] (by decide) (by decide) among_nil
  apply usual_labelled
  exact usual_element ["type", "name", "value"] (by decide) (by decide) among_nil.cons.cons.cons
    usual_nil

theorem usual_radio (c : Radio) : IsUsual (Outline.radio c) := by
  apply usual_element ["class", "id", "disabled"] (by decide) (by decide)
    ((among_idAttribute c.id).append (among_flag "disabled" c.disabled)).cons
  apply usual_elements
  simp only [List.forall_mem_cons, List.forall_mem_map]
  exact ⟨usual_textElement [] (by decide) (by decide) among_nil c.label,
    fun choice _ => usual_radioChoice c.name choice⟩

theorem usual_placeholderChoice (placeholder : Option String) :
    ∀ m ∈ Outline.placeholderChoice placeholder, IsUsual m := by
  unfold Outline.placeholderChoice
  split
  · rw [List.forall_mem_singleton]
    exact usual_textElement ["value", "disabled", "selected"] (by decide) (by decide)
      among_nil.cons.cons.cons _
  · simp

theorem usual_select (c : Select) : IsUsual (Outline.select c) := by
  apply usual_element ["class"] (by decide) (by decide) among_nil.cons
  apply usual_elements
  simp only [List.forall_mem_cons, List.not_mem_nil, false_imp_iff, implies_true, and_true]
  constructor
  · exact usual_textElement ["for"] (by decide) (by decide) among_nil.cons c.label
  · apply usual_element ["class", "id", "name", "multiple", "disabled"] (by decide) (by decide)
      ((among_nil.cons.cons.cons.append (among_flag "multiple" c.multiple)).append
        (among_flag "disabled" c.disabled))
    apply usual_elements
    simp only [List.forall_mem_append, List.forall_mem_map]
    exact ⟨usual_placeholderChoice c.placeholder, fun choice _ =>
      usual_textElement ["value"] (by decide) (by decide) among_nil.cons choice.label⟩

theorem usual_divider (c : Divider) : IsUsual (Outline.divider c) :=
  usual_element ["class", "id", "aria-orientation"] (by decide) (by decide)
    ((among_idAttribute c.id).append among_nil.cons).cons usual_nil

theorem usual_alert (c : Alert) : IsUsual (Outline.alert c) := by
  apply usual_element ["class", "id", "role"] (by decide) (by decide)
    ((among_idAttribute c.id).append among_nil.cons).cons
  apply usual_elements
  simp only [List.forall_mem_append, List.forall_mem_singleton]
  constructor
  · unfold Outline.alertTitle
    split
    · rw [List.forall_mem_singleton]
      exact usual_textElement [] (by decide) (by decide) among_nil _
    · simp
  · exact usual_textElement [] (by decide) (by decide) among_nil c.message

theorem usual_control (c : Control) : IsUsual (Outline.control c) := by
  cases c with
  | input c => exact usual_input c
  | checkbox c => exact usual_checkbox c
  | radio c => exact usual_radio c
  | select c => exact usual_select c

theorem usual_form (c : Form) : IsUsual (Outline.form c) := by
  have group (name : String) {held : List Markup} (inside : Usual held) :
      IsUsual (.element "div" [("class", some name)] held) :=
    usual_element ["class"] (by decide) (by decide) among_nil.cons inside
  apply usual_element ["class", "id"] (by decide) (by decide) (among_idAttribute (some c.id)).cons
  apply usual_elements
  simp only [List.forall_mem_cons, List.not_mem_nil, false_imp_iff, implies_true, and_true]
  constructor
  · apply group
    apply usual_elements
    rw [List.forall_mem_map]
    exact fun field _ => usual_control field
  · apply group
    apply usual_elements
    rw [List.forall_mem_map]
    exact fun action _ => usual_button action

mutual

/-- What a component shows is usual, at any depth. -/
theorem usual_component (c : Component) : IsUsual (Outline.component c) := by
  cases c with
  | text c => exact usual_textBlock c
  | button c => exact usual_button c
  | control c => exact usual_control c
  | divider c => exact usual_divider c
  | alert c => exact usual_alert c
  | form c => exact usual_form c
  | container id layout items =>
      apply usual_element ["class", "id"] (by decide) (by decide) (among_idAttribute id).cons
      exact usual_elements (usual_components items)

theorem usual_components (cs : List Component) : ∀ m ∈ Outline.components cs, IsUsual m := by
  cases cs with
  | nil => simp [Outline.components]
  | cons c rest =>
      simp only [Outline.components, List.forall_mem_cons]
      exact ⟨usual_component c, usual_components rest⟩

end

theorem usual_page (p : Page) : IsUsual (Outline.page p) := by
  apply usual_element ["class", "id"] (by decide) (by decide) (among_idAttribute p.id).cons
  exact usual_elements (usual_components p.items)

/-- What the markup of a document is read as is usual. -/
theorem read_usual (d : Document) (theme : Theme.Resolved) :
    ∃ trees, read (fragment d theme).markup = .ok trees ∧
      trees = dropBlanks [Outline.page d.page] ∧ Usual trees :=
  ⟨_, read_page d.page, rfl, regular_dropBlanks (usual_page d.page).2⟩

/-! ## Pages with one text -/

/-- The text on a page that holds nothing else. -/
def soleText? (d : Document) : Option TextBlock :=
  match d.page.items with
  | [.text c] => some c
  | _ => none

/-- A source whose page holds one text. -/
theorem items_soleText {source : Source} {c : TextBlock}
    (found : (ofSource source).toOption.bind soleText? = some c) :
    ∃ d, ofSource source = .ok d ∧ d.page.items = [.text c] := by
  cases parsed : ofSource source with
  | error fault =>
      rw [parsed] at found
      cases found
  | ok d =>
      rw [parsed] at found
      have sole : soleText? d = some c := found
      unfold soleText? at sole
      split at sole
      · rename_i only single
        cases sole
        exact ⟨d, rfl, single⟩
      · cases sole

/-- The page shows the element of the page around that of the text. -/
theorem outline_soleText {source : Source} {c : TextBlock}
    (found : (ofSource source).toOption.bind soleText? = some c) :
    ∃ d, ofSource source = .ok d ∧ ∃ attributes,
      Outline.page d.page = .element "div" attributes [Outline.textBlock c] := by
  obtain ⟨d, parsed, single⟩ := items_soleText found
  refine ⟨d, parsed, classAttribute .page (some (Named.name d.page.layout)) ::
    idAttribute d.page.id, ?_⟩
  rw [Outline.page, single, Outline.components, Outline.component, Outline.components]

end Wireframe.Render
