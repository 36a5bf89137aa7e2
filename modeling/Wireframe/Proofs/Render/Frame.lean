import Wireframe.Proofs.Render.Outline

/-! # The frame of a document

The frame of a tree of markup is its elements with the names of their attributes, one
inside the other: all of the tree but its texts and the values of its attributes. A
document has the frame of the muted document, in which every string is one and the same
letter, save that an empty string stays empty
(`Wireframe.Render.frames_page`). So the strings of a document decide nothing about the
elements it shows beyond which optional ones are there at all.

With the outline this says what reading makes of a rendered document
(`Wireframe.Render.read_fragment`).
-/

namespace Wireframe

namespace Markup

/-- An element with the names of its attributes and the elements in it. -/
inductive Frame where
  | element (tag : String) (attributes : List String) (children : List Frame)

/-- The frames of trees. Texts have none. -/
def frames : List Markup → List Frame
  | [] => []
  | .text _ :: rest => frames rest
  | .element tag attributes children :: rest =>
    .element tag (attributes.map Prod.fst) (frames children) :: frames rest

theorem frames_append (ms more : List Markup) :
    frames (ms ++ more) = frames ms ++ frames more := by
  induction ms with
  | nil => simp [frames]
  | cons m ms ih => cases m <;> simp [frames, ih]

/-- Trees with the same frame one by one have the same frames together. -/
theorem frames_map {α : Type} (f g : α → Markup) (xs : List α)
    (same : ∀ x ∈ xs, frames [f x] = frames [g x]) : frames (xs.map f) = frames (xs.map g) := by
  induction xs with
  | nil => rfl
  | cons x xs ih =>
      rw [List.forall_mem_cons] at same
      have first := frames_append [f x] (xs.map f)
      have other := frames_append [g x] (xs.map g)
      simp only [List.map_cons]
      rw [List.singleton_append] at first other
      rw [first, other, same.1, ih same.2]

theorem frames_run (s : String) : frames (run s) = [] := by
  unfold run
  split_ifs <;> simp [frames]

/-- Blank texts are outside of all frames. -/
theorem frames_dropBlanks (ms : List Markup) : frames (dropBlanks ms) = frames ms := by
  induction ms using dropBlanks.induct with
  | case1 => rw [dropBlanks]
  | case2 s rest ih => rw [dropBlanks, frames_append, frames_run, ih, frames, List.nil_append]
  | case3 tag attributes children rest ihChildren ihRest =>
      rw [dropBlanks, frames, ihChildren, ihRest, frames]

end Markup

/-! ## Muted documents -/

namespace Document

/-- The letter that stands for every string that is not empty. -/
def mute (s : String) : String := if s = "" then "" else "x"

/-- A choice with its strings muted. -/
def Choice.muted (c : Choice) : Choice := ⟨mute c.label, mute c.value⟩

/-- A text with its strings muted. -/
def TextBlock.muted (c : TextBlock) : TextBlock := ⟨c.id.map mute, c.variant, mute c.value⟩

/-- A button with its strings muted. -/
def Button.muted (c : Button) : Button :=
  { c with id := c.id.map mute, label := mute c.label }

/-- An input with its strings muted. -/
def Input.muted (c : Input) : Input :=
  { c with
    id := c.id.map mute, label := mute c.label, name := mute c.name,
    placeholder := c.placeholder.map mute }

/-- A checkbox with its strings muted. -/
def Checkbox.muted (c : Checkbox) : Checkbox :=
  { c with id := c.id.map mute, label := mute c.label, name := mute c.name }

/-- A radio group with its strings muted. -/
def Radio.muted (c : Radio) : Radio :=
  { c with
    id := c.id.map mute, label := mute c.label, name := mute c.name,
    options := c.options.map Choice.muted }

/-- A select with its strings muted. -/
def Select.muted (c : Select) : Select :=
  { c with
    id := c.id.map mute, label := mute c.label, name := mute c.name,
    options := c.options.map Choice.muted, placeholder := c.placeholder.map mute }

/-- A divider with its strings muted. -/
def Divider.muted (c : Divider) : Divider := { c with id := c.id.map mute }

/-- An alert with its strings muted. -/
def Alert.muted (c : Alert) : Alert :=
  { c with id := c.id.map mute, message := mute c.message, title := c.title.map mute }

/-- A control with its strings muted. -/
def Control.muted : Control → Control
  | .input c => .input c.muted
  | .checkbox c => .checkbox c.muted
  | .radio c => .radio c.muted
  | .select c => .select c.muted

/-- A form with its strings muted. -/
def Form.muted (c : Form) : Form :=
  ⟨mute c.id, c.fields.map Control.muted, c.actions.map Button.muted⟩

mutual

/-- A component with its strings muted, and those of the components in it. -/
def Component.muted : Component → Component
  | .text c => .text c.muted
  | .button c => .button c.muted
  | .control c => .control c.muted
  | .divider c => .divider c.muted
  | .alert c => .alert c.muted
  | .form c => .form c.muted
  | .container id layout items => .container (id.map mute) layout (allMuted items)

/-- Components with their strings muted. -/
def allMuted : List Component → List Component
  | [] => []
  | c :: rest => c.muted :: allMuted rest

end

/-- A page with its strings muted. -/
def Page.muted (p : Page) : Page :=
  ⟨p.id.map mute, p.title.map mute, p.layout, allMuted p.items⟩

end Document

/-- A document with its strings muted: each is one and the same letter, and empty if it was. -/
def Document.muted (d : Document) : Document := ⟨d.page.muted⟩

namespace Render

open Document Markup

/-! ## Muting keeps frames -/

theorem mute_eq_empty (s : String) : mute s = "" ↔ s = "" := by
  unfold mute
  split_ifs with empty <;> simp [empty]

/-- Whether an optional string is there and not empty. -/
def isGiven (s : Option String) : Bool := (s.filter (· != "")).isSome

/-- Muting keeps which optional strings count as absent. -/
theorem isGiven_mute (s : Option String) : isGiven (s.map mute) = isGiven s := by
  cases s with
  | none => rfl
  | some s => by_cases empty : s = "" <;> simp [isGiven, Option.filter, mute_eq_empty, empty]

theorem idAttribute_names (id : Option String) :
    (idAttribute id).map Prod.fst = if isGiven id then ["id"] else [] := by
  unfold idAttribute
  split <;> simp [*, isGiven]

theorem optionalAttribute_names (name : String) (value : Option String) :
    (optionalAttribute name value).map Prod.fst =
      if isGiven value then [name] else [] := by
  unfold optionalAttribute
  split <;> simp [*, isGiven]

theorem frames_placeholderChoice (placeholder : Option String) :
    frames (Outline.placeholderChoice placeholder) =
      if isGiven placeholder then
        [.element "option" ["value", "disabled", "selected"] []]
      else [] := by
  unfold Outline.placeholderChoice
  split <;> simp [*, isGiven, frames]

theorem frames_alertTitle (title : Option String) :
    frames (Outline.alertTitle title) =
      if isGiven title then [.element "strong" [] []] else [] := by
  unfold Outline.alertTitle
  split <;> simp [*, isGiven, frames]

theorem frames_textBlock (c : TextBlock) :
    frames [Outline.textBlock c.muted] = frames [Outline.textBlock c] := by
  simp [Outline.textBlock, TextBlock.muted, frames, classAttribute, idAttribute_names,
    isGiven_mute]

theorem frames_button (c : Button) :
    frames [Outline.button c.muted] = frames [Outline.button c] := by
  simp [Outline.button, Button.muted, frames, classAttribute, idAttribute_names,
    isGiven_mute]

theorem frames_inputField (c : Input) :
    frames [Outline.inputField c.muted] = frames [Outline.inputField c] := by
  have names : (inputState c.muted).map Prod.fst = (inputState c).map Prod.fst := by
    simp [inputState, Input.muted, optionalAttribute_names, isGiven_mute]
  have kind : c.muted.type = c.type := rfl
  unfold Outline.inputField
  rw [kind]
  split <;> simp [frames, names]

theorem frames_input (c : Input) : frames [Outline.input c.muted] = frames [Outline.input c] := by
  have field := frames_inputField c
  have required : c.muted.required = c.required := rfl
  have behind (label : Markup) (field : Markup) :
      frames [label, field] = frames [label] ++ frames [field] := frames_append [label] [field]
  simp only [Outline.input, frames, behind, field, required]
  cases c.required <;> simp [frames, classAttribute]

theorem frames_checkbox (c : Checkbox) :
    frames [Outline.checkbox c.muted] = frames [Outline.checkbox c] := by
  simp [Outline.checkbox, Checkbox.muted, frames, classAttribute]

theorem frames_radio (c : Radio) : frames [Outline.radio c.muted] = frames [Outline.radio c] := by
  have choices : frames ((c.options.map Choice.muted).map (Outline.radioChoice (mute c.name))) =
      frames (c.options.map (Outline.radioChoice c.name)) := by
    rw [List.map_map]
    refine frames_map _ _ _ fun choice _ => ?_
    simp [Outline.radioChoice, frames]
  simp [Outline.radio, Radio.muted, frames, classAttribute, idAttribute_names, isGiven_mute,
    -List.map_map, choices]

theorem frames_select (c : Select) :
    frames [Outline.select c.muted] = frames [Outline.select c] := by
  have choices : frames ((c.options.map Choice.muted).map Outline.selectChoice) =
      frames (c.options.map Outline.selectChoice) := by
    rw [List.map_map]
    refine frames_map _ _ _ fun choice _ => ?_
    simp [Outline.selectChoice, frames]
  simp [Outline.select, Select.muted, frames, classAttribute, frames_append,
    frames_placeholderChoice, isGiven_mute, -List.map_map, choices]

theorem frames_alert (c : Alert) : frames [Outline.alert c.muted] = frames [Outline.alert c] := by
  simp [Outline.alert, Alert.muted, frames, classAttribute, frames_append, frames_alertTitle,
    idAttribute_names, isGiven_mute]

theorem frames_divider (c : Divider) :
    frames [Outline.divider c.muted] = frames [Outline.divider c] := by
  simp [Outline.divider, Divider.muted, frames, classAttribute, idAttribute_names, isGiven_mute]

theorem frames_control (c : Control) :
    frames [Outline.control c.muted] = frames [Outline.control c] := by
  cases c with
  | input c => exact frames_input c
  | checkbox c => exact frames_checkbox c
  | radio c => exact frames_radio c
  | select c => exact frames_select c

theorem frames_form (c : Form) : frames [Outline.form c.muted] = frames [Outline.form c] := by
  have id : (idAttribute (some (mute c.id))).map Prod.fst =
      (idAttribute (some c.id)).map Prod.fst := by
    rw [idAttribute_names, idAttribute_names, ← isGiven_mute (some c.id), Option.map_some]
  have fields : frames ((c.fields.map Control.muted).map Outline.control) =
      frames (c.fields.map Outline.control) := by
    rw [List.map_map]
    exact frames_map _ _ _ fun field _ => frames_control field
  have actions : frames ((c.actions.map Button.muted).map Outline.button) =
      frames (c.actions.map Outline.button) := by
    rw [List.map_map]
    exact frames_map _ _ _ fun action _ => frames_button action
  simp [Outline.form, Form.muted, frames, classAttribute, id, -List.map_map, fields, actions]

mutual

/-- The element of a component keeps its frame when its strings are muted, at any depth. -/
theorem frames_component (c : Component) :
    frames [Outline.component c.muted] = frames [Outline.component c] := by
  cases c with
  | text c => exact frames_textBlock c
  | button c => exact frames_button c
  | control c => exact frames_control c
  | divider c => exact frames_divider c
  | alert c => exact frames_alert c
  | form c => exact frames_form c
  | container id layout items =>
      simp [Component.muted, Outline.component, frames, classAttribute, idAttribute_names,
        isGiven_mute, frames_components items]

theorem frames_components (cs : List Component) :
    frames (Outline.components (allMuted cs)) = frames (Outline.components cs) := by
  cases cs with
  | nil => rfl
  | cons c rest =>
      have muted := frames_append [Outline.component c.muted] (Outline.components (allMuted rest))
      have plain := frames_append [Outline.component c] (Outline.components rest)
      rw [List.singleton_append] at muted plain
      rw [allMuted, Outline.components, Outline.components, muted, plain, frames_component c,
        frames_components rest]

end

/-- The strings of a page decide nothing about its frame but which of the optional elements and
attributes there are. -/
theorem frames_page (p : Page) : frames [Outline.page p.muted] = frames [Outline.page p] := by
  simp [Outline.page, Page.muted, frames, classAttribute, idAttribute_names, isGiven_mute,
    frames_components p.items]

/-! ## Rendered documents -/

/-- **Rendered markup reads back as the document.** The markup of every document under every theme
is read without a fault. What is read is one element, the outline of the document without blank
texts, and its frame is the frame of the document with its strings muted: no string of the document
adds, ends, renames or moves an element or an attribute. -/
theorem read_fragment (d : Document) (theme : Theme.Resolved) :
    read (fragment d theme).markup = .ok (dropBlanks [Outline.page d.page]) ∧
      frames (dropBlanks [Outline.page d.page]) = frames [Outline.page d.muted.page] :=
  ⟨read_page d.page, by rw [frames_dropBlanks, Document.muted, frames_page]⟩

end Render

end Wireframe
