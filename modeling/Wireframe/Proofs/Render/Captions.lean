import Wireframe.Proofs.Markup.Nodes
import Wireframe.Proofs.Render.Vocabulary

/-! # The texts of documents

The captions of a document are the strings that it shows as texts, each with the element that
holds it and with what the element puts around it. The nodes of the markup hold exactly the
captions that are not empty, and otherwise only line breaks between elements. Reading the
markup leaves out what is blank, whether it is a line break or a caption
(`Wireframe.Render.runs_of_document`).
-/

namespace Wireframe

namespace Markup

/-! ## Texts in their elements -/

/-- A text in the element that holds it. -/
structure Run where
  tag : String
  attributes : List Attribute
  text : String
deriving DecidableEq

/-- The texts in trees that an element holds, in order, each in the innermost element around it. -/
def runs (tag : String) (attributes : List Attribute) : List Markup → List Run
  | [] => []
  | .text s :: rest => ⟨tag, attributes, s⟩ :: runs tag attributes rest
  | .element inner held children :: rest =>
    runs inner held children ++ runs tag attributes rest

def Run.isBlank (r : Run) : Bool := Text.allBlank r.text.toList

/-- The tags of elements that put line breaks around what they hold. -/
def layoutTags : List String := ["div", "fieldset", "select", "form"]

/-- A blank text in an element that puts line breaks around what it holds. -/
def Run.isLayout (r : Run) : Bool := r.tag ∈ layoutTags && r.isBlank

/-- Texts without layout. -/
def content (rs : List Run) : List Run := rs.filter fun r => !r.isLayout

section

variable (tag : String) (attributes : List Attribute)

theorem runs_append (ms more : List Markup) :
    runs tag attributes (ms ++ more) = runs tag attributes ms ++ runs tag attributes more := by
  induction ms with
  | nil => simp [runs]
  | cons m ms ih => cases m <;> simp [runs, ih]

theorem texts_eq_runs (ms : List Markup) : texts ms = (runs tag attributes ms).map Run.text := by
  induction ms using texts.induct generalizing tag attributes with
  | case1 => simp [texts, runs]
  | case2 s rest ih => rw [texts, runs, List.map_cons, ← ih]
  | case3 inner held children rest ihChildren ihRest =>
      rw [texts, runs, List.map_append, ← ihChildren, ← ihRest]

/-- Trees without blank texts hold the texts that are not blank. -/
theorem runs_dropBlanks (ms : List Markup) :
    runs tag attributes (dropBlanks ms) =
      (runs tag attributes ms).filter fun r => !r.isBlank := by
  induction ms using dropBlanks.induct generalizing tag attributes with
  | case1 => simp [runs]
  | case2 s rest ih =>
      rw [dropBlanks, runs_append, ih, runs, List.filter_cons, run, Run.isBlank]
      cases Text.allBlank s.toList <;> simp [runs]
  | case3 inner held children rest ihChildren ihRest =>
      rw [dropBlanks, runs, runs, List.filter_append, ihChildren, ihRest]

theorem content_append (rs more : List Run) : content (rs ++ more) = content rs ++ content more :=
  List.filter_append ..

/-- What is not blank is not left out as layout. -/
theorem filled_content (rs : List Run) :
    (content rs).filter (fun r => !r.isBlank) = rs.filter fun r => !r.isBlank := by
  rw [content, List.filter_filter]
  congr 1
  funext r
  cases blank : r.isBlank <;> simp [Run.isLayout, blank]

end

theorem content_layout {tag : String} (layout : tag ∈ layoutTags) (attributes : List Attribute)
    {pending : String} (blank : Text.allBlank pending.toList = true) :
    content (runs tag attributes (textNode pending)) = [] := by
  unfold textNode
  split_ifs
  · simp [runs, content]
  · simp [runs, content, Run.isLayout, Run.isBlank, layout, blank]

end Markup

namespace Render

open Document Markup

/-! ## Captions -/

/-- A string that a document shows: the element that holds it, and what stands before it and behind
it in the same text. -/
structure Caption where
  tag : String
  attributes : List Attribute
  before : String
  text : String
  behind : String

namespace Caption

/-- The text that shows a caption. -/
def run (c : Caption) : Run := ⟨c.tag, c.attributes, c.before ++ c.text ++ c.behind⟩

def sole (tag : String) (attributes : List Attribute) (text : String) : Caption :=
  ⟨tag, attributes, "", text, ""⟩

def spaced (tag : String) (attributes : List Attribute) (text : String) : Caption :=
  ⟨tag, attributes, " ", text, ""⟩

end Caption

namespace Captions

def textBlock (c : TextBlock) : Caption :=
  .sole (textTag c.variant)
    (classAttribute .text (some (Named.name c.variant)) :: idAttribute c.id) c.value

def button (c : Button) : Caption :=
  .sole "button"
    (("type", some (if c.submit || c.kind == .submit then "submit" else "button")) ::
      classAttribute .button (some (Named.name c.kind)) ::
        (idAttribute c.id ++ flag "disabled" c.disabled))
    c.label

/-- The label of an input, and the mark behind it if the input has to be filled in. -/
def input (c : Input) : List Caption :=
  let named := [("for", some (fieldId c.id c.name))]
  if c.required then
    [⟨"label", named, "", c.label, " "⟩,
      .sole "span" [("class", some "textui-required"), ("aria-hidden", some "true")] "*"]
  else [.sole "label" named c.label]

def checkbox (c : Checkbox) : List Caption :=
  [.spaced "label" [("for", some (fieldId c.id c.name))] c.label]

/-- The legend of a radio group, and the labels of its choices. -/
def radio (c : Radio) : List Caption :=
  .sole "legend" [] c.label :: c.options.map fun choice => .spaced "label" [] choice.label

/-- The placeholder of a select, unless it is empty. -/
def placeholder (placeholder : Option String) : List Caption :=
  ((placeholder.filter (· != "")).map fun text =>
    .sole "option" [("value", some ""), ("disabled", none), ("selected", none)] text).toList

/-- The label of a select, its placeholder, and the labels of its choices. -/
def select (c : Select) : List Caption :=
  .sole "label" [("for", some (fieldId c.id c.name))] c.label ::
    (placeholder c.placeholder ++
      c.options.map fun choice => .sole "option" [("value", some choice.value)] choice.label)

/-- The title of an alert, unless it is empty, and its message. -/
def alert (c : Alert) : List Caption :=
  ((c.title.filter (· != "")).map fun text => .sole "strong" [] text).toList ++
    [.sole "p" [] c.message]

def control : Control → List Caption
  | .input c => input c
  | .checkbox c => checkbox c
  | .radio c => radio c
  | .select c => select c

def form (c : Form) : List Caption := c.fields.flatMap control ++ c.actions.map button

mutual

/-- The captions of a component. -/
def component : Component → List Caption
  | .text c => [textBlock c]
  | .button c => [button c]
  | .control c => control c
  | .divider _ => []
  | .alert c => alert c
  | .form c => form c
  | .container _ _ items => components items

/-- The captions of the components in a list, in order. -/
def components : List Component → List Caption
  | [] => []
  | c :: rest => component c ++ components rest

end

end Captions

/-- The strings that a document shows as texts, in order. -/
def captions (d : Document) : List Caption := Captions.components d.page.items

/-- The texts that show captions, apart from empty ones. -/
def filledRuns (cs : List Caption) : List Run := (cs.map Caption.run).filter (·.text != "")

theorem filledRuns_append (cs more : List Caption) :
    filledRuns (cs ++ more) = filledRuns cs ++ filledRuns more := by
  simp [filledRuns]

/-! ## Captions in markup -/

/-- An element whose nodes hold captions, and layout besides. -/
def Carries (m : Markup) (cs : List Caption) : Prop :=
  ∃ tag attributes children, m = .element tag attributes children ∧
    content (runs tag attributes (merged children)) = filledRuns cs

section

variable (tag : String) (layout : tag ∈ layoutTags) (attributes : List Attribute)
include layout

/-- Elements on lines of their own hold the captions of all of them. -/
theorem content_inLines {elements : List Markup} {held : List (List Caption)}
    (carry : List.Forall₂ Carries elements held) : ∀ pending : String,
      Text.allBlank pending.toList = true →
        content (runs tag attributes (mergedFrom pending (inLines elements))) =
          filledRuns held.flatten := by
  -- The line break behind an element is still open when the next element comes.
  induction carry with
  | nil =>
      intro pending blank
      have none := content_layout layout attributes blank
      simpa [inLines, mergedFrom, filledRuns] using none
  | cons first _ ih =>
      intro pending blank
      obtain ⟨inner, named, children, rfl, same⟩ := first
      have before := content_layout layout attributes blank
      have behind := ih "\n" rfl
      simp only [inLines, lineBreak] at behind
      simp only [inLines, lineBreak, List.flatMap_cons, List.cons_append, List.nil_append,
        mergedFrom, String.empty_append, runs_append, runs, content_append, before, behind]
      rw [List.flatten_cons, filledRuns_append, ← same, merged]

theorem carries_lines {elements : List Markup} {held : List (List Caption)}
    (carry : List.Forall₂ Carries elements held) :
    Carries (.element tag attributes (lineBreak :: inLines elements)) held.flatten := by
  refine ⟨tag, attributes, _, rfl, ?_⟩
  rw [merged, lineBreak, mergedFrom]
  exact content_inLines tag layout attributes carry "\n" rfl

theorem carries_block {elements : List Markup} {held : List (List Caption)}
    (carry : List.Forall₂ Carries elements held) :
    Carries (.element tag attributes (block elements)) held.flatten := by
  rw [block_eq]
  split_ifs with empty
  · subst empty
    cases carry
    refine ⟨tag, attributes, _, rfl, ?_⟩
    have breaks : content (runs tag attributes (textNode "\n\n")) = [] :=
      content_layout layout attributes rfl
    simpa [inLines, lineBreak, merged, mergedFrom, filledRuns] using breaks
  · rw [List.append_nil]
    exact carries_lines tag layout attributes carry

end

theorem carries_textElement {tag : String} (apart : tag ∉ layoutTags)
    (attributes : List Attribute) (text : String) :
    Carries (textElement tag attributes text) [.sole tag attributes text] := by
  refine ⟨tag, attributes, _, rfl, ?_⟩
  rw [merged, mergedFrom, String.empty_append, mergedFrom, textNode]
  split_ifs with empty
  · simp [empty, runs, content, filledRuns, Caption.sole, Caption.run]
  · simp [empty, runs, content, Run.isLayout, apart, filledRuns, Caption.sole, Caption.run]

theorem carries_labelled (tag : String) (apart : tag ∉ layoutTags) (attributes : List Attribute)
    (inner : String) (box : List Attribute) (text : String) :
    Carries (.element tag attributes [.element inner box [], .text " ", .text text])
      [.spaced tag attributes text] := by
  refine ⟨tag, attributes, _, rfl, ?_⟩
  have filled : ¬(" " ++ text = "") := by simp
  simp [merged, mergedFrom, textNode, filled, runs, content, Run.isLayout, apart, filledRuns,
    Caption.spaced, Caption.run]

theorem carries_inputField (c : Input) : Carries (inputField c) [] := by
  unfold inputField
  split <;> exact ⟨_, _, _, rfl, by simp [merged, mergedFrom, textNode, runs, content, filledRuns]⟩

theorem carries_input (c : Input) : Carries (input c) (Captions.input c) := by
  have label : Carries
      (.element "label" [("for", some (fieldId c.id c.name))]
        (.text c.label :: requiredMark c.required)) (Captions.input c) := by
    unfold Captions.input requiredMark
    split_ifs
    · refine ⟨_, _, _, rfl, ?_⟩
      have filled : ¬(c.label ++ " " = "") := by simp
      simp [merged, mergedFrom, textNode, textElement, filled, runs, content, Run.isLayout,
        layoutTags, filledRuns, Caption.sole, Caption.run]
    · exact carries_textElement (by decide) _ c.label
  have both : Carries (input c) [Captions.input c, []].flatten :=
    carries_lines _ (by decide) _ (.cons label (.cons (carries_inputField c) .nil))
  simpa using both

theorem carries_checkbox (c : Checkbox) : Carries (checkbox c) (Captions.checkbox c) := by
  have label := carries_labelled "label" (by decide)
    [("for", some (fieldId c.id c.name))] "input"
    ([("type", some "checkbox"), ("id", some (fieldId c.id c.name)), ("name", some c.name)] ++
      flag "checked" c.checked ++ flag "disabled" c.disabled) c.label
  exact carries_lines _ (by decide) _ (.cons label .nil)

theorem carries_map {α : Type} {shown : α → Markup} {held : α → List Caption}
    (each : ∀ x, Carries (shown x) (held x)) (items : List α) :
    List.Forall₂ Carries (items.map shown) (items.map held) := by
  rw [List.forall₂_map_left_iff, List.forall₂_map_right_iff, List.forall₂_same]
  exact fun x _ => each x

theorem carries_radio (c : Radio) : Carries (radio c) (Captions.radio c) := by
  have legend : Carries (textElement "legend" [] c.label) [.sole "legend" [] c.label] :=
    carries_textElement (by decide) [] c.label
  have choice (choice : Choice) :
      Carries (radioChoice c.name choice) [.spaced "label" [] choice.label] :=
    carries_labelled _ (by decide) [] "input" _ choice.label
  have all : Carries (radio c) ([_] :: c.options.map _).flatten :=
    carries_lines _ (by decide) _ (.cons legend (carries_map choice c.options))
  simpa [Captions.radio, ← List.flatMap_def, ← List.map_eq_flatMap] using all

theorem carries_placeholder (placeholder : Option String) :
    List.Forall₂ Carries (placeholderChoice placeholder)
      ((Captions.placeholder placeholder).map fun c => [c]) := by
  unfold placeholderChoice Captions.placeholder
  cases placeholder.filter (· != "") with
  | none => exact .nil
  | some text => exact .cons (carries_textElement (by decide) _ text) .nil

theorem carries_select (c : Select) : Carries (select c) (Captions.select c) := by
  have label : Carries (textElement "label" [("for", some (fieldId c.id c.name))] c.label)
      [.sole "label" [("for", some (fieldId c.id c.name))] c.label] :=
    carries_textElement (by decide) _ c.label
  have choice (choice : Choice) : Carries (selectChoice choice)
      [.sole "option" [("value", some choice.value)] choice.label] :=
    carries_textElement (by decide) _ choice.label
  have choices := carries_lines "select" (by decide)
    ([("class", some "textui-control"), ("id", some (fieldId c.id c.name)),
        ("name", some c.name)] ++ flag "multiple" c.multiple ++ flag "disabled" c.disabled)
    (List.rel_append (carries_placeholder c.placeholder) (carries_map choice c.options))
  have all : Carries (select c) [_, _].flatten :=
    carries_lines _ (by decide) _ (.cons label (.cons choices .nil))
  simpa [Captions.select, ← List.flatMap_def, ← List.map_eq_flatMap] using all

theorem carries_alert (c : Alert) : Carries (alert c) (Captions.alert c) := by
  have title : List.Forall₂ Carries (alertTitle c.title)
      (((c.title.filter (· != "")).map fun text => [Caption.sole "strong" [] text]).toList) := by
    unfold alertTitle
    cases c.title.filter (· != "") with
    | none => exact .nil
    | some text => exact .cons (carries_textElement (by decide) [] text) .nil
  have message : Carries (textElement "p" [] c.message) [.sole "p" [] c.message] :=
    carries_textElement (by decide) [] c.message
  have all : Carries (alert c) (_ ++ [_]).flatten :=
    carries_lines _ (by decide) _ (List.rel_append title (.cons message .nil))
  cases filled : c.title.filter (· != "") <;> simpa [Captions.alert, filled] using all

theorem carries_control (c : Control) : Carries (control c) (Captions.control c) := by
  cases c with
  | input c => exact carries_input c
  | checkbox c => exact carries_checkbox c
  | radio c => exact carries_radio c
  | select c => exact carries_select c

theorem carries_button (c : Button) : Carries (button c) [Captions.button c] :=
  carries_textElement (by decide) _ c.label

theorem carries_form (c : Form) : Carries (form c) (Captions.form c) := by
  have fields := carries_block "div" (by decide) [("class", some "textui-form-fields")]
    (carries_map carries_control c.fields)
  have actions := carries_block "div" (by decide) [("class", some "textui-form-actions")]
    (carries_map carries_button c.actions)
  have all : Carries (form c) [_, _].flatten :=
    carries_lines _ (by decide) _ (.cons fields (.cons actions .nil))
  simpa [Captions.form, ← List.flatMap_def, ← List.map_eq_flatMap] using all

theorem carries_textBlock (c : TextBlock) : Carries (textBlock c) [Captions.textBlock c] := by
  have apart : textTag c.variant ∉ layoutTags := by cases c.variant <;> decide
  exact carries_textElement apart _ c.value

mutual

/-- The element of a component holds the captions of the component, at any depth. -/
theorem carries_component (c : Component) : Carries (component c) (Captions.component c) := by
  cases c with
  | text c => exact carries_textBlock c
  | button c => exact carries_button c
  | control c => exact carries_control c
  | divider c =>
      exact ⟨_, _, _, rfl, by simp [merged, mergedFrom, textNode, runs, content, filledRuns,
        Captions.component]⟩
  | alert c => exact carries_alert c
  | form c => exact carries_form c
  | container id layout items =>
      obtain ⟨held, carry, same⟩ := carries_components items
      rw [component, Captions.component, ← same]
      exact carries_block _ (by decide) _ carry

theorem carries_components (cs : List Component) :
    ∃ held, List.Forall₂ Carries (components cs) held ∧
      held.flatten = Captions.components cs := by
  cases cs with
  | nil => exact ⟨[], .nil, rfl⟩
  | cons c rest =>
      obtain ⟨held, carry, same⟩ := carries_components rest
      refine ⟨Captions.component c :: held, .cons (carries_component c) carry, ?_⟩
      rw [List.flatten_cons, same, Captions.components]

end

theorem carries_page (d : Document) : Carries (page d.page) (captions d) := by
  obtain ⟨held, carry, same⟩ := carries_components d.page.items
  rw [page, captions, ← same]
  exact carries_block _ (by decide) _ carry

/-- **The texts of a document.** The nodes of the markup of every document hold its captions that
are not empty, each in its element and all in order, and besides only line breaks between elements.
The trees that the markup is read as hold exactly the captions that are not blank. -/
theorem runs_of_document (d : Document) (theme : Theme.Resolved) :
    ∃ found trees, nodes (fragment d theme).markup = .ok found ∧
      read (fragment d theme).markup = .ok trees ∧
      content (runs "fragment" [] found) = filledRuns (captions d) ∧
      runs "fragment" [] trees =
        ((captions d).map Caption.run).filter fun r => !r.isBlank := by
  have carried : content (runs "fragment" [] (merged [page d.page])) = filledRuns (captions d) := by
    obtain ⟨tag, attributes, children, shape, same⟩ := carries_page d
    rw [← same, shape]
    simp [merged, mergedFrom, textNode, runs]
  refine ⟨_, _, nodes_fragment d theme, read_fragment_nodes d theme, carried, ?_⟩
  -- Layout is blank, so it can be left out before what is blank is.
  rw [runs_dropBlanks, ← filled_content, carried, filledRuns, List.filter_filter]
  congr 1
  funext r
  by_cases empty : r.text = ""
  · simp [Run.isBlank, empty, Text.allBlank]
  · simp [empty]

end Render

end Wireframe
