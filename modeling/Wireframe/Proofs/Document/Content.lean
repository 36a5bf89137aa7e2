import Wireframe.Document.Outline
import Wireframe.Proofs.Named

/-! # What the nodes of a document hold

What the value of a field means, said without reading it: the text that a number or some
bytes stand for, the truth value of a word, the choices of a list. A node portrays a body
if each of its fields is what the value in the body means, or the default of the field
where the body has no value for it.

Whatever is read from a body portrays it (`Wireframe.Document.portrays_readButton` and its
siblings).
-/

namespace Wireframe.Document

namespace Content

/-! ## Values -/

/-- The text that a value means where a text is wanted. One with halves of surrogate pairs is shown
without them. -/
def MeansText : Value → String → Prop
  | .text s, t => t = s
  | .halved codes, t => t = Text.ofCodes codes
  | .int n, t => t = Number.intText n
  | .float x, t => t = Number.floatText x
  | .bytes b, t => Text.Utf8.decode b = .ok t.toList
  | _, _ => False

/-- The text that a value means where null means none. -/
def MeansOptionalText : Value → Option String → Prop
  | .null, t => t = none
  | v, t => ∃ s, t = some s ∧ MeansText v s

/-- The text that a value means in a choice, where a truth value is a word. -/
def MeansChoiceText : Value → String → Prop
  | .bool b, t => t = if b then "true" else "false"
  | v, t => MeansText v t

/-- The words that mean true or false. -/
def truthWords : Bool → List String
  | true => ["1", "on", "t", "true", "y", "yes"]
  | false => ["0", "off", "f", "false", "n", "no"]

/-- The truth value that a word means, in either case. -/
def MeansTruthWord (chars : List Char) (b : Bool) : Prop :=
  String.ofList (chars.map Char.toLower) ∈ truthWords b

/-- The truth value that a value means: a word for it, or the number one or zero. -/
def MeansTruth : Value → Bool → Prop
  | .bool b, t => t = b
  | .text s, t => MeansTruthWord s.toList t
  | .bytes b, t => ∃ chars, Text.Utf8.decode b = .ok chars ∧ MeansTruthWord chars t
  | .int n, t => n = if t then 1 else 0
  | .float x, t => Number.wholeOfFloat? x = some (if t then 1 else 0)
  | _, _ => False

/-- The member of a named set that a value means by its name. -/
def MeansWord {α : Type} [Named α] : Value → α → Prop
  | .text s, a => Named.name a = s
  | .bytes b, a => Text.Utf8.decode b = .ok (Named.name a).toList
  | _, _ => False

/-! ## Fields -/

/-- A field is there, and its value means something. -/
def Bears {α : Type} (body : Fields) (name : String) (means : Value → α → Prop) (a : α) : Prop :=
  ∃ v, Value.field? name body = some v ∧ means v a

/-- The value of a field means something, or the field is not there and that is the default. -/
def BearsOr {α : Type} (body : Fields) (name : String) (default : α) (means : Value → α → Prop)
    (a : α) : Prop :=
  match Value.field? name body with
  | none => a = default
  | some v => means v a

/-- The choice that a value means. -/
def MeansChoice (v : Value) (c : Choice) : Prop :=
  ∃ entries, v = .map entries ∧ Bears entries "label" MeansChoiceText c.label ∧
    Bears entries "value" MeansChoiceText c.value

/-- The choices that a sequence or a set means, in order. -/
def MeansChoices : Value → List Choice → Prop
  | .list items, choices | .tuple items, choices | .set items, choices =>
    List.Forall₂ MeansChoice items choices
  | _, _ => False

/-- The id that a body gives, if it gives one. -/
def BearsId (body : Fields) (id : Option String) : Prop :=
  BearsOr body "id" none MeansOptionalText id

end Content

open Content

/-! ## Nodes -/

/-- A component has the values that a body gives to its own fields, and holds as many components as
the body lists. -/
def Component.Portrays (body : Fields) : Component → Prop
  | .text c =>
    BearsId body c.id ∧ Bears body "variant" MeansWord c.variant ∧
      Bears body "value" MeansText c.value
  | .button c =>
    BearsId body c.id ∧ Bears body "kind" MeansWord c.kind ∧ Bears body "label" MeansText c.label ∧
      BearsOr body "submit" false MeansTruth c.submit ∧
      BearsOr body "disabled" false MeansTruth c.disabled
  | .control (.input c) =>
    BearsId body c.id ∧ Bears body "label" MeansText c.label ∧ Bears body "name" MeansText c.name ∧
      BearsOr body "type" .text MeansWord c.type ∧
      BearsOr body "required" false MeansTruth c.required ∧
      BearsOr body "placeholder" none MeansOptionalText c.placeholder ∧
      BearsOr body "disabled" false MeansTruth c.disabled
  | .control (.checkbox c) =>
    BearsId body c.id ∧ Bears body "label" MeansText c.label ∧ Bears body "name" MeansText c.name ∧
      BearsOr body "checked" false MeansTruth c.checked ∧
      BearsOr body "disabled" false MeansTruth c.disabled
  | .control (.radio c) =>
    BearsId body c.id ∧ Bears body "label" MeansText c.label ∧ Bears body "name" MeansText c.name ∧
      Bears body "options" MeansChoices c.options ∧
      BearsOr body "disabled" false MeansTruth c.disabled
  | .control (.select c) =>
    BearsId body c.id ∧ Bears body "label" MeansText c.label ∧ Bears body "name" MeansText c.name ∧
      Bears body "options" MeansChoices c.options ∧
      BearsOr body "placeholder" none MeansOptionalText c.placeholder ∧
      BearsOr body "multiple" false MeansTruth c.multiple ∧
      BearsOr body "disabled" false MeansTruth c.disabled
  | .divider c =>
    BearsId body c.id ∧ BearsOr body "orientation" .horizontal MeansWord c.orientation
  | .alert c =>
    BearsId body c.id ∧ Bears body "variant" MeansWord c.variant ∧
      Bears body "message" MeansText c.message ∧
      BearsOr body "title" none MeansOptionalText c.title
  | .form c =>
    Bears body "id" MeansText c.id ∧ c.fields.length = (listed body "fields").length ∧
      c.actions.length = (listed body "actions").length
  | .container id layout items =>
    BearsId body id ∧ BearsOr body "layout" .vertical MeansWord layout ∧
      items.length = (listed body "components").length

/-- A page has the values that a body gives to its own fields, and holds as many components as the
body lists. -/
def Page.Portrays (body : Fields) (p : Page) : Prop :=
  BearsId body p.id ∧ BearsOr body "title" none MeansOptionalText p.title ∧
    BearsOr body "layout" .vertical MeansWord p.layout ∧
    p.items.length = (listed body "components").length

/-- A node portrays the body of its entry. -/
def Node.Portrays (body : Fields) : Node → Prop
  | .page p => p.Portrays body
  | .component c => c.Portrays body

/-! ## Reading values -/

theorem means_ofBytes {b : List UInt8} {s : String} (done : Field.ofBytes b = .ok s) :
    Text.Utf8.decode b = .ok s.toList := by
  unfold Field.ofBytes at done
  cases decoded : Text.Utf8.decode b with
  | error failure => simp [decoded] at done
  | ok chars =>
      rw [decoded] at done
      cases done
      rw [String.toList_ofList]

theorem means_text {v : Value} {s : String} (done : Field.text v = .ok s) : MeansText v s := by
  cases v with
  | bytes b => exact means_ofBytes done
  | int n =>
      rw [Field.text] at done
      split at done
      · cases done
      · cases done
        rfl
  | text _ | halved _ | float _ =>
      cases done
      rfl
  | _ => cases done

theorem means_optionalText {v : Value} {s : Option String} (done : Field.optionalText v = .ok s) :
    MeansOptionalText v s := by
  have given {w : Value} (read : some <$> Field.text w = .ok s) :
      ∃ t, s = some t ∧ MeansText w t := by
    cases found : Field.text w with
    | error cause => simp [found] at read
    | ok t =>
        rw [found] at read
        cases read
        exact ⟨t, rfl, means_text found⟩
  cases v with
  | null =>
      cases done
      rfl
  | _ => exact given done

theorem means_choiceText {v : Value} {s : String} (done : Field.choiceText v = .ok s) :
    MeansChoiceText v s := by
  cases v with
  | bool b =>
      cases done
      rfl
  | _ =>
      simp only [Field.choiceText] at done
      exact means_text done

theorem means_ofBoolWord {chars : List Char} {b : Bool} (done : Field.ofBoolWord chars = .ok b) :
    MeansTruthWord chars b := by
  have words : ∀ e ∈ Field.boolWords, e.1 ∈ truthWords e.2 := by decide
  unfold Field.ofBoolWord at done
  cases found : Field.boolWords.lookup (String.ofList (chars.map Char.toLower)) with
  | none => simp [found] at done
  | some known =>
      rw [found] at done
      cases done
      obtain ⟨before, after, listed, _⟩ := List.lookup_eq_some_iff.mp found
      exact words _ (listed ▸ List.mem_append_right before List.mem_cons_self)

theorem means_ofBoolNumber {least n : Int} {b : Bool} (done : Field.ofBoolNumber least n = .ok b) :
    n = if b then 1 else 0 := by
  unfold Field.ofBoolNumber at done
  by_cases zero : n = 0
  · simp only [zero, beq_self_eq_true, ↓reduceIte] at done
    cases done
    exact zero
  by_cases one : n = 1
  · simp only [one, Int.reduceBEq, Bool.false_eq_true, beq_self_eq_true, ↓reduceIte] at done
    cases done
    exact one
  simp only [zero, one, beq_iff_eq, ↓reduceIte] at done
  split at done <;> cases done

theorem means_bool {v : Value} {b : Bool} (done : Field.bool v = .ok b) : MeansTruth v b := by
  cases v with
  | bool _ =>
      cases done
      rfl
  | text s => exact means_ofBoolWord done
  | int n => exact means_ofBoolNumber done
  | bytes bytes =>
      rw [Field.bool] at done
      cases decoded : Text.Utf8.decode bytes with
      | error failure => simp [decoded] at done
      | ok chars =>
          rw [decoded] at done
          exact ⟨chars, decoded, means_ofBoolWord done⟩
  | float x =>
      rw [Field.bool] at done
      rw [MeansTruth]
      cases whole : Number.wholeOfFloat? x with
      | none => simp [whole] at done
      | some n =>
          rw [whole] at done
          rw [means_ofBoolNumber done]
  | _ => cases done

theorem means_word {α : Type} [Named α] {v : Value} {a : α} (done : Field.word α v = .ok a) :
    MeansWord v a := by
  cases v with
  | text s =>
      simp only [Field.word] at done
      cases found : Named.ofName? (α := α) s with
      | none => simp [found] at done
      | some known =>
          rw [found] at done
          cases done
          exact Named.name_of_ofName? found
  | bytes b =>
      simp only [Field.word] at done
      rw [MeansWord]
      cases decoded : Text.Utf8.decode b with
      | error failure => simp [decoded] at done
      | ok chars =>
          cases found : Named.ofName? (α := α) (String.ofList chars) with
          | none => simp [decoded, found] at done
          | some known =>
              simp only [decoded, found] at done
              cases done
              rw [Named.name_of_ofName? found, String.toList_ofList]
  | _ => cases done

/-! ## Reading fields -/

section

variable {α β ε : Type}

/-- What follows a result is only reached when there is one. -/
theorem ok_of_bind {result : Except ε α} {next : α → Except ε β} {b : β}
    (done : result >>= next = .ok b) : ∃ a, result = .ok a ∧ next a = .ok b := by
  cases result with
  | error fault => cases done
  | ok a => exact ⟨a, rfl, done⟩

theorem ok_of_mapError {φ : Type} {result : Except ε α} {f : ε → φ} {a : α}
    (done : result.mapError f = .ok a) : result = .ok a := by
  cases result with
  | error fault => cases done
  | ok b =>
      cases done
      rfl

variable {body : Fields} {name : String} {read : Value → Except FieldCause α}
  {means : Value → α → Prop} {a : α}

theorem bears_required (reads : ∀ {v a}, read v = .ok a → means v a)
    (done : Field.required body name read = .ok a) : Bears body name means a := by
  unfold Field.required at done
  cases found : Value.field? name body with
  | none => simp [found] at done
  | some v =>
      rw [found] at done
      exact ⟨v, found, reads (ok_of_mapError done)⟩

theorem bearsOr_withDefault (reads : ∀ {v a}, read v = .ok a → means v a) {default : α}
    (done : Field.withDefault body name default read = .ok a) :
    BearsOr body name default means a := by
  unfold Field.withDefault at done
  unfold BearsOr
  cases found : Value.field? name body with
  | none =>
      rw [found] at done
      cases done
      rfl
  | some v =>
      rw [found] at done
      exact reads (ok_of_mapError done)

end

theorem bearsId_id {body : Fields} {id : Option String} (done : Field.id body = .ok id) :
    BearsId body id := bearsOr_withDefault means_optionalText done

theorem means_choice {index : Nat} {v : Value} {c : Choice} (done : Field.choice index v = .ok c) :
    MeansChoice v c := by
  have part {entries : Fields} {name s : String}
      (read : (match Value.field? name entries with
        | none => .error (FieldFault.mk "options" [.member index, .field name] .missing)
        | some v => (Field.choiceText v).mapError fun cause =>
            FieldFault.mk "options" [.member index, .field name] cause) = Except.ok s) :
      Bears entries name MeansChoiceText s := by
    cases found : Value.field? name entries with
    | none => simp [found] at read
    | some v =>
        rw [found] at read
        exact ⟨v, found, means_choiceText (ok_of_mapError read)⟩
  cases v with
  | map entries =>
      obtain ⟨label, first, done⟩ := ok_of_bind done
      obtain ⟨value, second, done⟩ := ok_of_bind done
      cases done
      exact ⟨entries, rfl, part first, part second⟩
  | _ => cases done

theorem means_choices {index : Nat} {items : List Value} {choices : List Choice}
    (done : Field.choices index items = .ok choices) :
    List.Forall₂ MeansChoice items choices := by
  induction items generalizing index choices with
  | nil =>
      cases done
      exact .nil
  | cons v items ih =>
      obtain ⟨first, read, done⟩ := ok_of_bind done
      obtain ⟨others, readOthers, done⟩ := ok_of_bind done
      cases done
      exact .cons (means_choice read) (ih readOthers)

theorem bears_options {body : Fields} {choices : List Choice}
    (done : Field.options body = .ok choices) : Bears body "options" MeansChoices choices := by
  unfold Field.options at done
  cases found : Value.field? "options" body with
  | none => simp [found] at done
  | some v =>
      rw [found] at done
      refine ⟨v, found, ?_⟩
      cases v with
      | list items | tuple items | set items => exact means_choices done
      | _ => cases done

/-! ## Reading nodes -/

section

variable {body : Fields}

theorem portrays_readText {c : TextBlock} (done : TextBlock.read body = .ok c) :
    (Component.text c).Portrays body := by
  obtain ⟨id, readId, done⟩ := ok_of_bind done
  obtain ⟨variant, readVariant, done⟩ := ok_of_bind done
  obtain ⟨value, readValue, done⟩ := ok_of_bind done
  cases done
  exact ⟨bearsId_id readId, bears_required means_word readVariant,
    bears_required means_text readValue⟩

theorem portrays_readButton {c : Button} (done : Button.read body = .ok c) :
    (Component.button c).Portrays body := by
  obtain ⟨id, readId, done⟩ := ok_of_bind done
  obtain ⟨kind, readKind, done⟩ := ok_of_bind done
  obtain ⟨label, readLabel, done⟩ := ok_of_bind done
  obtain ⟨submit, readSubmit, done⟩ := ok_of_bind done
  obtain ⟨disabled, readDisabled, done⟩ := ok_of_bind done
  cases done
  exact ⟨bearsId_id readId, bears_required means_word readKind,
    bears_required means_text readLabel, bearsOr_withDefault means_bool readSubmit,
    bearsOr_withDefault means_bool readDisabled⟩

theorem portrays_readInput {c : Input} (done : Input.read body = .ok c) :
    (Component.control (.input c)).Portrays body := by
  obtain ⟨id, readId, done⟩ := ok_of_bind done
  obtain ⟨label, readLabel, done⟩ := ok_of_bind done
  obtain ⟨name, readName, done⟩ := ok_of_bind done
  obtain ⟨type, readType, done⟩ := ok_of_bind done
  obtain ⟨required, readRequired, done⟩ := ok_of_bind done
  obtain ⟨placeholder, readPlaceholder, done⟩ := ok_of_bind done
  obtain ⟨disabled, readDisabled, done⟩ := ok_of_bind done
  cases done
  exact ⟨bearsId_id readId, bears_required means_text readLabel,
    bears_required means_text readName, bearsOr_withDefault means_word readType,
    bearsOr_withDefault means_bool readRequired,
    bearsOr_withDefault means_optionalText readPlaceholder,
    bearsOr_withDefault means_bool readDisabled⟩

theorem portrays_readCheckbox {c : Checkbox} (done : Checkbox.read body = .ok c) :
    (Component.control (.checkbox c)).Portrays body := by
  obtain ⟨id, readId, done⟩ := ok_of_bind done
  obtain ⟨label, readLabel, done⟩ := ok_of_bind done
  obtain ⟨name, readName, done⟩ := ok_of_bind done
  obtain ⟨checked, readChecked, done⟩ := ok_of_bind done
  obtain ⟨disabled, readDisabled, done⟩ := ok_of_bind done
  cases done
  exact ⟨bearsId_id readId, bears_required means_text readLabel,
    bears_required means_text readName, bearsOr_withDefault means_bool readChecked,
    bearsOr_withDefault means_bool readDisabled⟩

theorem portrays_readRadio {c : Radio} (done : Radio.read body = .ok c) :
    (Component.control (.radio c)).Portrays body := by
  obtain ⟨id, readId, done⟩ := ok_of_bind done
  obtain ⟨label, readLabel, done⟩ := ok_of_bind done
  obtain ⟨name, readName, done⟩ := ok_of_bind done
  obtain ⟨options, readOptions, done⟩ := ok_of_bind done
  obtain ⟨disabled, readDisabled, done⟩ := ok_of_bind done
  cases done
  exact ⟨bearsId_id readId, bears_required means_text readLabel,
    bears_required means_text readName, bears_options readOptions,
    bearsOr_withDefault means_bool readDisabled⟩

theorem portrays_readSelect {c : Select} (done : Select.read body = .ok c) :
    (Component.control (.select c)).Portrays body := by
  obtain ⟨id, readId, done⟩ := ok_of_bind done
  obtain ⟨label, readLabel, done⟩ := ok_of_bind done
  obtain ⟨name, readName, done⟩ := ok_of_bind done
  obtain ⟨options, readOptions, done⟩ := ok_of_bind done
  obtain ⟨placeholder, readPlaceholder, done⟩ := ok_of_bind done
  obtain ⟨multiple, readMultiple, done⟩ := ok_of_bind done
  obtain ⟨disabled, readDisabled, done⟩ := ok_of_bind done
  cases done
  exact ⟨bearsId_id readId, bears_required means_text readLabel,
    bears_required means_text readName, bears_options readOptions,
    bearsOr_withDefault means_optionalText readPlaceholder,
    bearsOr_withDefault means_bool readMultiple, bearsOr_withDefault means_bool readDisabled⟩

theorem portrays_readDivider {c : Divider} (done : Divider.read body = .ok c) :
    (Component.divider c).Portrays body := by
  obtain ⟨id, readId, done⟩ := ok_of_bind done
  obtain ⟨orientation, readOrientation, done⟩ := ok_of_bind done
  cases done
  exact ⟨bearsId_id readId, bearsOr_withDefault means_word readOrientation⟩

theorem portrays_readAlert {c : Alert} (done : Alert.read body = .ok c) :
    (Component.alert c).Portrays body := by
  obtain ⟨id, readId, done⟩ := ok_of_bind done
  obtain ⟨variant, readVariant, done⟩ := ok_of_bind done
  obtain ⟨message, readMessage, done⟩ := ok_of_bind done
  obtain ⟨title, readTitle, done⟩ := ok_of_bind done
  cases done
  exact ⟨bearsId_id readId, bears_required means_word readVariant,
    bears_required means_text readMessage, bearsOr_withDefault means_optionalText readTitle⟩

end

end Wireframe.Document
