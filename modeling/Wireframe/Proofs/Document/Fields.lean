import Wireframe.Document.Build
import Wireframe.Proofs.Document.Contract
import Wireframe.Proofs.Named

/-! # Fields that can be read

A field is read exactly where its rule in the contract holds, and the fields of a node are
read exactly where all of its rules hold. Whether a field can be read does not depend on
what the fields before it have been read as, so reading is a conjunction.
-/

namespace Wireframe.Document

open Contract

/-- A result that is no fault. -/
def Succeeds {ε α : Type} (result : Except ε α) : Prop := ∃ a, result = .ok a

section

variable {ε φ α β : Type}

@[simp] theorem succeeds_ok (a : α) : Succeeds (.ok a : Except ε α) := ⟨a, rfl⟩

@[simp] theorem succeeds_pure (a : α) : Succeeds (pure a : Except ε α) := ⟨a, rfl⟩

@[simp] theorem not_succeeds_error (fault : ε) : ¬ Succeeds (.error fault : Except ε α) := by
  rintro ⟨a, same⟩
  cases same

@[simp] theorem succeeds_mapError (result : Except ε α) (f : ε → φ) :
    Succeeds (result.mapError f) ↔ Succeeds result := by
  cases result <;> simp [Except.mapError]

@[simp] theorem succeeds_map (result : Except ε α) (f : α → β) :
    Succeeds (f <$> result) ↔ Succeeds result := by
  cases result <;> simp

/-- If what follows a result succeeds for every value or for none, then the two parts have to
succeed on their own. -/
theorem succeeds_bind {result : Except ε α} {next : α → Except ε β} {q : Prop}
    (following : ∀ a, Succeeds (next a) ↔ q) :
    Succeeds (result >>= next) ↔ Succeeds result ∧ q := by
  cases result with
  | error fault => simp [bind, Except.bind]
  | ok a => simpa [bind, Except.bind] using following a

/-- Wrapping up what has been read cannot fail. -/
theorem succeeds_bind_pure (result : Except ε α) (f : α → β) :
    Succeeds (result >>= fun a => pure (f a)) ↔ Succeeds result := by
  cases result <;> simp [bind, Except.bind]

end

/-! ## Values -/

theorem succeeds_ofBytes (b : List UInt8) :
    Succeeds (Field.ofBytes b) ↔ ∃ chars, Text.Utf8.decode b = .ok chars := by
  unfold Field.ofBytes
  cases Text.Utf8.decode b <;> simp

theorem succeeds_text (v : Value) : Succeeds (Field.text v) ↔ IsText v := by
  cases v with
  | int n =>
      simp only [Field.text, IsText]
      split <;> simp_all
  | _ => simp [Field.text, IsText, succeeds_ofBytes]

theorem succeeds_optionalText (v : Value) : Succeeds (Field.optionalText v) ↔ IsOptionalText v := by
  cases v <;> simp [Field.optionalText, IsOptionalText, succeeds_text]

theorem succeeds_choiceText (v : Value) : Succeeds (Field.choiceText v) ↔ IsChoiceText v := by
  cases v <;> simp [Field.choiceText, IsChoiceText, succeeds_text]

theorem succeeds_ofBoolWord (chars : List Char) :
    Succeeds (Field.ofBoolWord chars) ↔ IsTruthWord chars := by
  have words : truthWords = Field.boolWords.map Prod.fst := rfl
  unfold Field.ofBoolWord IsTruthWord
  rw [words]
  cases found : Field.boolWords.lookup (String.ofList (chars.map Char.toLower)) with
  | some b =>
      obtain ⟨before, after, listed, _⟩ := List.lookup_eq_some_iff.mp found
      simp [listed]
  | none =>
      have missing := List.lookup_eq_none_iff.mp found
      simp only [not_succeeds_error, false_iff, List.mem_map, not_exists, not_and]
      intro word member same
      have differs := missing word member
      simp [same] at differs

theorem succeeds_ofBoolNumber (least n : Int) :
    Succeeds (Field.ofBoolNumber least n) ↔ n = 0 ∨ n = 1 := by
  unfold Field.ofBoolNumber
  by_cases zero : n = 0
  · simp [zero]
  by_cases one : n = 1
  · simp [one]
  simp only [zero, one, beq_iff_eq, ↓reduceIte, or_self, iff_false]
  split <;> exact not_succeeds_error _

theorem succeeds_bool (v : Value) : Succeeds (Field.bool v) ↔ IsTruth v := by
  cases v with
  | text s => exact succeeds_ofBoolWord s.toList
  | int n => exact succeeds_ofBoolNumber _ n
  | bytes b =>
      simp only [Field.bool, IsTruth]
      cases Text.Utf8.decode b <;> simp [succeeds_ofBoolWord]
  | float x =>
      simp only [Field.bool, IsTruth]
      cases Number.wholeOfFloat? x <;> simp [succeeds_ofBoolNumber]
  | _ => simp [Field.bool, IsTruth]

theorem succeeds_word (α : Type) [Named α] [LawfulNamed α] (v : Value) :
    Succeeds (Field.word α v) ↔ IsWord α v := by
  have named (s : String) : (∃ a : α, Named.name a = s) ↔ ∃ a : α, Named.ofName? s = some a := by
    simp only [Named.ofName?_eq_some_iff]
  cases v with
  | text s =>
      simp only [Field.word, IsWord, named]
      cases Named.ofName? (α := α) s <;> simp
  | bytes b =>
      simp only [Field.word, IsWord, named]
      cases Text.Utf8.decode b with
      | ok chars =>
          simp only [Except.ok.injEq, exists_eq_left']
          cases Named.ofName? (α := α) (String.ofList chars) <;> simp
      | error failure => simp
  | _ => simp [Field.word, IsWord]

/-! ## Fields -/

section

variable {α : Type} {read : Value → Except FieldCause α} {admits : Value → Prop}

theorem succeeds_required (reads : ∀ v, Succeeds (read v) ↔ admits v) (body : Fields)
    (name : String) :
    Succeeds (Field.required body name read) ↔ (needs name admits).Holds body := by
  unfold Field.required Rule.Holds needs
  cases Value.field? name body <;> simp [reads]

theorem succeeds_withDefault (reads : ∀ v, Succeeds (read v) ↔ admits v) (body : Fields)
    (name : String) (default : α) :
    Succeeds (Field.withDefault body name default read) ↔ (allows name admits).Holds body := by
  unfold Field.withDefault Rule.Holds allows
  cases Value.field? name body <;> simp [reads]

end

theorem succeeds_id (body : Fields) :
    Succeeds (Field.id body) ↔ (allows "id" IsOptionalText).Holds body :=
  succeeds_withDefault succeeds_optionalText body "id" none

theorem succeeds_choice (index : Nat) (v : Value) :
    Succeeds (Field.choice index v) ↔ IsChoice v := by
  cases v with
  | map entries =>
      have both : IsChoice (.map entries) ↔ (needs "label" IsChoiceText).Holds entries ∧
          (needs "value" IsChoiceText).Holds entries := by
        simp [IsChoice]
      rw [both, Field.choice]
      refine (succeeds_bind fun _ => succeeds_bind_pure _ _).trans (and_congr ?_ ?_)
      · simp only [Rule.Holds, needs]
        cases Value.field? "label" entries <;> simp [succeeds_choiceText]
      · simp only [Rule.Holds, needs]
        cases Value.field? "value" entries <;> simp [succeeds_choiceText]
  | _ => simp [Field.choice, IsChoice]

theorem succeeds_choices (index : Nat) (items : List Value) :
    Succeeds (Field.choices index items) ↔ ∀ v ∈ items, IsChoice v := by
  induction items generalizing index with
  | nil => simp [Field.choices]
  | cons v items ih =>
      rw [Field.choices, List.forall_mem_cons, ← succeeds_choice index v, ← ih (index + 1)]
      exact succeeds_bind fun _ => succeeds_bind_pure _ _

theorem succeeds_options (body : Fields) :
    Succeeds (Field.options body) ↔ (needs "options" IsChoices).Holds body := by
  unfold Field.options Rule.Holds needs
  cases Value.field? "options" body with
  | none => simp
  | some v => cases v <;> simp [IsChoices, succeeds_choices]

/-! ## Nodes -/

theorem succeeds_readText (body : Fields) :
    Succeeds (TextBlock.read body) ↔ ∀ rule ∈ rules .text, rule.Holds body := by
  simp only [rules, List.forall_mem_cons, List.not_mem_nil, false_imp_iff, implies_true, and_true]
  rw [← succeeds_id, ← succeeds_required (succeeds_word TextVariant),
    ← succeeds_required succeeds_text]
  exact succeeds_bind fun _ => succeeds_bind fun _ => succeeds_bind_pure _ _

theorem succeeds_readButton (body : Fields) :
    Succeeds (Button.read body) ↔ ∀ rule ∈ rules .button, rule.Holds body := by
  simp only [rules, List.forall_mem_cons, List.not_mem_nil, false_imp_iff, implies_true, and_true]
  rw [← succeeds_id, ← succeeds_required (succeeds_word ButtonKind),
    ← succeeds_required succeeds_text, ← succeeds_withDefault succeeds_bool body "submit" false,
    ← succeeds_withDefault succeeds_bool body "disabled" false]
  exact succeeds_bind fun _ => succeeds_bind fun _ => succeeds_bind fun _ => succeeds_bind fun _ =>
    succeeds_bind_pure _ _

theorem succeeds_readInput (body : Fields) :
    Succeeds (Input.read body) ↔ ∀ rule ∈ rules .input, rule.Holds body := by
  simp only [rules, List.forall_mem_cons, List.not_mem_nil, false_imp_iff, implies_true, and_true]
  rw [← succeeds_id, ← succeeds_required succeeds_text, ← succeeds_required succeeds_text,
    ← succeeds_withDefault (succeeds_word InputType) body "type" InputType.text,
    ← succeeds_withDefault succeeds_bool body "required" false,
    ← succeeds_withDefault succeeds_optionalText body "placeholder" none,
    ← succeeds_withDefault succeeds_bool body "disabled" false]
  exact succeeds_bind fun _ => succeeds_bind fun _ => succeeds_bind fun _ => succeeds_bind fun _ =>
    succeeds_bind fun _ => succeeds_bind fun _ => succeeds_bind_pure _ _

theorem succeeds_readCheckbox (body : Fields) :
    Succeeds (Checkbox.read body) ↔ ∀ rule ∈ rules .checkbox, rule.Holds body := by
  simp only [rules, List.forall_mem_cons, List.not_mem_nil, false_imp_iff, implies_true, and_true]
  rw [← succeeds_id, ← succeeds_required succeeds_text, ← succeeds_required succeeds_text,
    ← succeeds_withDefault succeeds_bool body "checked" false,
    ← succeeds_withDefault succeeds_bool body "disabled" false]
  exact succeeds_bind fun _ => succeeds_bind fun _ => succeeds_bind fun _ => succeeds_bind fun _ =>
    succeeds_bind_pure _ _

theorem succeeds_readRadio (body : Fields) :
    Succeeds (Radio.read body) ↔ ∀ rule ∈ rules .radio, rule.Holds body := by
  simp only [rules, List.forall_mem_cons, List.not_mem_nil, false_imp_iff, implies_true, and_true]
  rw [← succeeds_id, ← succeeds_required succeeds_text, ← succeeds_required succeeds_text,
    ← succeeds_options, ← succeeds_withDefault succeeds_bool body "disabled" false]
  exact succeeds_bind fun _ => succeeds_bind fun _ => succeeds_bind fun _ => succeeds_bind fun _ =>
    succeeds_bind_pure _ _

theorem succeeds_readSelect (body : Fields) :
    Succeeds (Select.read body) ↔ ∀ rule ∈ rules .select, rule.Holds body := by
  simp only [rules, List.forall_mem_cons, List.not_mem_nil, false_imp_iff, implies_true, and_true]
  rw [← succeeds_id, ← succeeds_required succeeds_text, ← succeeds_required succeeds_text,
    ← succeeds_options, ← succeeds_withDefault succeeds_optionalText body "placeholder" none,
    ← succeeds_withDefault succeeds_bool body "multiple" false,
    ← succeeds_withDefault succeeds_bool body "disabled" false]
  exact succeeds_bind fun _ => succeeds_bind fun _ => succeeds_bind fun _ => succeeds_bind fun _ =>
    succeeds_bind fun _ => succeeds_bind fun _ => succeeds_bind_pure _ _

theorem succeeds_readDivider (body : Fields) :
    Succeeds (Divider.read body) ↔ ∀ rule ∈ rules .divider, rule.Holds body := by
  simp only [rules, List.forall_mem_cons, List.not_mem_nil, false_imp_iff, implies_true, and_true]
  rw [← succeeds_id,
    ← succeeds_withDefault (succeeds_word Orientation) body "orientation" Orientation.horizontal]
  exact succeeds_bind fun _ => succeeds_bind_pure _ _

theorem succeeds_readAlert (body : Fields) :
    Succeeds (Alert.read body) ↔ ∀ rule ∈ rules .alert, rule.Holds body := by
  simp only [rules, List.forall_mem_cons, List.not_mem_nil, false_imp_iff, implies_true, and_true]
  rw [← succeeds_id, ← succeeds_required (succeeds_word Severity),
    ← succeeds_required succeeds_text,
    ← succeeds_withDefault succeeds_optionalText body "title" none]
  exact succeeds_bind fun _ => succeeds_bind fun _ => succeeds_bind fun _ => succeeds_bind_pure _ _

end Wireframe.Document
