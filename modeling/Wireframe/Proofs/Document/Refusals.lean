import Wireframe.Proofs.Document.Places

/-! # Values that are refused

A value that meets the contract has a document, and one that does not is refused for what it
is: no mapping, or a mapping that breaks a rule
(`Wireframe.Document.accepts_iff_meets`). There is one way out of this. An id is written
before it is looked at as a field, and a number of too many digits cannot be written, so that
nothing is said about the value at all.
-/

namespace Wireframe.Document

/-- A mapping that does not meet the contract breaks a rule, unless it holds a number that cannot
be written. -/
theorem refused_of_not_meets {entries : Fields} (fails : ¬ Contract.Meets (.map entries)) :
    (∃ fault, ofValue (.map entries) = .error (.schema fault)) ∨
      ofValue (.map entries) = .error (.scalar .overlong) ∧
        (Value.map entries).isOverlong = true := by
  rw [← succeeds_build] at fails
  cases built : build entries with
  | ok d => exact absurd ⟨d, built⟩ fails
  | error fault =>
      rw [ofValue, built]
      obtain ⟨broken, rfl⟩ | ⟨rfl, overlong⟩ := fault_of_build built
      · exact .inl ⟨broken, rfl⟩
      · exact .inr ⟨rfl, overlong⟩

/-- **Exactly the documents are accepted.** A document can be made of a value if and only if the
value meets the contract. Otherwise a mapping breaks a rule of the schema, unless it holds a number
that cannot be written, and any other value is no document at all. -/
theorem accepts_iff_meets (v : Value) :
    ((∃ d, ofValue v = .ok d) ↔ Contract.Meets v) ∧
      (¬ Contract.Meets v →
        match v with
        | .map _ =>
          (∃ fault, ofValue v = .error (.schema fault)) ∨
            ofValue v = .error (.scalar .overlong) ∧ v.isOverlong = true
        | _ => ofValue v = .error (.malformed (.notMapping v.describe))) := by
  cases v with
  | map entries => exact ⟨succeeds_build entries, refused_of_not_meets⟩
  | _ =>
      refine ⟨iff_of_false ?_ ?_, fun _ => rfl⟩
      · rintro ⟨d, same⟩
        cases same
      · rintro ⟨entries, _, _, same, _⟩
        cases same

/-- An id of too many digits is neither taken nor refused by the schema. -/
theorem unrefused_of_overlong_id :
    ¬ ∀ v : Value, ¬ Contract.Meets v →
      (∃ m, ofValue v = .error (.malformed m)) ∨ ∃ fault, ofValue v = .error (.schema fault) := by
  intro every
  let v : Value := .map [(.text "page", .map [(.text "id", .int (10 ^ 4300 : Nat))])]
  have stopped : error? (ofValue v) = some (.scalar .overlong) := by decide +kernel
  have refused : ofValue v = .error (.scalar .overlong) := eq_of_error? stopped
  have fails : ¬ Contract.Meets v := by
    intro meets
    obtain ⟨d, built⟩ := (succeeds_build _).mpr meets
    cases refused.symm.trans built
  obtain ⟨m, malformed⟩ | ⟨fault, broken⟩ := every v fails
  · cases refused.symm.trans malformed
  · cases refused.symm.trans broken

end Wireframe.Document
