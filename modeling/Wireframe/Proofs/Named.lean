import Mathlib.Data.List.Nodup
import Wireframe.Document.Vocabulary

/-! # Names are unambiguous

A named set is lawful if it lists all of its members and no two of them go by one name. Then
a name and its member determine each other (`Wireframe.Named.ofName?_eq_some_iff`). The
sets from which a document chooses are lawful.
-/

namespace Wireframe

/-- A named set that lists all of its members, each under a name of its own. -/
class LawfulNamed (α : Type) [Named α] : Prop where
  complete : ∀ a : α, a ∈ Named.all
  distinct : ((Named.all (α := α)).map Named.name).Nodup

namespace Named

theorem name_of_ofName? {α : Type} [Named α] {s : String} {a : α}
    (found : ofName? s = some a) : name a = s := by
  unfold ofName? at found
  have holds := List.find?_some found
  exact beq_iff_eq.mp holds

variable {α : Type} [Named α] [LawfulNamed α]

/-- Members with the same name are the same. -/
theorem name_inj {a b : α} (same : name a = name b) : a = b :=
  List.inj_on_of_nodup_map LawfulNamed.distinct (LawfulNamed.complete a) (LawfulNamed.complete b)
    same

theorem name_eq_iff {a b : α} : name a = name b ↔ a = b := ⟨name_inj, congrArg name⟩

/-- A name leads to the one member that goes by it. -/
theorem ofName?_eq_some_iff {s : String} {a : α} : ofName? s = some a ↔ name a = s := by
  constructor
  · exact name_of_ofName?
  · rintro rfl
    cases found : ofName? (α := α) (name a) with
    | none =>
        have missing := List.find?_eq_none.mp found a (LawfulNamed.complete a)
        exact absurd (beq_self_eq_true (name a)) missing
    | some b => rw [name_inj (name_of_ofName? found)]

end Named

namespace Document

instance : LawfulNamed TextVariant := ⟨fun a => by cases a <;> decide, by decide⟩

instance : LawfulNamed ButtonKind := ⟨fun a => by cases a <;> decide, by decide⟩

instance : LawfulNamed InputType := ⟨fun a => by cases a <;> decide, by decide⟩

instance : LawfulNamed Severity := ⟨fun a => by cases a <;> decide, by decide⟩

instance : LawfulNamed Orientation := ⟨fun a => by cases a <;> decide, by decide⟩

instance : LawfulNamed Layout := ⟨fun a => by cases a <;> decide, by decide⟩

/-- Kinds with the same name are the same. -/
theorem Kind.name_inj {k l : Kind} (same : k.name = l.name) : k = l := by
  cases k <;> cases l <;> simp [Kind.name] at same <;> rfl

end Document

end Wireframe
