import Wireframe.Value

/-! # Code points of texts

A text has no halves of surrogate pairs among its code points, and it is what is shown for
them. So a string that holds halves has other code points than any text.
-/

namespace Wireframe

namespace Text

/-- No character is half of a surrogate pair. -/
theorem isHalf_toNat (c : Char) : isHalf c.toNat = false := by
  have valid : c.toNat < 0xD800 ∨ (0xDFFF < c.toNat ∧ c.toNat < 0x110000) := c.valid
  simp only [isHalf, Bool.and_eq_false_iff, decide_eq_false_iff_not]
  omega

theorem charOfCode_toNat (c : Char) : charOfCode c.toNat = c := by
  rw [charOfCode, isHalf_toNat]
  exact Char.ofNat_toNat c

@[simp] theorem hasHalf_codes (s : String) : hasHalf (codes s) = false := by
  simp [hasHalf, codes, isHalf_toNat]

@[simp] theorem ofCodes_codes (s : String) : ofCodes (codes s) = s := by
  have same : charOfCode ∘ Char.toNat = id := funext charOfCode_toNat
  rw [ofCodes, codes, List.map_map, same, List.map_id, String.ofList_toList]

end Text

namespace Value

/-- The text of a value is what is shown for its code points. -/
theorem ofCodes_codes (v : Value) : Text.ofCodes v.codes = v.toText := by
  cases v with
  | halved codes => rfl
  | _ => exact Text.ofCodes_codes _

/-- Values that are not distinguished by their code points are shown alike. -/
theorem toText_of_codes {v w : Value} (same : v.codes = w.codes) : v.toText = w.toText := by
  rw [← ofCodes_codes, same, ofCodes_codes]

theorem codes_of_not_halved {v : Value} (plain : v.isHalved = false) :
    v.codes = Text.codes v.toText := by
  cases v with
  | halved codes => cases plain
  | _ => rfl

/-- Values without halves of surrogate pairs have the same code points if they are shown alike. -/
theorem codes_eq_iff {v w : Value} (first : v.isHalved = false) (second : w.isHalved = false) :
    v.codes = w.codes ↔ v.toText = w.toText := by
  refine ⟨toText_of_codes, fun same => ?_⟩
  rw [codes_of_not_halved first, codes_of_not_halved second, same]

end Value

end Wireframe
