import Mathlib
import Wireframe.Number.Read

/-! # Results that are no number

A floating-point value may be a result that is no number. Of two numbers one is below the
other or they are equal, but a result that is no number is neither below nor above anything
(`Wireframe.Number.not_le_iff`, `Wireframe.Number.not_lt_iff`), so it passes every check that
refuses what lies beyond a bound. Digits are never read as such a result: it takes the word
for it (`Wireframe.Number.word_of_isNaN`).
-/

namespace Wireframe.Number

open Float.Model (Format UnpackedFloat)

/-! ## Order -/

/-- Two values can be compared unless one of them is no number. -/
theorem compare_eq_none_iff (a b : UnpackedFloat) :
    a.compare b = none ↔ a.isNaN = true ∨ b.isNaN = true := by
  rcases a with (_ | _) | _ | _ | ⟨_ | _, _, _, _⟩ <;>
    rcases b with (_ | _) | _ | _ | ⟨_ | _, _, _, _⟩ <;>
    simp [UnpackedFloat.compare, UnpackedFloat.isNaN]

theorem isNaN_iff_compare (x y : Float) :
    x.isNaN = true ∨ y.isNaN = true ↔ x.toModel.unpack.compare y.toModel.unpack = none :=
  (compare_eq_none_iff x.toModel.unpack y.toModel.unpack).symm

/-- The other way round, a comparison comes out the other way round. -/
theorem compare_swap (a b : UnpackedFloat) :
    b.compare a = (a.compare b).map Ordering.swap := by
  rcases a with (_ | _) | _ | _ | ⟨_ | _, _, _, _⟩ <;>
    rcases b with (_ | _) | _ | _ | ⟨_ | _, _, _, _⟩ <;>
    first
    | rfl
    | simp [UnpackedFloat.compare, Ordering.swap_then, Int.compare_swap, Nat.compare_swap]

theorem le_iff_compare (x y : Float) :
    x ≤ y ↔ (x.toModel.unpack.compare y.toModel.unpack).any Ordering.isLE = true := by
  change decide (x.toModel ≤ y.toModel) = true ↔ _
  rw [decide_eq_true_iff]
  rfl

theorem lt_iff_compare (x y : Float) :
    x < y ↔ x.toModel.unpack.compare y.toModel.unpack = some .lt := by
  change decide (x.toModel < y.toModel) = true ↔ _
  rw [decide_eq_true_iff]
  exact beq_iff_eq

/-- A number is not at most another if it is above it, or if one of them is no number. -/
theorem not_le_iff {x y : Float} :
    ¬ x ≤ y ↔ y < x ∨ x.isNaN = true ∨ y.isNaN = true := by
  rw [le_iff_compare, lt_iff_compare, compare_swap x.toModel.unpack, isNaN_iff_compare]
  cases x.toModel.unpack.compare y.toModel.unpack with
  | none => simp
  | some order => cases order <;> simp

/-- A number is not below another if it is at least that, or if one of them is no number. -/
theorem not_lt_iff {x y : Float} :
    ¬ x < y ↔ y ≤ x ∨ x.isNaN = true ∨ y.isNaN = true := by
  rw [le_iff_compare, lt_iff_compare, compare_swap x.toModel.unpack, isNaN_iff_compare]
  cases x.toModel.unpack.compare y.toModel.unpack with
  | none => simp
  | some order => cases order <;> simp

/-- Nothing is below a result that is no number. -/
theorem not_lt_of_isNaN {x y : Float} (none : y.isNaN = true) : ¬ x < y :=
  not_lt_iff.mpr (.inr (.inr none))

/-! ## Arithmetic -/

theorem isNaN_unpack_of_exponent {b : BitVec Format.binary64.numBits}
    (finite : UnpackedFloat.unpackExponent b ≠ -BitVec.ofNat _ 1) :
    (UnpackedFloat.unpack Format.binary64 b).isNaN = false := by
  rw [UnpackedFloat.unpack, if_neg finite]
  split_ifs <;> rfl

/-- Storing a value makes no number of it if it is none, and leaves a number one. -/
theorem isNaN_pack (f : UnpackedFloat) :
    (Float.ofModel (Float.Model.pack f)).isNaN = f.isNaN := by
  change (UnpackedFloat.unpack Format.binary64 (UnpackedFloat.pack Format.binary64 f)).isNaN = _
  fun_cases UnpackedFloat.pack Format.binary64 f with
  | case1 => rfl
  | case2 s => cases s <;> rfl
  | case3 s => cases s <;> rfl
  | case4 s m e positive biased infinite => cases s <;> rfl
  | case5 s m e positive bits biased finite normal =>
      -- all ones in the exponent are kept for infinity and for no number
      refine isNaN_unpack_of_exponent ?_
      rw [UnpackedFloat.unpackExponent_packComponents]
      intro same
      have value := congrArg BitVec.toNat same
      have ones : (-BitVec.ofNat Format.binary64.exponentBits 1).toNat = 2047 := rfl
      have width : 2 ^ Format.binary64.exponentBits = 2048 := rfl
      rw [BitVec.toNat_ofNat, ones, width] at value
      rw [width] at finite
      omega
  | case6 s m e positive bits biased finite subnormal =>
      refine isNaN_unpack_of_exponent ?_
      rw [UnpackedFloat.unpackExponent_packComponents]
      decide

theorem isNaN_neg (x : Float) : (-x).isNaN = x.isNaN := by
  refine (isNaN_pack x.toModel.unpack.neg).trans ?_
  change _ = x.toModel.unpack.isNaN
  cases x.toModel.unpack <;> rfl

theorem isNaN_roundWithAccuracy (s : UnpackedFloat.Sign) (m : Nat) (e : Int)
    (accuracy : UnpackedFloat.Accuracy) :
    (UnpackedFloat.roundWithAccuracy Format.binary64 s m e accuracy).isNaN = false := by
  rw [UnpackedFloat.roundWithAccuracy]
  dsimp only
  split_ifs <;> rfl

/-- Whether a value is a number other than zero and finite. -/
def isProper : UnpackedFloat → Bool
  | .finite .. => true
  | _ => false

/-- A number stays one when it is multiplied or divided by a number that is not zero and finite. -/
theorem isNaN_mul_div {f g : UnpackedFloat} (number : f.isNaN = false)
    (proper : isProper g = true) :
    (UnpackedFloat.mul Format.binary64 f g).isNaN = false ∧
      (UnpackedFloat.div Format.binary64 f g).isNaN = false := by
  cases g with
  | finite s m e positive =>
      cases f with
      | notANumber => cases number
      | infinity s => exact ⟨rfl, rfl⟩
      | zero s => exact ⟨rfl, rfl⟩
      | finite s m e positive =>
          exact ⟨isNaN_roundWithAccuracy _ _ _ _, isNaN_roundWithAccuracy _ _ _ _⟩
  | _ => cases proper

theorem isNaN_ofNat (n : Nat) : (UnpackedFloat.ofNat Format.binary64 n).isNaN = false := by
  rw [UnpackedFloat.ofNat, UnpackedFloat.ofInt, UnpackedFloat.normalize]
  split
  · exact isNaN_roundWithAccuracy _ _ _ _
  · rfl
  · exact isNaN_roundWithAccuracy _ _ _ _

theorem isNaN_modelOfScientific (m : Nat) (e : Int) :
    (UnpackedFloat.ofScientific Format.binary64 m e).isNaN = false := by
  rw [UnpackedFloat.ofScientific]
  split_ifs
  · rfl
  · rfl
  · rfl
  · exact (isNaN_mul_div rfl rfl).1
  · exact (isNaN_mul_div rfl rfl).2

/-- The powers of ten that are stored exactly are neither zero nor infinite. -/
theorem isProper_powerOfTen : ∀ e : Fin 23,
    isProper Float.exactlyRepresentablePowersOfTen[e].toModel.unpack = true := by
  decide

/-- A decimal comes out as a number. -/
theorem isNaN_ofScientific (m : Nat) (below : Bool) (e : Nat) :
    (Float.ofScientific m below e).isNaN = false := by
  rw [Float.ofScientific]
  by_cases small : m < 2 ^ 53 ∧ e ≤ 22
  · have whole : m.toUInt64.toFloat.isNaN = false := (isNaN_pack _).trans (isNaN_ofNat _)
    have power := isProper_powerOfTen ⟨e, Nat.lt_succ_of_le small.2⟩
    rw [dif_pos small]
    cases below with
    | true => exact (isNaN_pack _).trans (isNaN_mul_div whole power).2
    | false => exact (isNaN_pack _).trans (isNaN_mul_div whole power).1
  · rw [dif_neg small]
    exact (isNaN_pack _).trans (isNaN_modelOfScientific m _)

/-! ## Reading -/

theorem isNaN_nearestFloat (mantissa : Nat) (exponent : Int) :
    (nearestFloat mantissa exponent).isNaN = false := by
  rw [nearestFloat]
  split_ifs
  · exact isNaN_ofScientific 0 true 1
  · decide
  · exact isNaN_ofScientific 0 true 1
  · exact isNaN_ofScientific mantissa _ _

/-- A whole number stays a number. -/
theorem isNaN_floatOfInt (n : Int) : (floatOfInt n).isNaN = false := by
  rw [floatOfInt]
  split_ifs
  · rw [isNaN_neg, isNaN_nearestFloat]
  · exact isNaN_nearestFloat _ _

/-- Digits are read as a number. -/
theorem isNaN_readDecimal? {s : List Char} {x : Float} (read : readDecimal? s = some x) :
    x.isNaN = false := by
  unfold readDecimal? at read
  dsimp only at read
  split at read
  · split_ifs at read
    cases read
    exact isNaN_nearestFloat _ _
  · cases read

/-- **The word for no number.** What is read from a text is a number, unless the text, without the
blanks around it and its sign, is the word for a result that is none. -/
theorem word_of_isNaN {s : List Char} {x : Float} (read : readFloat? s = some x)
    (none : x.isNaN = true) :
    (splitSign (Text.trim s)).2.map Char.toLower = ['n', 'a', 'n'] := by
  obtain ⟨y, magnitude, rfl⟩ := Option.map_eq_some_iff.mp read
  have unsigned : y.isNaN = true := by
    split_ifs at none
    · rwa [isNaN_neg] at none
    · exact none
  split_ifs at magnitude with infinite word
  · cases magnitude
    have number : (1.0 / 0.0 : Float).isNaN = false := by decide
    rw [number] at unsigned
    cases unsigned
  · rw [beq_iff_eq] at word
    exact String.ofList_injective word
  · rw [isNaN_readDecimal? magnitude] at unsigned
    cases unsigned

end Wireframe.Number
