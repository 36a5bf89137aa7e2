import Wireframe.Number.Text
import Wireframe.Proofs.Text.Quoted

/-! # Decimal digits of whole numbers

A whole number is written in decimal digits without a zero in front, and these digits denote
it (`Wireframe.Number.numberOfDigits_repr`).
-/

namespace Wireframe.Number

/-- The last digit of a number, and the digits in front of it. -/
theorem toList_repr (n : Nat) :
    n.repr.toList = (if n < 10 then [] else (n / 10).repr.toList) ++ [Nat.digitChar (n % 10)] := by
  split_ifs with small
  · rw [Nat.repr_of_lt small, Nat.mod_eq_of_lt small]
    simp
  · rw [Nat.repr_of_ge (Nat.le_of_not_lt small)]
    simp

theorem digitChar_isAsciiDigit : ∀ d < 10, Text.isAsciiDigit (Nat.digitChar d) = true := by decide

theorem digitValue?_digitChar : ∀ d < 10, Text.digitValue? 10 (Nat.digitChar d) = some d := by
  decide

theorem eq_zero_of_digitChar : ∀ d < 10, Nat.digitChar d = '0' → d = 0 := by decide

/-- A number is written in decimal digits. -/
theorem isAsciiDigit_repr (n : Nat) : ∀ c ∈ n.repr.toList, Text.isAsciiDigit c = true := by
  induction n using Nat.strongRecOn with
  | ind n ih =>
      have last := digitChar_isAsciiDigit (n % 10) (Nat.mod_lt n (by decide))
      rw [toList_repr, List.forall_mem_append, List.forall_mem_singleton]
      refine ⟨?_, last⟩
      split_ifs with small
      · exact nofun
      · exact ih (n / 10) (by omega)

/-- The digits of a number denote it. -/
theorem numberOfDigits_repr (n : Nat) : Text.numberOfDigits 10 n.repr.toList = n := by
  induction n using Nat.strongRecOn with
  | ind n ih =>
      have last := digitValue?_digitChar (n % 10) (Nat.mod_lt n (by decide))
      rw [toList_repr, Text.numberOfDigits_concat, last, Option.getD_some]
      split_ifs with small
      · rw [Nat.mod_eq_of_lt small]
        exact Nat.zero_add n
      · rw [ih (n / 10) (by omega), Nat.mul_comm]
        exact Nat.div_add_mod n 10

/-- The first digit of a number is zero only if the number is. -/
theorem repr_front (n : Nat) :
    ∃ c rest, n.repr.toList = c :: rest ∧ (c = '0' → n = 0) := by
  induction n using Nat.strongRecOn with
  | ind n ih =>
      rw [toList_repr]
      split_ifs with small
      · refine ⟨_, [], rfl, fun zero => ?_⟩
        rw [Nat.mod_eq_of_lt small] at zero
        exact eq_zero_of_digitChar n small zero
      · obtain ⟨c, rest, front, zero⟩ := ih (n / 10) (by omega)
        refine ⟨c, rest ++ [Nat.digitChar (n % 10)], by rw [front]; rfl, fun none => ?_⟩
        have tens := zero none
        omega

end Wireframe.Number
