import Mathlib.Algebra.Group.Nat.Defs
import Mathlib.Tactic.SplitIfs
import Wireframe.Text.Quoted

/-! # Quoted texts are read back

Reading a quoted text character by character gives the text back, and stops at the quote
that ends it. So a quoted text shows both what it quotes and where it ends
(`Wireframe.Text.Quoted.encode_append_inj`).
-/

namespace Wireframe.Text

/-! ## Digits -/

theorem digitValue?_hexDigit : ∀ n < 16, digitValue? 16 (hexDigit n) = some n := by decide

theorem numberOfDigits_concat (base : Nat) (s : List Char) (c : Char) :
    numberOfDigits base (s ++ [c]) =
      numberOfDigits base s * base + (digitValue? base c).getD 0 := by
  rw [numberOfDigits, List.foldl_append]
  rfl

/-- The digits of a number denote it, up to the digits that were cut off. -/
theorem numberOfDigits_hexText (width n : Nat) :
    numberOfDigits 16 (hexText width n) = n % 16 ^ width := by
  induction width generalizing n with
  | zero => simp [hexText, numberOfDigits, Nat.mod_one]
  | succ width ih =>
      have digit := digitValue?_hexDigit (n % 16) (Nat.mod_lt n (by decide))
      rw [hexText, numberOfDigits_concat, ih, digit, Option.getD_some, Nat.pow_succ',
        Nat.mod_mul, Nat.mul_comm 16, Nat.add_comm]

/-! ## Items up to a stop -/

/-- If each item is read back from the way in which it is written, and none is written with the stop
in front, then items up to a stop are written in one way. -/
theorem flatMap_append_inj {α : Type} {write : α → List Char}
    {atFront? : List Char → Option (α × List Char)} {stop : Char}
    (read : ∀ a rest, atFront? (write a ++ rest) = some (a, rest))
    (ahead : ∀ a rest more, write a ++ rest ≠ stop :: more) {s t : List α} {rest more : List Char}
    (same : s.flatMap write ++ stop :: rest = t.flatMap write ++ stop :: more) :
    s = t ∧ rest = more := by
  induction s generalizing t with
  | nil =>
      cases t with
      | nil => exact ⟨rfl, List.tail_eq_of_cons_eq same⟩
      | cons d t =>
          rw [List.flatMap_cons, List.append_assoc] at same
          exact absurd same.symm (ahead d _ _)
  | cons c s ih =>
      rw [List.flatMap_cons, List.append_assoc] at same
      cases t with
      | nil => exact absurd same (ahead c _ _)
      | cons d t =>
          rw [List.flatMap_cons, List.append_assoc] at same
          have front := congrArg atFront? same
          rw [read, read] at front
          obtain ⟨rfl, behind⟩ := Prod.mk.inj (Option.some.inj front)
          obtain ⟨rfl, rfl⟩ := ih behind
          exact ⟨rfl, rfl⟩

namespace Quoted

/-! ## Characters -/

/-- The character that an escape stands for, read behind its backslash, with what follows it. -/
def escaped? : List Char → Option (Char × List Char)
  | 'n' :: rest => some ('\n', rest)
  | 'r' :: rest => some ('\r', rest)
  | 't' :: rest => some ('\t', rest)
  | 'b' :: rest => some (Char.ofNat 8, rest)
  | 'f' :: rest => some (Char.ofNat 12, rest)
  | 'u' :: a :: b :: c :: d :: rest => some (Char.ofNat (numberOfDigits 16 [a, b, c, d]), rest)
  | c :: rest => some (c, rest)
  | [] => none

/-- The character that a quoted text begins with, with what follows it. -/
def characterAtFront? : List Char → Option (Char × List Char)
  | '\\' :: rest => escaped? rest
  | c :: rest => some (c, rest)
  | [] => none

/-- A character is read back from the way in which it is written. -/
theorem characterAtFront?_encodeChar (c : Char) (rest : List Char) :
    characterAtFront? (encodeChar c ++ rest) = some (c, rest) := by
  have known {n : Nat} (same : c.toNat = n) : Char.ofNat n = c := by
    rw [← same, Char.ofNat_toNat]
  unfold encodeChar
  split_ifs with quote slash feed back tab bell form control
  · rw [beq_iff_eq] at quote
    rw [quote]
    rfl
  · rw [beq_iff_eq] at slash
    rw [slash]
    rfl
  · rw [beq_iff_eq] at feed
    rw [feed]
    rfl
  · rw [beq_iff_eq] at back
    rw [back]
    rfl
  · rw [beq_iff_eq] at tab
    rw [tab]
    rfl
  · rw [beq_iff_eq] at bell
    rw [← known bell]
    rfl
  · rw [beq_iff_eq] at form
    rw [← known form]
    rfl
  · have digits := numberOfDigits_hexText 4 c.toNat
    have small : c.toNat % 16 ^ 4 = c.toNat := Nat.mod_eq_of_lt (by omega)
    rw [small] at digits
    have read : escaped? ('u' :: (hexText 4 c.toNat ++ rest)) =
        some (Char.ofNat (numberOfDigits 16 (hexText 4 c.toNat)), rest) := rfl
    rw [unitEscape]
    exact read.trans (by rw [digits, Char.ofNat_toNat])
  · rw [beq_iff_eq] at slash
    simp [characterAtFront?]

/-- No character is written with a quote in front. -/
theorem encodeChar_append_ne (c : Char) (rest more : List Char) :
    encodeChar c ++ rest ≠ '"' :: more := by
  intro same
  unfold encodeChar at same
  split_ifs at same with quote <;> simp [unitEscape] at same quote
  exact quote same.1

/-! ## Texts -/

/-- Two quoted texts, read from behind their first quote, are the same only if the texts are and
what follows them is. -/
theorem flatMap_encodeChar_inj (s t rest more : List Char)
    (same : s.flatMap encodeChar ++ '"' :: rest = t.flatMap encodeChar ++ '"' :: more) :
    s = t ∧ rest = more :=
  flatMap_append_inj characterAtFront?_encodeChar encodeChar_append_ne same

/-- **Quoted texts end where they end.** Two quoted texts with something behind them are the same
only if the texts are and what is behind them is. -/
theorem encode_append_inj {s t rest more : List Char}
    (same : encode s ++ rest = encode t ++ more) : s = t ∧ rest = more := by
  simp only [encode, List.cons_append, List.append_assoc, List.nil_append, List.cons.injEq,
    true_and] at same
  exact flatMap_encodeChar_inj s t rest more same

end Quoted

end Wireframe.Text
