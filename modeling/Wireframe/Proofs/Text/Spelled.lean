import Wireframe.Proofs.Text.Quoted
import Wireframe.Text.Spelled

/-! # Spelled-out bytes are read back

Reading the literal of some bytes gives the bytes back, one by one, so different bytes have
different literals (`Wireframe.Text.Spelled.encodeBytes_inj`).
-/

namespace Wireframe.Text.Spelled

/-- The byte that an escape stands for, read behind its backslash, with what follows it. -/
def escaped? : List Char → Option (UInt8 × List Char)
  | 'n' :: rest => some (10, rest)
  | 'r' :: rest => some (13, rest)
  | 't' :: rest => some (9, rest)
  | 'x' :: a :: b :: rest => some (UInt8.ofNat (numberOfDigits 16 [a, b]), rest)
  | c :: rest => some (UInt8.ofNat c.toNat, rest)
  | [] => none

/-- The byte that a literal begins with behind its quote, with what follows it. -/
def byteAtFront? : List Char → Option (UInt8 × List Char)
  | '\\' :: rest => escaped? rest
  | c :: rest => some (UInt8.ofNat c.toNat, rest)
  | [] => none

/-- The marks between which a literal stands. -/
def IsQuote (quote : Char) : Prop := quote = '\'' ∨ quote = '"'

theorem isQuote_quoteFor (s : List Char) : IsQuote (quoteFor s) := by
  unfold quoteFor
  split
  · exact .inr rfl
  · exact .inl rfl

theorem byteAtFront?_hexText {n : Nat} (small : n < 256) (rest : List Char) :
    byteAtFront? ('\\' :: 'x' :: hexText 2 n ++ rest) = some (UInt8.ofNat n, rest) := by
  have digits := numberOfDigits_hexText 2 n
  rw [Nat.mod_eq_of_lt (show n < 16 ^ 2 from small)] at digits
  have read : byteAtFront? ('\\' :: 'x' :: hexText 2 n ++ rest) =
      some (UInt8.ofNat (numberOfDigits 16 (hexText 2 n)), rest) := rfl
  rw [read, digits]

theorem byteAtFront?_encodeChar {quote c : Char} (marks : IsQuote quote) (small : c.toNat < 256)
    (rest : List Char) :
    byteAtFront? (encodeChar quote c ++ rest) = some (UInt8.ofNat c.toNat, rest) := by
  unfold encodeChar
  split_ifs with special feed back tab glyph
  · simp only [Bool.or_eq_true, beq_iff_eq] at special
    obtain rfl | rfl := special
    · obtain rfl | rfl := marks <;> rfl
    · rfl
  · rw [beq_iff_eq.mp feed]
    rfl
  · rw [beq_iff_eq.mp back]
    rfl
  · rw [beq_iff_eq.mp tab]
    rfl
  · simp only [Bool.or_eq_true, beq_iff_eq, not_or] at special
    rw [List.singleton_append, byteAtFront?]
    exact special.2
  · rw [codeEscape, if_pos (Nat.le_of_lt_succ small)]
    exact byteAtFront?_hexText small rest

/-- A byte is read back from the way in which it is written. -/
theorem byteAtFront?_encodeByte {quote : Char} (marks : IsQuote quote) (b : UInt8)
    (rest : List Char) : byteAtFront? (encodeByte quote b ++ rest) = some (b, rest) := by
  unfold encodeByte
  split_ifs with ascii
  · have valid : b.toNat.isValidChar := .inl (by omega)
    have code : (Char.ofNat b.toNat).toNat = b.toNat := by
      rw [Char.ofNat, dif_pos valid]
      rfl
    have read := byteAtFront?_encodeChar marks (code ▸ b.toNat_lt) rest
    rwa [code, UInt8.ofNat_toNat] at read
  · have read := byteAtFront?_hexText b.toNat_lt rest
    rwa [UInt8.ofNat_toNat] at read

/-- No character is written with the quote in front. -/
theorem encodeChar_append_ne {quote : Char} (marks : IsQuote quote) (c : Char)
    (rest more : List Char) : encodeChar quote c ++ rest ≠ quote :: more := by
  have slash : '\\' ≠ quote := by
    obtain rfl | rfl := marks <;> decide
  intro same
  unfold encodeChar codeEscape at same
  split_ifs at same with special <;>
    simp only [List.cons_append, List.nil_append, List.cons.injEq, slash, false_and] at same
  simp only [same.1, BEq.rfl, Bool.true_or, not_true_eq_false] at special

/-- No byte is written with the quote in front. -/
theorem encodeByte_append_ne {quote : Char} (marks : IsQuote quote) (b : UInt8)
    (rest more : List Char) : encodeByte quote b ++ rest ≠ quote :: more := by
  unfold encodeByte
  split_ifs
  · exact encodeChar_append_ne marks _ rest more
  · intro same
    obtain rfl | rfl := marks <;> cases same

/-- **Literals of bytes.** Different bytes have different literals. -/
theorem encodeBytes_inj {a b : List UInt8} (same : encodeBytes a = encodeBytes b) : a = b := by
  unfold encodeBytes at same
  simp only [List.cons_append, List.cons.injEq, true_and] at same
  obtain ⟨quote, behind⟩ := same
  rw [← quote] at behind
  have marks := isQuote_quoteFor (a.map fun b => Char.ofNat b.toNat)
  exact (flatMap_append_inj (byteAtFront?_encodeByte marks) (encodeByte_append_ne marks) behind).1

end Wireframe.Text.Spelled
