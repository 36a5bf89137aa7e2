import Wireframe.Json.Read
import Wireframe.Proofs.Text.Quoted
import Wireframe.Proofs.Text.Utf8

/-! # Written strings are read back

Reading a quoted string gives back what it quotes, whatever follows it, both when characters
outside ASCII are kept (`Wireframe.Json.Read.string_quoted`) and when they are written as their
UTF-16 units (`Wireframe.Json.Read.string_quotedAscii`).
-/

namespace Wireframe

namespace Json

open Read
open Text.Utf8 (bytes bytes_append)

namespace Read

/-- A character of ASCII is one byte. -/
theorem bytes_cons {c : Char} (ascii : c.toNat ≤ 127) (s : List Char) :
    bytes (c :: s) = byte c :: bytes s := by
  rw [bytes, List.flatMap_cons, String.utf8EncodeChar]
  exact congrArg (· ++ _) (if_pos ascii)

/-- Bytes within a string that stand for some content, whatever follows them. -/
def Spells (written content : List UInt8) : Prop :=
  ∀ (rest more behind : List UInt8) (enough : Nat),
    (∀ fuel, enough ≤ fuel → stringBytes fuel rest = .ok (more, behind)) →
    ∀ fuel, enough + written.length ≤ fuel →
      stringBytes fuel (written ++ rest) = .ok (content ++ more, behind)

theorem spells_nil : Spells [] [] := fun _ _ _ _ read => read

theorem Spells.append {written content others more : List UInt8} (first : Spells written content)
    (second : Spells others more) : Spells (written ++ others) (content ++ more) := by
  intro rest last behind enough read fuel steps
  rw [List.append_assoc, List.append_assoc]
  refine first _ _ behind _ (second rest last behind enough read) fuel ?_
  rw [List.length_append] at steps
  omega

/-- A byte that stands for itself. -/
def IsPlain (b : UInt8) : Prop := b ≠ byte '"' ∧ ¬ b < 0x20 ∧ b ≠ byte '\\'

theorem spells_plain {b : UInt8} (plain : IsPlain b) : Spells [b] [b] := by
  intro rest more behind enough read fuel steps
  obtain ⟨quote, control, slash⟩ := plain
  rw [List.length_singleton] at steps
  obtain ⟨fuel, rfl⟩ : ∃ n, fuel = n + 1 := ⟨fuel - 1, by omega⟩
  rw [List.singleton_append, stringBytes, if_neg (by simpa using quote), if_neg control,
    if_neg (by simpa using slash), read fuel (by omega)]
  rfl

theorem spells_plains {run : List UInt8} (plain : ∀ b ∈ run, IsPlain b) : Spells run run := by
  induction run with
  | nil => exact spells_nil
  | cons b run ih =>
      obtain ⟨first, others⟩ := List.forall_mem_cons.mp plain
      exact (spells_plain first).append (ih others)

theorem spells_escape {written content : List UInt8}
    (read : ∀ rest, escape (written ++ rest) = .ok (content, rest)) :
    Spells (byte '\\' :: written) content := by
  intro rest more behind enough others fuel steps
  rw [List.length_cons] at steps
  obtain ⟨fuel, rfl⟩ : ∃ n, fuel = n + 1 := ⟨fuel - 1, by omega⟩
  have found : (byte '\\' == byte '"') = false := by decide
  rw [List.cons_append, stringBytes, found, if_neg (by decide), if_neg (by decide),
    if_pos (by decide), read]
  dsimp only [bind, Except.bind]
  rw [others fuel (by omega)]
  rfl

/-! ### Escapes -/

theorem hexValue?_hexDigit : ∀ n < 16, hexValue? (byte (Text.hexDigit n)) = some n := by decide

theorem hexDigit_ascii : ∀ n < 16, (Text.hexDigit n).toNat ≤ 127 := by decide

/-- The digits of an escape are read as the unit they were written for. -/
theorem hexUnit_hexText {n : Nat} (small : n < 0x10000) (rest : List UInt8) :
    hexUnit (bytes (Text.hexText 4 n) ++ rest) = .ok (n, rest) := by
  have digit (m : Nat) := hexValue?_hexDigit (m % 16) (Nat.mod_lt m (by decide))
  have ascii (m : Nat) := hexDigit_ascii (m % 16) (Nat.mod_lt m (by decide))
  simp only [Text.hexText, List.nil_append, List.cons_append, bytes_cons (ascii _)]
  rw [bytes, List.flatMap_nil]
  simp only [List.nil_append, hexUnit, digit]
  have value : n / 16 / 16 / 16 % 16 * 4096 + n / 16 / 16 % 16 * 256 + n / 16 % 16 * 16 + n % 16 =
      n := by omega
  rw [value]

theorem escape_unit (rest : List UInt8) : escape (byte 'u' :: rest) = unicodeEscape rest := rfl

/-- The code of a character is no half of a pair, and it is one of Unicode. -/
theorem valid_toNat (c : Char) :
    (c.toNat < 0xD800 ∨ 0xDFFF < c.toNat) ∧ c.toNat < 0x110000 := by
  have valid := c.valid
  simp only [UInt32.isValidChar, Nat.isValidChar] at valid
  simp only [Char.toNat]
  omega

/-- The escape of a character of at most sixteen bits stands for the character. -/
theorem spells_unitEscape {c : Char} (small : c.toNat < 0x10000) :
    Spells (bytes (Text.Quoted.unitEscape c.toNat)) (bytes [c]) := by
  have slash : ('\\').toNat ≤ 127 := by decide
  have letter : ('u').toNat ≤ 127 := by decide
  rw [Text.Quoted.unitEscape, bytes_cons slash, bytes_cons letter]
  refine spells_escape fun rest => ?_
  rw [List.cons_append, escape_unit]
  have whole := (valid_toNat c).1
  have low : (decide (0xDC00 ≤ c.toNat) && decide (c.toNat ≤ 0xDFFF)) = false := by
    rw [Bool.and_eq_false_iff, decide_eq_false_iff_not, decide_eq_false_iff_not]
    omega
  have high : (decide (0xD800 ≤ c.toNat) && decide (c.toNat ≤ 0xDBFF)) = false := by
    rw [Bool.and_eq_false_iff, decide_eq_false_iff_not, decide_eq_false_iff_not]
    omega
  rw [unicodeEscape, hexUnit_hexText small]
  dsimp only [bind, Except.bind]
  rw [low, high, if_neg Bool.false_ne_true, if_neg Bool.false_ne_true, codePoint,
    Text.Utf8.encode_eq, Char.ofNat_toNat, String.toList_singleton]
  rfl

/-- The escapes of the two units of a pair stand for one character. -/
theorem spells_pairEscape {c : Char} {high low : Nat} (first : 0xD800 ≤ high ∧ high ≤ 0xDBFF)
    (second : 0xDC00 ≤ low ∧ low ≤ 0xDFFF)
    (value : 0x10000 + (high - 0xD800) * 0x400 + (low - 0xDC00) = c.toNat) :
    Spells (bytes (Text.Quoted.unitEscape high ++ Text.Quoted.unitEscape low)) (bytes [c]) := by
  have slash : ('\\').toNat ≤ 127 := by decide
  have letter : ('u').toNat ≤ 127 := by decide
  simp only [Text.Quoted.unitEscape, List.cons_append, bytes_append, bytes_cons slash,
    bytes_cons letter]
  refine spells_escape fun rest => ?_
  rw [List.cons_append, escape_unit, List.append_assoc, List.cons_append, List.cons_append]
  have isLow : (decide (0xDC00 ≤ low) && decide (low ≤ 0xDFFF)) = true := by simp [second]
  have isHigh : (decide (0xD800 ≤ high) && decide (high ≤ 0xDBFF)) = true := by simp [first]
  have notLow : (decide (0xDC00 ≤ high) && decide (high ≤ 0xDFFF)) = false := by
    rw [Bool.and_eq_false_iff, decide_eq_false_iff_not, decide_eq_false_iff_not]
    omega
  rw [unicodeEscape, hexUnit_hexText (by omega)]
  dsimp only [bind, Except.bind]
  have pair : (byte '\\' == byte '\\' && byte 'u' == byte 'u') = true := by simp
  rw [notLow, isHigh, if_neg Bool.false_ne_true, if_pos rfl, if_pos pair,
    hexUnit_hexText (by omega)]
  dsimp only
  rw [isLow, if_pos rfl, value, codePoint, Text.Utf8.encode_eq, Char.ofNat_toNat,
    String.toList_singleton]
  rfl

theorem toNat_byte {c : Char} (ascii : c.toNat ≤ 127) : (byte c).toNat = c.toNat :=
  Text.Utf8.toNat_byte (by omega)

/-- A character that is written as it is has bytes that stand for themselves. -/
theorem isPlain_of_mem {c : Char} (quote : c ≠ '"') (slash : c ≠ '\\')
    (control : ¬ c.toNat < 0x20) {b : UInt8} (member : b ∈ bytes [c]) : IsPlain b := by
  by_cases ascii : c.toNat ≤ 127
  · rw [bytes_cons ascii] at member
    obtain rfl := List.mem_singleton.mp member
    have other {d : Char} (small : d.toNat ≤ 127) (differs : c ≠ d) : byte c ≠ byte d := by
      intro same
      have codes := congrArg UInt8.toNat same
      rw [toNat_byte ascii, toNat_byte small] at codes
      exact differs (Char.toNat_inj.mp codes)
    refine ⟨other (by decide) quote, ?_, other (by decide) slash⟩
    rw [UInt8.lt_iff_toNat_lt, toNat_byte ascii]
    exact control
  · have beyond := Text.Utf8.le_of_mem_utf8EncodeChar ascii (by simpa [bytes] using member)
    have differs {d : UInt8} (small : d.toNat < 0x80) : b ≠ d := by
      rintro rfl
      omega
    refine ⟨differs (by decide), ?_, differs (by decide)⟩
    rw [UInt8.lt_iff_toNat_lt]
    change ¬ b.toNat < 0x20
    omega

/-- A character within a string is read back from the way in which it is written. -/
theorem spells_encodeChar (c : Char) :
    Spells (bytes (Text.Quoted.encodeChar c)) (bytes [c]) := by
  have known {n : Nat} (same : c.toNat = n) : Char.ofNat n = c := by
    rw [← same, Char.ofNat_toNat]
  unfold Text.Quoted.encodeChar
  split_ifs with quote slash feed back tab bell form control
  · rw [beq_iff_eq] at quote
    subst quote
    exact spells_escape fun rest => rfl
  · rw [beq_iff_eq] at slash
    subst slash
    exact spells_escape fun rest => rfl
  · rw [beq_iff_eq] at feed
    subst feed
    exact spells_escape fun rest => rfl
  · rw [beq_iff_eq] at back
    subst back
    exact spells_escape fun rest => rfl
  · rw [beq_iff_eq] at tab
    subst tab
    exact spells_escape fun rest => rfl
  · rw [beq_iff_eq] at bell
    rw [← known bell]
    exact spells_escape fun rest => rfl
  · rw [beq_iff_eq] at form
    rw [← known form]
    exact spells_escape fun rest => rfl
  · exact spells_unitEscape (by omega)
  · rw [beq_iff_eq] at quote slash
    exact spells_plains fun b member => isPlain_of_mem quote slash control member

/-- A character within a string in ASCII is read back from the way in which it is written. -/
theorem spells_encodeAsciiChar (c : Char) :
    Spells (bytes (Text.Quoted.encodeAsciiChar c)) (bytes [c]) := by
  unfold Text.Quoted.encodeAsciiChar
  dsimp only
  split_ifs with ascii small
  · exact spells_encodeChar c
  · exact spells_unitEscape small
  · have most := (valid_toNat c).2
    exact spells_pairEscape (by omega) (by omega) (by omega)

/-- A text is read back from between its quotes if each character is read back. -/
theorem spells_text {write : Char → List Char}
    (each : ∀ c, Spells (bytes (write c)) (bytes [c])) (s : List Char) :
    Spells (bytes (s.flatMap write)) (bytes s) := by
  induction s with
  | nil => exact spells_nil
  | cons c s ih =>
      rw [List.flatMap_cons, bytes_append, ← List.singleton_append, bytes_append]
      exact (each c).append ih

/-- A string is read up to the quote behind it if each of its characters is read back. -/
theorem string_written {write : Char → List Char}
    (each : ∀ c, Spells (bytes (write c)) (bytes [c])) (s : String) (rest : List UInt8) :
    string (bytes (s.toList.flatMap write) ++ byte '"' :: rest) = .ok (s, rest) := by
  have ends (fuel : Nat) (steps : 1 ≤ fuel) :
      stringBytes fuel (byte '"' :: rest) = .ok ([], rest) := by
    obtain ⟨fuel, rfl⟩ : ∃ n, fuel = n + 1 := ⟨fuel - 1, by omega⟩
    rfl
  have read := spells_text each s.toList _ [] rest 1 ends
  have decoded := Text.Utf8.decode_encode s
  rw [Text.Utf8.encode_eq] at decoded
  rw [string, read _ (by simp only [List.length_append, List.length_cons]; omega)]
  dsimp only [bind, Except.bind]
  rw [List.append_nil, decoded]
  exact congrArg (fun t => Except.ok (t, rest)) String.ofList_toList

/-- **Strings are read back.** A string between its quotes is read as what it quotes, whatever
follows it. -/
theorem string_quoted (s : String) (rest : List UInt8) :
    string (bytes (s.toList.flatMap Text.Quoted.encodeChar) ++ byte '"' :: rest) =
      .ok (s, rest) :=
  string_written spells_encodeChar s rest

/-- **Strings in ASCII are read back.** A string that is written in ASCII alone is read as what it
quotes, whatever follows it. -/
theorem string_quotedAscii (s : String) (rest : List UInt8) :
    string (bytes (s.toList.flatMap Text.Quoted.encodeAsciiChar) ++ byte '"' :: rest) =
      .ok (s, rest) :=
  string_written spells_encodeAsciiChar s rest

end Read

end Json
end Wireframe
