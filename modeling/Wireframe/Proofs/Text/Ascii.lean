import Wireframe.Proofs.Text.Literal
import Wireframe.Text.Lines

/-! # Texts in printable ASCII

A text that is quoted in ASCII alone is made of characters that print, so no line ends in it,
whichever characters count as line boundaries. A file of such lines is cut into them again,
both at every line boundary (`Wireframe.Text.lines_file`) and at line feeds alone
(`Wireframe.Text.splitOn_file`).
-/

namespace Wireframe.Text

/-- The characters of ASCII that print, the blank among them. -/
def isAsciiPrintable (c : Char) : Bool := ' ' ≤ c && c ≤ '~'

theorem isAsciiPrintable_iff {c : Char} : isAsciiPrintable c = true ↔ 0x20 ≤ c.toNat ∧ c.toNat ≤ 0x7E := by
  simp [isAsciiPrintable, Char.le_def, UInt32.le_iff_toNat_le]

theorem not_isLineBoundary {c : Char} (printable : isAsciiPrintable c = true) :
    isLineBoundary c = false := by
  have codes := isAsciiPrintable_iff.mp printable
  rw [Bool.eq_false_iff]
  intro boundary
  simp only [isLineBoundary, Bool.or_eq_true, Bool.and_eq_true, decide_eq_true_eq,
    beq_iff_eq] at boundary
  omega

/-! ## Quoted texts -/

theorem isAsciiPrintable_hexDigit : ∀ n < 16, isAsciiPrintable (hexDigit n) = true := by decide

theorem all_unitEscape (n : Nat) : (Quoted.unitEscape n).all isAsciiPrintable = true := by
  have digit (m : Nat) := isAsciiPrintable_hexDigit (m % 16) (Nat.mod_lt m (by decide))
  have slash : isAsciiPrintable '\\' = true := by decide
  have letter : isAsciiPrintable 'u' = true := by decide
  simp [Quoted.unitEscape, hexText, digit, slash, letter]

theorem all_encodeChar {c : Char} (ascii : c.toNat < 0x7F) :
    (Quoted.encodeChar c).all isAsciiPrintable = true := by
  unfold Quoted.encodeChar
  split_ifs with quote slash feed back tab bell form control
  · decide
  · decide
  · decide
  · decide
  · decide
  · decide
  · decide
  · exact all_unitEscape c.toNat
  · rw [List.all_cons, List.all_nil, Bool.and_true, isAsciiPrintable_iff]
    omega

theorem all_encodeAsciiChar (c : Char) : (Quoted.encodeAsciiChar c).all isAsciiPrintable = true := by
  unfold Quoted.encodeAsciiChar
  dsimp only
  split_ifs with ascii small
  · exact all_encodeChar ascii
  · exact all_unitEscape c.toNat
  · rw [List.all_append, all_unitEscape, all_unitEscape, Bool.and_self]

/-- A text that is quoted in ASCII is written in characters that print. -/
theorem all_encodeAscii (s : List Char) : (Quoted.encodeAscii s).all isAsciiPrintable = true := by
  have quote : isAsciiPrintable '"' = true := by decide
  have inside : (s.flatMap Quoted.encodeAsciiChar).all isAsciiPrintable = true := by
    rw [List.all_flatMap, List.all_eq_true]
    exact fun c _ => all_encodeAsciiChar c
  simp [Quoted.encodeAscii, quote, inside]

/-! ## Files -/

/-- A line that a line feed ends is the first of the lines of a text. -/
theorem lines_line {line : List Char} (whole : ∀ c ∈ line, isLineBoundary c = false)
    (rest : List Char) : lines (line ++ '\n' :: rest) = line :: lines rest := by
  induction line with
  | nil =>
      rw [List.nil_append, lines, if_pos (by decide)]
      exact nofun
  | cons c line ih =>
      obtain ⟨first, others⟩ := List.forall_mem_cons.mp whole
      rw [List.cons_append, lines, if_neg (by rw [first]; exact Bool.false_ne_true), ih others]
      rintro more rfl
      cases first

section

variable {ls : List String} (printable : ∀ l ∈ ls, l.toList.all isAsciiPrintable = true)

include printable

/-- **A file is cut into its lines.** Cut at every line boundary, a file of lines that print is
these lines. -/
theorem lines_file : lines (file ls) = ls.map String.toList := by
  induction ls with
  | nil => rfl
  | cons l ls ih =>
      obtain ⟨first, others⟩ := List.forall_mem_cons.mp printable
      have whole (c : Char) (member : c ∈ l.toList) : isLineBoundary c = false :=
        not_isLineBoundary (List.all_eq_true.mp first c member)
      rw [file_cons, lines_line whole, ih others, List.map_cons]

/-- Cut at line feeds alone, a file of lines that print is these lines and nothing behind them. -/
theorem splitOn_file : (file ls).splitOn '\n' = ls.map String.toList ++ [[]] := by
  have whole (l : String) (inside : l ∈ ls) (c : Char) (member : c ∈ l.toList) :
      (c == '\n') = false := by
    have codes := isAsciiPrintable_iff.mp (List.all_eq_true.mp (printable l inside) c member)
    rw [beq_eq_false_iff_ne]
    rintro rfl
    exact absurd codes.1 (by decide)
  have cut := splitOnP_file (by decide) whole []
  rwa [List.append_nil, List.splitOnP_nil] at cut

end

end Wireframe.Text
