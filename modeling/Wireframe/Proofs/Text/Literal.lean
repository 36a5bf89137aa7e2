import Wireframe.Proofs.Text.Quoted
import Wireframe.Text.Blank

/-! # String literals and lines

A quoted text is a string literal of script code: reading it as one gives the text back,
whatever its characters are (`Wireframe.Text.literal?_encode`), and it stands on one line
(`Wireframe.Text.oneLine_encode`).
-/

namespace Wireframe.Text

/-! ## Lines of a file -/

/-- A character that ends a line of a file. -/
def endsLine (c : Char) : Bool := c == '\n' || c == '\r'

/-- Whether a text stands on one line. -/
def oneLine (s : List Char) : Bool := s.all fun c => !endsLine c

theorem oneLine_iff {s : List Char} : oneLine s = true ↔ ∀ c ∈ s, endsLine c = false := by
  simp [oneLine]

/-- The marks of the notations end no line. -/
@[simp] theorem endsLine_marks :
    endsLine ' ' = false ∧ endsLine '"' = false ∧ endsLine '#' = false ∧ endsLine '(' = false ∧
      endsLine ')' = false ∧ endsLine '.' = false ∧ endsLine '/' = false ∧
      endsLine '<' = false ∧ endsLine '=' = false ∧ endsLine '>' = false ∧
      endsLine '[' = false ∧ endsLine ']' = false ∧ endsLine '\x7b' = false ∧
      endsLine '\x7d' = false := by
  decide

@[simp] theorem oneLine_nil : oneLine [] = true := rfl

@[simp] theorem oneLine_cons (c : Char) (s : List Char) :
    oneLine (c :: s) = (!endsLine c && oneLine s) := rfl

@[simp] theorem oneLine_append (s t : List Char) :
    oneLine (s ++ t) = (oneLine s && oneLine t) := by
  simp [oneLine]

@[simp] theorem oneLine_flatMap {α : Type} (s : List α) (f : α → List Char) :
    oneLine (s.flatMap f) = s.all fun x => oneLine (f x) := List.all_flatMap

/-- A text without blanks stands on one line. -/
theorem oneLine_of_filled {s : List Char} (filled : ∀ c ∈ s, isBlank c = false) :
    oneLine s = true := by
  rw [oneLine_iff]
  intro c member
  have seen := filled c member
  cases ends : endsLine c with
  | false => rfl
  | true =>
      simp only [endsLine, Bool.or_eq_true, beq_iff_eq] at ends
      rcases ends with rfl | rfl
      · cases seen
      · cases seen

/-- The text of a file with some lines, each of which a line feed ends. -/
def file (lines : List String) : List Char := lines.flatMap fun line => line.toList ++ ['\n']

@[simp] theorem file_nil : file [] = [] := rfl

@[simp] theorem file_cons (line : String) (lines : List String) :
    file (line :: lines) = line.toList ++ '\n' :: file lines := by
  simp [file]

@[simp] theorem file_append (lines more : List String) :
    file (lines ++ more) = file lines ++ file more := by
  simp [file]

/-- Lines that line feeds join, with one behind them, are a file. -/
theorem toList_intercalate_feed {ls : List String} (some : ls ≠ []) :
    ("\n".intercalate ls ++ "\n").toList = file ls := by
  induction ls with
  | nil => exact absurd rfl some
  | cons line ls ih =>
      cases ls with
      | nil => simp
      | cons next ls =>
          have rest := ih (List.cons_ne_nil next ls)
          rw [String.intercalate_cons_cons, String.append_assoc, String.append_assoc,
            String.toList_append, String.toList_append, rest, file_cons line]
          rfl

/-- A file is cut into its lines, and what stands behind it is cut as it is alone. -/
theorem splitOnP_file {ends : Char → Bool} (feed : ends '\n' = true) {ls : List String}
    (whole : ∀ l ∈ ls, ∀ c ∈ l.toList, ends c = false) (rest : List Char) :
    (file ls ++ rest).splitOnP ends = ls.map String.toList ++ rest.splitOnP ends := by
  induction ls with
  | nil => rfl
  | cons line ls ih =>
      obtain ⟨first, others⟩ := List.forall_mem_cons.mp whole
      rw [file_cons, List.append_assoc, List.cons_append, List.splitOnP_append_cons _ _ feed,
        List.splitOnP_eq_singleton first, ih others]
      rfl

/-! ## Literals -/

/-- The character that an escape of one letter stands for. -/
def escape? : Char → Option Char
  | 'n' => some '\n'
  | 'r' => some '\r'
  | 't' => some '\t'
  | 'b' => some (Char.ofNat 8)
  | 'f' => some (Char.ofNat 12)
  | '"' => some '"'
  | '\\' => some '\\'
  | _ => none

/-- The character that the four digits behind `\u` stand for, unless they are half of a pair. -/
def unit? (digits : List Char) : Option Char :=
  let n := numberOfDigits 16 digits
  if digits.all isHexDigit && (n < 0xD800 || 0xDFFF < n) then some (Char.ofNat n) else none

/-- What a string literal stands for, read from behind its first quote, and what follows its last
one. A literal with any other escape is not read, and neither is one in which a line ends. -/
def literal? : List Char → Option (List Char × List Char)
  | [] => none
  | '\\' :: 'u' :: a :: b :: c :: d :: rest =>
    match unit? [a, b, c, d] with
    | some c => (literal? rest).map fun (s, behind) => (c :: s, behind)
    | none => none
  | '\\' :: letter :: rest =>
    match escape? letter with
    | some c => (literal? rest).map fun (s, behind) => (c :: s, behind)
    | none => none
  | c :: rest =>
    if c == '"' then some ([], rest)
    else if c == '\\' || endsLine c then none
    else (literal? rest).map fun (s, behind) => (c :: s, behind)

theorem literal?_quote (rest : List Char) : literal? ('"' :: rest) = some ([], rest) := by
  simp [literal?]

theorem literal?_escape {letter c : Char} (known : escape? letter = some c) (rest : List Char) :
    literal? ('\\' :: letter :: rest) =
      (literal? rest).map fun (s, behind) => (c :: s, behind) := by
  have other : letter ≠ 'u' := by
    rintro rfl
    cases known
  rw [literal?]
  · simp [known]
  · intro _ _ _ _ _ same
    exact absurd same other

theorem isHexDigit_hexDigit : ∀ n < 16, isHexDigit (hexDigit n) = true := by decide

theorem unit?_hexText {n : Nat} (small : n < 0xD800) :
    unit? (hexText 4 n) = some (Char.ofNat n) := by
  have denoted := numberOfDigits_hexText 4 n
  have whole : n % 16 ^ 4 = n := Nat.mod_eq_of_lt (by omega)
  have digit (m : Nat) : isHexDigit (hexDigit (m % 16)) = true :=
    isHexDigit_hexDigit _ (Nat.mod_lt m (by decide))
  have digits : (hexText 4 n).all isHexDigit = true := by simp [hexText, digit]
  rw [whole] at denoted
  simp [unit?, denoted, digits, small]

theorem literal?_unitEscape {n : Nat} (small : n < 0xD800) (rest : List Char) :
    literal? (Quoted.unitEscape n ++ rest) =
      (literal? rest).map fun (s, behind) => (Char.ofNat n :: s, behind) := by
  have read := unit?_hexText small
  simp only [Quoted.unitEscape, hexText, List.nil_append, List.cons_append] at read ⊢
  rw [literal?, read]

/-- A character within a literal is read back from the way in which it is written. -/
theorem literal?_encodeChar (c : Char) (rest : List Char) :
    literal? (Quoted.encodeChar c ++ rest) =
      (literal? rest).map fun (s, behind) => (c :: s, behind) := by
  have known {n : Nat} (same : c.toNat = n) : Char.ofNat n = c := by
    rw [← same, Char.ofNat_toNat]
  unfold Quoted.encodeChar
  split_ifs with quote slash feed back tab bell form control
  · rw [beq_iff_eq] at quote
    subst quote
    exact literal?_escape rfl rest
  · rw [beq_iff_eq] at slash
    subst slash
    exact literal?_escape rfl rest
  · rw [beq_iff_eq] at feed
    subst feed
    exact literal?_escape rfl rest
  · rw [beq_iff_eq] at back
    subst back
    exact literal?_escape rfl rest
  · rw [beq_iff_eq] at tab
    subst tab
    exact literal?_escape rfl rest
  · rw [beq_iff_eq] at bell
    rw [← known bell]
    exact literal?_escape rfl rest
  · rw [beq_iff_eq] at form
    rw [← known form]
    exact literal?_escape rfl rest
  · have read := literal?_unitEscape (n := c.toNat) (by omega) rest
    rwa [known rfl] at read
  · simp only [beq_iff_eq] at quote slash feed back
    rw [List.singleton_append, literal?]
    · simp [endsLine, quote, slash, feed, back]
    · intro _ _ _ _ _ same
      exact absurd same slash
    · intro _ _ same
      exact absurd same slash

/-- **Quoted texts are literals.** Read from behind its first quote, a quoted text stands for what
it quotes, and what follows it comes next. -/
theorem literal?_encode (s rest : List Char) :
    literal? (s.flatMap Quoted.encodeChar ++ '"' :: rest) = some (s, rest) := by
  induction s with
  | nil => exact literal?_quote rest
  | cons c s ih =>
      rw [List.flatMap_cons, List.append_assoc, literal?_encodeChar, ih]
      rfl

theorem oneLine_encodeChar (c : Char) : oneLine (Quoted.encodeChar c) = true := by
  unfold Quoted.encodeChar
  split_ifs with quote slash feed back tab bell form control
  · decide
  · decide
  · decide
  · decide
  · decide
  · decide
  · decide
  · have digit (m : Nat) : endsLine (hexDigit (m % 16)) = false := by
      have below := Nat.mod_lt m (show 0 < 16 by decide)
      generalize m % 16 = n at below
      revert n
      decide
    have slash : endsLine '\\' = false := by decide
    have letter : endsLine 'u' = false := by decide
    simp [Quoted.unitEscape, hexText, digit, slash, letter]
  · simp_all [endsLine]

/-- A quoted text stands on one line. -/
theorem oneLine_encode (s : List Char) : oneLine (Quoted.encode s) = true := by
  have inside : oneLine (s.flatMap Quoted.encodeChar) = true := by
    induction s with
    | nil => rfl
    | cons c s ih => rw [List.flatMap_cons, oneLine_append, oneLine_encodeChar, ih, Bool.and_self]
  simp [Quoted.encode, inside]

/-! ## Quoted strings -/

theorem toList_quoted (s : String) : (quoted s).toList = Quoted.encode s.toList := by
  simp [quoted]

theorem oneLine_quoted (s : String) : oneLine (quoted s).toList = true := by
  rw [toList_quoted]
  exact oneLine_encode s.toList

/-- The string that a literal at the front of a text stands for, and what follows it. -/
def quoted? : List Char → Option (String × List Char)
  | '"' :: rest => (literal? rest).map fun (s, behind) => (String.ofList s, behind)
  | _ => none

/-- A quoted string is read back, whatever follows it. -/
theorem quoted?_quoted (s : String) (rest : List Char) :
    quoted? ((quoted s).toList ++ rest) = some (s, rest) := by
  have read := literal?_encode s.toList rest
  simp [toList_quoted, Quoted.encode, quoted?, read]

end Wireframe.Text
