import Mathlib.Data.List.DropRight
import Mathlib.Tactic.SplitIfs
import Wireframe.Number.Read

/-! # How a whole number may be written

A text denotes a whole number if it holds, between blanks, an optional sign and decimal
digits, with no more than one underscore between two digits. These texts are read as the
numbers they denote, and no others are read (`Wireframe.Number.readInt?_eq_some_iff`).
-/

namespace Wireframe

namespace Text

/-! ## Trimmed texts -/

/-- A text is its trimmed middle between blanks. -/
theorem exists_trim (s : List Char) :
    ∃ before after, s = before ++ trim s ++ after ∧ (∀ c ∈ before, isBlank c = true) ∧
      ∀ c ∈ after, isBlank c = true := by
  refine ⟨s.takeWhile isBlank, ((trimStart s).reverse.takeWhile isBlank).reverse, ?_, ?_, ?_⟩
  · have ends : trim s ++ ((trimStart s).reverse.takeWhile isBlank).reverse = trimStart s := by
      rw [trim, trimEnd, ← List.reverse_append, List.takeWhile_append_dropWhile,
        List.reverse_reverse]
    rw [List.append_assoc, ends]
    exact List.takeWhile_append_dropWhile.symm
  · intro c member
    exact List.mem_takeWhile_imp member
  · intro c member
    exact List.mem_takeWhile_imp (List.mem_reverse.mp member)

/-- A text that begins and ends with no blank is what is left of it between blanks. -/
theorem trim_append {before body after : List Char} (ahead : ∀ c ∈ before, isBlank c = true)
    (behind : ∀ c ∈ after, isBlank c = true)
    (first : ∃ c rest, body = c :: rest ∧ isBlank c = false)
    (last : ∃ rest c, body = rest ++ [c] ∧ isBlank c = false) :
    trim (before ++ body ++ after) = body := by
  have start : trimStart (before ++ body ++ after) = body ++ after := by
    obtain ⟨c, rest, rfl, filled⟩ := first
    rw [trimStart, List.append_assoc, List.dropWhile_append_of_pos ahead, List.cons_append,
      List.dropWhile_cons, filled]
    rfl
  obtain ⟨rest, c, rfl, filled⟩ := last
  have reversed : ∀ c ∈ after.reverse, isBlank c = true := fun c member =>
    behind c (List.mem_reverse.mp member)
  rw [trim, start, trimEnd, List.reverse_append, List.dropWhile_append_of_pos reversed,
    List.reverse_append, List.reverse_singleton, List.singleton_append, List.dropWhile_cons, filled]
  simp

end Text

namespace Number

/-! ## Digits -/

/-- Digits between any two of which one underscore may stand, and the digits alone. -/
inductive Run (isDigit : Char → Bool) : List Char → List Char → Prop where
  | last {c : Char} (digit : isDigit c = true) : Run isDigit [c] [c]
  | next {c : Char} {text digits : List Char} (digit : isDigit c = true)
    (others : Run isDigit text digits) : Run isDigit (c :: text) (c :: digits)
  | joined {c : Char} {text digits : List Char} (digit : isDigit c = true)
    (others : Run isDigit text digits) : Run isDigit (c :: '_' :: text) (c :: digits)

section

variable {isDigit : Char → Bool} {text digits : List Char}

theorem Run.exists_first (run : Run isDigit text digits) :
    ∃ c rest, text = c :: rest ∧ isDigit c = true := by
  cases run with
  | last digit => exact ⟨_, _, rfl, digit⟩
  | next digit others => exact ⟨_, _, rfl, digit⟩
  | joined digit others => exact ⟨_, _, rfl, digit⟩

theorem Run.exists_last (run : Run isDigit text digits) :
    ∃ rest c, text = rest ++ [c] ∧ isDigit c = true := by
  induction run with
  | last digit => exact ⟨[], _, rfl, digit⟩
  | next digit others ih =>
      obtain ⟨rest, c, rfl, last⟩ := ih
      exact ⟨_ :: rest, c, rfl, last⟩
  | joined digit others ih =>
      obtain ⟨rest, c, rfl, last⟩ := ih
      exact ⟨_ :: '_' :: rest, c, rfl, last⟩

theorem run_of_joinDigits? (read : joinDigits? isDigit text = some digits) :
    Run isDigit text digits := by
  fun_induction joinDigits? isDigit text generalizing digits with
  | case1 => cases read
  | case2 c digit =>
      cases read
      exact .last digit
  | case3 c digit => cases read
  | case4 c rest digit ih =>
      obtain ⟨others, found, rfl⟩ := Option.map_eq_some_iff.mp read
      exact .joined digit (ih found)
  | case5 c rest digit => cases read
  | case6 c rest _ _ digit ih =>
      obtain ⟨others, found, rfl⟩ := Option.map_eq_some_iff.mp read
      exact .next digit (ih found)
  | case7 c rest _ _ digit => cases read

/-- The digits of a run are read, if the underscore is none. -/
theorem Run.joinDigits? (run : Run isDigit text digits) (mark : isDigit '_' = false) :
    joinDigits? isDigit text = some digits := by
  induction run with
  | last digit => rw [Number.joinDigits?, if_pos digit]
  | next digit others ih =>
      obtain ⟨c, rest, rfl, first⟩ := others.exists_first
      rw [Number.joinDigits?, if_pos digit, ih]
      · rfl
      · exact nofun
      · rintro more same
        obtain ⟨rfl, -⟩ := List.cons.inj same
        rw [mark] at first
        cases first
  | joined digit others ih =>
      rw [Number.joinDigits?, if_pos digit, ih]
      rfl

end

/-- The codes of the blanks. -/
def blankCodes : List Nat :=
  [9, 10, 11, 12, 13, 28, 29, 30, 31, 32, 0x85, 0xA0, 0x1680, 0x2000, 0x2001, 0x2002, 0x2003,
    0x2004, 0x2005, 0x2006, 0x2007, 0x2008, 0x2009, 0x200A, 0x2028, 0x2029, 0x202F, 0x205F, 0x3000]

theorem digitValue?_of_blankCode :
    ∀ n ∈ blankCodes, Text.digitValue? 10 (Char.ofNat n) = none := by decide +kernel

/-- A decimal digit. -/
def isDecimal (c : Char) : Bool := (Text.digitValue? 10 c).isSome

/-- A digit is no blank. -/
theorem not_isBlank_of_isDecimal {c : Char} (digit : isDecimal c = true) :
    Text.isBlank c = false := by
  rw [Bool.eq_false_iff]
  intro blank
  have code : c.toNat ∈ blankCodes := by
    simp only [Text.isBlank, Text.isWhiteSpace, Bool.or_eq_true, Bool.and_eq_true,
      decide_eq_true_eq, beq_iff_eq] at blank
    simp only [blankCodes, List.mem_cons, List.not_mem_nil, or_false]
    omega
  have none := digitValue?_of_blankCode c.toNat code
  rw [Char.ofNat_toNat] at none
  rw [isDecimal, none] at digit
  cases digit

/-! ## Signs -/

/-- A sign that may be absent, and the factor it stands for. -/
inductive Sign : List Char → Int → Prop where
  | none : Sign [] 1
  | plus : Sign ['+'] 1
  | minus : Sign ['-'] (-1)

/-- A text that denotes a whole number: digits behind an optional sign, between blanks. -/
inductive Denotes : List Char → Int → Prop where
  | mk {before sign text digits after : List Char} {factor : Int}
    (ahead : ∀ c ∈ before, Text.isBlank c = true) (behind : ∀ c ∈ after, Text.isBlank c = true)
    (signed : Sign sign factor) (run : Run isDecimal text digits) :
    Denotes (before ++ (sign ++ text) ++ after) (factor * Text.numberOfDigits 10 digits)

theorem dropBaseMark_ten (s : List Char) : dropBaseMark 10 s = s := by
  unfold dropBaseMark
  split
  · rfl
  · rfl
  · rfl

/-- A text without blanks around it is read as the number of its digits behind its sign. -/
theorem readInt?_eq (s : List Char) :
    readInt? 10 s = (joinDigits? isDecimal (splitSign (Text.trim s)).2).map fun digits =>
      (if (splitSign (Text.trim s)).1 then -1 else 1) * (Text.numberOfDigits 10 digits : Int) := by
  rw [readInt?]
  dsimp only
  rw [dropBaseMark_ten]
  cases (splitSign (Text.trim s)).1 with
  | false => simp only [Bool.false_eq_true, if_false, Int.one_mul]; rfl
  | true => simp only [if_true, Int.neg_mul, Int.one_mul]; rfl

theorem sign_splitSign (s : List Char) :
    ∃ sign, s = sign ++ (splitSign s).2 ∧ Sign sign (if (splitSign s).1 then -1 else 1) := by
  unfold splitSign
  split
  · exact ⟨['-'], rfl, .minus⟩
  · exact ⟨['+'], rfl, .plus⟩
  · exact ⟨[], rfl, .none⟩

section

variable {sign text digits : List Char} {factor : Int}

theorem splitSign_append (signed : Sign sign factor) (run : Run isDecimal text digits) :
    (splitSign (sign ++ text)).2 = text ∧
      (if (splitSign (sign ++ text)).1 then -1 else 1) = factor := by
  cases signed with
  | none =>
      obtain ⟨c, rest, rfl, digit⟩ := run.exists_first
      rw [List.nil_append, splitSign]
      · exact ⟨rfl, rfl⟩
      · rintro more same
        obtain ⟨rfl, -⟩ := List.cons.inj same
        cases digit
      · rintro more same
        obtain ⟨rfl, -⟩ := List.cons.inj same
        cases digit
  | plus => exact ⟨rfl, rfl⟩
  | minus => exact ⟨rfl, rfl⟩

/-- No blank stands in front of a sign with its digits. -/
theorem Sign.exists_first (signed : Sign sign factor) (run : Run isDecimal text digits) :
    ∃ c rest, sign ++ text = c :: rest ∧ Text.isBlank c = false := by
  obtain ⟨c, rest, rfl, digit⟩ := run.exists_first
  cases signed with
  | none => exact ⟨c, rest, rfl, not_isBlank_of_isDecimal digit⟩
  | plus => exact ⟨'+', c :: rest, rfl, rfl⟩
  | minus => exact ⟨'-', c :: rest, rfl, rfl⟩

/-- No blank stands behind the digits. -/
theorem Run.exists_end (run : Run isDecimal text digits) (sign : List Char) :
    ∃ rest c, sign ++ text = rest ++ [c] ∧ Text.isBlank c = false := by
  obtain ⟨rest, c, rfl, digit⟩ := run.exists_last
  exact ⟨sign ++ rest, c, (List.append_assoc ..).symm, not_isBlank_of_isDecimal digit⟩

end

/-- **Whole numbers as they may be written.** A text is read as a whole number exactly if it denotes
it. -/
theorem readInt?_eq_some_iff {s : List Char} {n : Int} : readInt? 10 s = some n ↔ Denotes s n := by
  rw [readInt?_eq]
  constructor
  · intro read
    obtain ⟨digits, found, rfl⟩ := Option.map_eq_some_iff.mp read
    obtain ⟨before, after, whole, ahead, behind⟩ := Text.exists_trim s
    obtain ⟨sign, middle, signed⟩ := sign_splitSign (Text.trim s)
    have denotes := Denotes.mk ahead behind signed (run_of_joinDigits? found)
    rwa [← middle, ← whole] at denotes
  · rintro ⟨ahead, behind, signed, run⟩
    obtain ⟨body, factor⟩ := splitSign_append signed run
    rw [Text.trim_append ahead behind (signed.exists_first run) (run.exists_end _), body, factor,
      run.joinDigits? rfl]
    rfl

/-- Signs, blanks and single underscores are read; a point is not. -/
example : readInt? 10 " +1_7\t".toList = some 17 ∧ readInt? 10 "17.0".toList = none := by
  decide +kernel

end Number

end Wireframe
