import Wireframe.Proofs.Json.Strings
import Wireframe.Proofs.Number.Written

/-! # Written whole numbers are read back

A whole number does not show where it ends, so it is read back from its written form only if
the bytes behind it do not go on with a number (`Wireframe.Json.Read.scalar_int`).
-/

namespace Wireframe.Json.Read

open Text.Utf8 (bytes bytes_append)

/-- A byte with which a number can go on. -/
def continues (b : UInt8) : Bool := isDigit b || b == byte '.' || b == byte 'e' || b == byte 'E'

/-- Bytes in front of which a number ends. -/
def Closes (rest : List UInt8) : Prop := ∀ b ∈ rest.head?, continues b = false

theorem closes_nil : Closes [] := nofun

theorem closes_cons {b : UInt8} (ends : continues b = false) (rest : List UInt8) :
    Closes (b :: rest) := by
  rintro other ⟨⟩
  exact ends

theorem not_digit_of_closes {b : UInt8} {rest : List UInt8} (closes : Closes (b :: rest)) :
    isDigit b = false := by
  have ends := closes b rfl
  simp only [continues, Bool.or_eq_false_iff] at ends
  exact ends.1.1.1

/-- A number that ends has no fraction. -/
theorem fraction_of_closes {rest : List UInt8} (closes : Closes rest) :
    fraction rest = .ok (none, rest) := by
  cases rest with
  | nil => rfl
  | cons b rest =>
      have ends := closes b rfl
      simp only [continues, Bool.or_eq_false_iff] at ends
      rw [fraction, ends.1.1.2]
      rfl

/-- A number that ends has no exponent. -/
theorem exponent_of_closes {rest : List UInt8} (closes : Closes rest) :
    exponent rest = .ok (none, rest) := by
  cases rest with
  | nil => rfl
  | cons b rest =>
      have ends := closes b rfl
      simp only [continues, Bool.or_eq_false_iff] at ends
      have none : (b == byte 'e' || b == byte 'E') = false := by rw [ends.1.2, ends.2]; rfl
      exact if_neg (by rw [none]; exact Bool.false_ne_true)

/-! ## Digits -/

section

variable {c : Char} {s : List Char} {rest : List UInt8}

theorem code_of_digit (digit : Text.isAsciiDigit c = true) : 0x30 ≤ c.toNat ∧ c.toNat ≤ 0x39 := by
  simpa [Text.isAsciiDigit, Char.le_def, UInt32.le_iff_toNat_le] using digit

theorem isDigit_byte (digit : Text.isAsciiDigit c = true) : isDigit (byte c) = true := by
  have code := code_of_digit digit
  have same := toNat_byte (c := c) (by omega)
  simp only [isDigit, Bool.and_eq_true, decide_eq_true_eq, UInt8.le_iff_toNat_le, same]
  exact code

theorem ofNat_byte (digit : Text.isAsciiDigit c = true) : Char.ofNat (byte c).toNat = c := by
  have code := code_of_digit digit
  rw [toNat_byte (by omega), Char.ofNat_toNat]

/-- Each digit is one byte. -/
theorem bytes_digits (every : ∀ c ∈ s, Text.isAsciiDigit c = true) : bytes s = s.map byte := by
  induction s with
  | nil => rfl
  | cons c s ih =>
      obtain ⟨first, others⟩ := List.forall_mem_cons.mp every
      have code := code_of_digit first
      rw [bytes_cons (by omega), ih others, List.map_cons]

/-- A run of digits is read to its end. -/
theorem digits_written (every : ∀ c ∈ s, Text.isAsciiDigit c = true) (filled : s ≠ [])
    (closes : Closes rest) : digits (s.map byte ++ rest) = .ok (s, rest) := by
  have taken : ∀ b ∈ s.map byte, isDigit b = true := by
    intro b member
    obtain ⟨c, present, rfl⟩ := List.mem_map.mp member
    exact isDigit_byte (every c present)
  have stop : rest.takeWhile isDigit = [] ∧ rest.dropWhile isDigit = rest := by
    cases rest with
    | nil => exact ⟨rfl, rfl⟩
    | cons b rest =>
        have other := not_digit_of_closes closes
        rw [List.takeWhile_cons, List.dropWhile_cons, other]
        exact ⟨rfl, rfl⟩
  have read : ∀ c ∈ s, Char.ofNat (byte c).toNat = id c := fun c present =>
    ofNat_byte (every c present)
  have same : (s.map byte).map (fun d => Char.ofNat d.toNat) = s := by
    rw [List.map_map]
    exact (List.map_congr_left read).trans (List.map_id s)
  obtain ⟨c, more, rfl⟩ := List.exists_cons_of_ne_nil filled
  have first := isDigit_byte (every c List.mem_cons_self)
  rw [List.map_cons, List.cons_append, digits, if_pos first, ← List.cons_append, ← List.map_cons,
    List.takeWhile_append_of_pos taken, List.dropWhile_append_of_pos taken, stop.1, stop.2,
    List.append_nil, same]

end

/-! ## Numbers -/

/-- Digits that are read to their end are a whole number, unless another digit follows a zero. -/
theorem number_of_digits (negative : Bool) {text rest : List UInt8} {whole : List Char}
    (read : digits text = .ok (whole, rest)) (closes : Closes rest)
    (front : ∀ next more, text = byte '0' :: next :: more → isDigit next = false) :
    number negative text = .ok (.int
      (if negative then -(Text.numberOfDigits 10 whole : Int) else Text.numberOfDigits 10 whole),
        rest) := by
  have fraction := fraction_of_closes closes
  have exponent := exponent_of_closes closes
  rcases text with _ | ⟨b, _ | ⟨next, more⟩⟩
  · cases read
  · simp only [number, read, bind, Except.bind, fraction, exponent]
    rfl
  · have single : (b == byte '0' && isDigit next) = false := by
      rw [Bool.and_eq_false_imp, beq_iff_eq]
      rintro rfl
      exact front next more rfl
    simp only [number, single, Bool.false_eq_true, if_false, read, bind, Except.bind, fraction,
      exponent]
    rfl

/-- The digits of a number are read as the number. -/
theorem number_written (negative : Bool) (n : Nat) {rest : List UInt8} (closes : Closes rest) :
    number negative (bytes n.repr.toList ++ rest) =
      .ok (.int (if negative then -n else n), rest) := by
  have every := Number.isAsciiDigit_repr n
  obtain ⟨c, more, front, zero⟩ := Number.repr_front n
  have filled : n.repr.toList ≠ [] := front ▸ List.cons_ne_nil c more
  have whole := digits_written every filled closes
  rw [bytes_digits every, number_of_digits negative whole closes, Number.numberOfDigits_repr]
  -- Only zero is written with a zero in front, and then nothing of it is left.
  intro next others same
  rw [front, List.map_cons, List.cons_append] at same
  obtain ⟨first, same⟩ := List.cons.inj same
  have digit := ofNat_byte (every c (by rw [front]; exact List.mem_cons_self))
  rw [first] at digit
  obtain rfl := zero digit.symm
  obtain rfl : more = [] := (List.cons.inj front).2.symm
  rw [List.map_nil, List.nil_append] at same
  rw [same] at closes
  exact not_digit_of_closes closes

/-- A number is written with a digit in front. -/
theorem bytes_repr (n : Nat) : ∃ b more, bytes n.repr.toList = b :: more ∧ isDigit b = true := by
  have every := Number.isAsciiDigit_repr n
  obtain ⟨c, more, front, -⟩ := Number.repr_front n
  rw [bytes_digits every, front, List.map_cons]
  exact ⟨byte c, more.map byte, rfl, isDigit_byte (every c (by rw [front]; exact List.mem_cons_self))⟩

theorem ne_of_digit {b c : UInt8} (digit : isDigit b = true) (other : isDigit c = false) :
    ¬ (b == c) = true := by
  rw [beq_iff_eq]
  rintro rfl
  rw [digit] at other
  exact Bool.false_ne_true other.symm

/-- A digit begins a number. -/
theorem scalar_digit {b : UInt8} (digit : isDigit b = true) (rest : List UInt8) :
    scalar (b :: rest) = number false (b :: rest) := by
  have other {c : UInt8} := ne_of_digit (c := c) digit
  rw [scalar, if_neg (other rfl), if_neg (other rfl), if_neg (other rfl), if_neg (other rfl),
    if_neg (other rfl), if_neg (other rfl), if_neg (other rfl), if_pos digit]

/-- A digit behind a minus sign begins a number. -/
theorem negative_digit {b : UInt8} (digit : isDigit b = true) (rest : List UInt8) :
    negative (b :: rest) = number true (b :: rest) := by
  rw [negative, if_neg (ne_of_digit digit rfl)]

/-- **Whole numbers are read back.** A whole number is read from its written form, if what follows
does not go on with a number. -/
theorem scalar_int (n : Int) {rest : List UInt8} (closes : Closes rest) :
    scalar (bytes (Number.intText n).toList ++ rest) = .ok (.int n, rest) := by
  cases n with
  | ofNat n =>
      obtain ⟨b, more, front, digit⟩ := bytes_repr n
      have read := number_written false n closes
      rw [front, List.cons_append] at read
      rw [Number.intText, front, List.cons_append, scalar_digit digit, read]
      rfl
  | negSucc n =>
      obtain ⟨b, more, front, digit⟩ := bytes_repr (n + 1)
      have read := number_written true (n + 1) closes
      have sign : bytes "-".toList = [byte '-'] := rfl
      rw [front, List.cons_append] at read
      rw [Number.intText, String.toList_append, bytes_append, sign, front, List.append_assoc,
        List.singleton_append, scalar, if_neg (by decide), if_neg (by decide), if_neg (by decide),
        if_neg (by decide), if_neg (by decide), if_neg (by decide), if_pos (by decide),
        List.cons_append, negative_digit digit, read]
      rfl

end Wireframe.Json.Read
