import Wireframe.Proofs.Json.Numerals
import Wireframe.Proofs.Json.Written
import Wireframe.Proofs.Text.Ascii
import Wireframe.Proofs.Text.Literal

/-! # Written values are read back

Reading the written form of a JSON value gives the value back, in any style that sets parts
apart by a mark with blanks behind it and quotes strings so that they are read back. Values
with fractions are left out, and lists and objects may nest as deep as the reader goes
(`Wireframe.Json.read_write`). Such a value is written in characters with a property if the
marks and what the style itself writes have it (`Wireframe.Json.all_write`): then it stands on
one line, or in ASCII.
-/

namespace Wireframe

namespace Json

open Read
open Text.Utf8 (bytes bytes_append)

/-! ## Styles -/

/-- Bytes that begin with a mark, behind which there are only blanks. -/
def Read.IsMark (mark : Char) (written : List UInt8) : Prop :=
  ∃ blanks, written = byte mark :: blanks ∧ ∀ b ∈ blanks, isBlank b = true

/-- A style in which parts are set apart by marks with blanks behind them, and a string is read back
from its quoted form. -/
structure Style.Legible (style : Style) : Prop where
  comma : IsMark ',' (bytes style.comma.toList)
  colon : IsMark ':' (bytes style.colon.toList)
  quote : ∀ s, ∃ inner, bytes (style.quote s).toList = byte '"' :: inner ∧
    ∀ rest, string (inner ++ rest) = .ok (s, rest)

theorem Style.legible_compact : compact.Legible where
  comma := ⟨[], rfl, nofun⟩
  colon := ⟨[], rfl, nofun⟩
  quote s := by
    refine ⟨bytes (s.toList.flatMap Text.Quoted.encodeChar) ++ [byte '"'], ?_, fun rest => ?_⟩
    · have mark : ('"').toNat ≤ 127 := by decide
      rw [toList_quote telling_compact, Text.Quoted.encode, List.cons_append, bytes_cons mark,
        bytes_append, bytes_cons mark]
      rfl
    · rw [List.append_assoc]
      exact Read.string_quoted s rest

theorem toList_quote_spacedAscii (s : String) :
    (Style.spacedAscii.quote s).toList = Text.Quoted.encodeAscii s.toList := by
  simp [Style.quote, Style.spacedAscii, Text.quotedAscii]

theorem Style.legible_spacedAscii : spacedAscii.Legible where
  comma := ⟨[0x20], rfl, List.forall_mem_singleton.mpr (by decide)⟩
  colon := ⟨[0x20], rfl, List.forall_mem_singleton.mpr (by decide)⟩
  quote s := by
    refine ⟨bytes (s.toList.flatMap Text.Quoted.encodeAsciiChar) ++ [byte '"'], ?_,
      fun rest => ?_⟩
    · have mark : ('"').toNat ≤ 127 := by decide
      rw [toList_quote_spacedAscii, Text.Quoted.encodeAscii, List.cons_append, bytes_cons mark,
        bytes_append, bytes_cons mark]
      rfl
    · rw [List.append_assoc]
      exact Read.string_quotedAscii s rest

/-! ## Values -/

/-- A value without fractions, in which lists and objects nest up to a depth. -/
def Readable : (depth : Nat) → Json → Prop
  | _, .null | _, .bool _ | _, .int _ | _, .text _ => True
  | depth + 1, .list items => ∀ item ∈ items, item.Readable depth
  | depth + 1, .object members => ∀ m ∈ members, m.2.Readable depth
  | _, _ => False

variable {style : Style} {depth : Nat}

namespace Read

/-- A reader that gives a value back from its written form, if what follows does not go on with a
number. -/
def ReadsBack (style : Style) (reader : Reader Json) (v : Json) : Prop :=
  ∀ rest, Closes rest → reader (bytes (v.write style).toList ++ rest) = .ok (v, rest)

/-! ### Scalars -/

/-- Whether a value is neither a list nor an object. -/
def isScalar : Json → Bool
  | .list _ | .object _ => false
  | _ => true

theorem scalar_written (legible : style.Legible) {v : Json} (readable : v.Readable depth)
    (single : isScalar v = true) : ReadsBack style scalar v := by
  intro rest closes
  cases v with
  | null => rw [write]; rfl
  | bool b => cases b <;> (rw [write]; rfl)
  | int n =>
      rw [write]
      exact scalar_int n closes
  | float x => cases depth <;> exact readable.elim
  | text s =>
      obtain ⟨inner, quoted, named⟩ := legible.quote s
      rw [write, quoted, List.cons_append, scalar, if_pos (by decide), named]
      rfl
  | list items => cases single
  | object members => cases single

/-- What can be read as a scalar begins with no blank and with no bracket. -/
theorem front_of_scalar {b : UInt8} {rest : List UInt8} {found : Json × List UInt8}
    (read : scalar (b :: rest) = .ok found) :
    isBlank b = false ∧ b ≠ byte ']' ∧ b ≠ byte '[' ∧ b ≠ byte '\x7b' := by
  refine ⟨?_, ?_, ?_, ?_⟩
  · cases blank : isBlank b with
    | false => rfl
    | true =>
        simp only [isBlank, Bool.or_eq_true, beq_iff_eq] at blank
        obtain ((rfl | rfl) | rfl) | rfl := blank <;> cases read
  · rintro rfl
    cases read
  · rintro rfl
    cases read
  · rintro rfl
    cases read

/-- What can be read as a scalar is read so as a value. -/
theorem value_of_scalar {text : List UInt8} {found : Json × List UInt8}
    (read : scalar text = .ok found) : value depth text = .ok found := by
  cases text with
  | nil => cases read
  | cons b rest =>
      obtain ⟨-, -, list, object⟩ := front_of_scalar read
      cases depth with
      | zero => rw [value, if_neg (by simp [list, object]), read]
      | succ depth => rw [value, if_neg (by simpa using list), if_neg (by simpa using object), read]

end Read

/-- The first byte of a written value is no blank and does not end a list. -/
theorem head_write (legible : style.Legible) {v : Json} (readable : v.Readable depth) :
    ∃ b more, bytes (v.write style).toList = b :: more ∧ isBlank b = false ∧ b ≠ byte ']' := by
  cases single : isScalar v with
  | true =>
      have read := scalar_written legible readable single [] closes_nil
      rw [List.append_nil] at read
      cases text : bytes (v.write style).toList with
      | nil =>
          rw [text] at read
          cases read
      | cons b more =>
          rw [text] at read
          obtain ⟨filled, open_, -⟩ := front_of_scalar read
          exact ⟨b, more, rfl, filled, open_⟩
  | false =>
      cases v with
      | list items =>
          rw [toList_write_list, bytes_cons (by decide)]
          exact ⟨_, _, rfl, by decide, by decide⟩
      | object members =>
          rw [toList_write_object, bytes_cons (by decide)]
          exact ⟨_, _, rfl, by decide, by decide⟩
      | _ => cases single

namespace Read

/-! ### Lists and objects -/

theorem skipBlanks_cons {b : UInt8} (filled : isBlank b = false) (rest : List UInt8) :
    skipBlanks (b :: rest) = b :: rest := by
  rw [skipBlanks, List.dropWhile_cons, filled]
  rfl

theorem skipBlanks_append {blanks : List UInt8} (all : ∀ b ∈ blanks, isBlank b = true)
    (rest : List UInt8) : skipBlanks (blanks ++ rest) = skipBlanks rest :=
  List.dropWhile_append_of_pos all

/-- Blanks before a written value are skipped, and nothing of the value is. -/
theorem skipBlanks_write (legible : style.Legible) {v : Json} (readable : v.Readable depth)
    {blanks : List UInt8} (all : ∀ b ∈ blanks, isBlank b = true) (rest : List UInt8) :
    skipBlanks (blanks ++ (bytes (v.write style).toList ++ rest)) =
      bytes (v.write style).toList ++ rest := by
  obtain ⟨first, more, begins, filled, -⟩ := head_write legible readable
  rw [skipBlanks_append all, begins, List.cons_append, skipBlanks_cons filled]

/-- What follows an item of a list does not go on with a number. -/
theorem closes_itemsBehind (legible : style.Legible) (items : List Json) (rest : List UInt8) :
    Closes (bytes (itemsBehind style items) ++ rest) := by
  obtain ⟨blanks, comma, -⟩ := legible.comma
  cases items with
  | nil => exact closes_cons rfl rest
  | cons item items =>
      rw [itemsBehind, bytes_append, comma]
      exact closes_cons rfl _

/-- What follows a member of an object does not go on with a number. -/
theorem closes_membersBehind (legible : style.Legible) (members : List (String × Json))
    (rest : List UInt8) : Closes (bytes (membersBehind style members) ++ rest) := by
  obtain ⟨blanks, comma, -⟩ := legible.comma
  cases members with
  | nil => exact closes_cons rfl rest
  | cons m members =>
      rw [membersBehind, bytes_append, comma]
      exact closes_cons rfl _

/-- The items of a list are read back. -/
theorem items_written (legible : style.Legible) {reader : Reader Json} {item : Json}
    {others : List Json} (readable : ∀ v ∈ item :: others, v.Readable depth)
    (reads : ∀ v ∈ item :: others, ReadsBack style reader v) {fuel : Nat}
    (steps : others.length < fuel) (rest : List UInt8) :
    items reader fuel (bytes (item.write style).toList ++
      (bytes (itemsBehind style others) ++ rest)) = .ok (item :: others, rest) := by
  obtain ⟨fuel, rfl⟩ : ∃ n, fuel = n + 1 := ⟨fuel - 1, by omega⟩
  rw [items, reads item List.mem_cons_self _ (closes_itemsBehind legible others rest)]
  cases others with
  | nil => rfl
  | cons next others =>
      obtain ⟨blanks, comma, blank⟩ := legible.comma
      obtain ⟨first, more, begins, filled, continued⟩ :=
        head_write legible (readable next (by simp))
      have behind := items_written legible
        (fun v member => readable v (List.mem_cons_of_mem _ member))
        (fun v member => reads v (List.mem_cons_of_mem _ member)) (by simpa using steps) rest
      rw [begins, List.cons_append] at behind
      simp only [itemsBehind, bytes_append, comma, begins, List.cons_append, List.append_assoc]
      dsimp only [bind, Except.bind]
      rw [skipBlanks_cons (by decide)]
      dsimp only
      rw [if_neg (by decide), if_pos (by decide), skipBlanks_append blank, skipBlanks_cons filled]
      dsimp only
      rw [if_neg (by simpa using continued), behind]
      rfl
termination_by others.length

/-- The members of an object are read back, behind the quote that opens the first name. -/
theorem members_written (legible : style.Legible) {reader : Reader Json} {m : String × Json}
    {others : List (String × Json)} (readable : ∀ n ∈ m :: others, n.2.Readable depth)
    (reads : ∀ n ∈ m :: others, ReadsBack style reader n.2) {fuel : Nat}
    (steps : others.length < fuel) (rest : List UInt8) :
    ∃ inner, bytes (style.quote m.1).toList = byte '"' :: inner ∧
      members reader fuel (inner ++ (bytes style.colon.toList ++
        (bytes (m.2.write style).toList ++ (bytes (membersBehind style others) ++ rest)))) =
          .ok (m :: others, rest) := by
  obtain ⟨fuel, rfl⟩ : ∃ n, fuel = n + 1 := ⟨fuel - 1, by omega⟩
  obtain ⟨gap, colon, blank⟩ := legible.colon
  obtain ⟨inner, quoted, named⟩ := legible.quote m.1
  refine ⟨inner, quoted, ?_⟩
  -- The name, the colon and the value are read; what is behind them decides how it goes on.
  rw [members, named, colon, List.cons_append]
  dsimp only [bind, Except.bind]
  rw [skipBlanks_cons (by decide)]
  dsimp only [pure, Except.pure]
  rw [if_pos (by decide), skipBlanks_write legible (readable m List.mem_cons_self) blank,
    reads m List.mem_cons_self _ (closes_membersBehind legible others rest)]
  cases others with
  | nil => rfl
  | cons next others =>
      obtain ⟨blanks, comma, blankComma⟩ := legible.comma
      obtain ⟨nextInner, nextQuoted, behind⟩ := members_written legible
        (fun n member => readable n (List.mem_cons_of_mem _ member))
        (fun n member => reads n (List.mem_cons_of_mem _ member)) (by simpa using steps) rest
      dsimp only
      simp only [membersBehind, bytes_append, List.append_assoc]
      rw [comma, List.cons_append, skipBlanks_cons (by decide)]
      dsimp only
      rw [if_neg (by decide), if_pos (by decide), skipBlanks_append blankComma, nextQuoted,
        List.cons_append, skipBlanks_cons (by decide)]
      dsimp only
      rw [if_pos (by decide), behind]
termination_by others.length

/-- Each item but the first takes a byte at least. -/
theorem length_itemsBehind (legible : style.Legible) (items : List Json) :
    items.length < (bytes (itemsBehind style items)).length := by
  obtain ⟨blanks, comma, -⟩ := legible.comma
  induction items with
  | nil => exact Nat.zero_lt_one
  | cons item items ih =>
      simp only [itemsBehind, bytes_append, comma, List.length_append, List.length_cons]
      omega

/-- Each member but the first takes a byte at least. -/
theorem length_membersBehind (legible : style.Legible) (members : List (String × Json)) :
    members.length < (bytes (membersBehind style members)).length := by
  obtain ⟨blanks, comma, -⟩ := legible.comma
  induction members with
  | nil => exact Nat.zero_lt_one
  | cons m members ih =>
      simp only [membersBehind, bytes_append, comma, List.length_append, List.length_cons]
      omega

/-- A list is read back behind its opening bracket. -/
theorem list_written (legible : style.Legible) {reader : Reader Json} {items : List Json}
    (readable : ∀ v ∈ items, v.Readable depth) (reads : ∀ v ∈ items, ReadsBack style reader v)
    (rest : List UInt8) :
    list reader (bytes (itemsText style items) ++ rest) = .ok (.list items, rest) := by
  cases items with
  | nil => rfl
  | cons item others =>
      obtain ⟨first, more, begins, filled, open_⟩ :=
        head_write legible (readable item List.mem_cons_self)
      have count := length_itemsBehind legible others
      have enough : others.length <
          (more ++ (bytes (itemsBehind style others) ++ rest)).length + 1 := by
        simp only [List.length_append]
        omega
      have found := items_written legible readable reads enough rest
      rw [begins, List.cons_append] at found
      rw [list, itemsText, bytes_append, begins, List.append_assoc, List.cons_append,
        skipBlanks_cons filled]
      dsimp only
      rw [if_neg (by simpa using open_), found]
      rfl

/-- An object is read back behind its opening brace. -/
theorem object_written (legible : style.Legible) {reader : Reader Json}
    {members : List (String × Json)} (readable : ∀ m ∈ members, m.2.Readable depth)
    (reads : ∀ m ∈ members, ReadsBack style reader m.2) (rest : List UInt8) :
    object reader (bytes (membersText style members) ++ rest) = .ok (.object members, rest) := by
  cases members with
  | nil => rfl
  | cons m others =>
      obtain ⟨inner, quoted, -⟩ := legible.quote m.1
      have count := length_membersBehind legible others
      have enough : others.length < (inner ++ (bytes style.colon.toList ++
          (bytes (m.2.write style).toList ++
            (bytes (membersBehind style others) ++ rest)))).length + 1 := by
        simp only [List.length_append]
        omega
      obtain ⟨same, quotedSame, found⟩ := members_written legible readable reads enough rest
      obtain rfl : inner = same := (List.cons.inj (quoted.symm.trans quotedSame)).2
      rw [object, membersText]
      simp only [bytes_append, quoted, List.append_assoc, List.cons_append]
      rw [skipBlanks_cons (by decide)]
      dsimp only
      rw [if_neg (by decide), if_pos (by decide), found]
      rfl

/-- A value is read back by the reader for its depth. -/
theorem value_written (legible : style.Legible) {v : Json} (readable : v.Readable depth) :
    ReadsBack style (value depth) v := by
  induction depth generalizing v with
  | zero =>
      have single : isScalar v = true := by
        cases v with
        | list items => exact readable.elim
        | object members => exact readable.elim
        | _ => rfl
      exact fun rest closes => value_of_scalar (scalar_written legible readable single rest closes)
  | succ depth ih =>
      intro rest closes
      cases v with
      | list items =>
          rw [toList_write_list, bytes_cons (by decide), List.cons_append, value,
            if_pos (by decide)]
          exact list_written legible readable (fun v member => ih (readable v member)) rest
      | object members =>
          rw [toList_write_object, bytes_cons (by decide), List.cons_append, value,
            if_neg (by decide), if_pos (by decide)]
          exact object_written legible readable (fun m member => ih (readable m member)) rest
      | _ => exact value_of_scalar (scalar_written legible readable rfl rest closes)

end Read

/-- **Written values are read back.** A value without fractions that nests no deeper than the
reader goes is read from the bytes of its written form. -/
theorem read_write (legible : style.Legible) {v : Json} (readable : v.Readable depthLimit) :
    read (Text.Utf8.encode (v.write style)) = .ok v := by
  obtain ⟨first, more, begins, filled, -⟩ := head_write legible readable
  have found := Read.value_written legible readable [] closes_nil
  rw [List.append_nil] at found
  rw [read, Text.Utf8.encode_eq, begins, skipBlanks_cons filled, ← begins, found]
  rfl

/-! ## Characters -/

/-- The marks of the notation, and the letters of its words. -/
def signs : List Char :=
  ['[', ']', '\x7b', '\x7d', '-', 'n', 'u', 'l', 't', 'r', 'e', 'f', 'a', 's']

/-- A style that writes in characters with a property: the signs of the notation have it, the digits,
what the style puts between parts, and its quoted strings. -/
structure Style.Within (allowed : Char → Bool) (style : Style) : Prop where
  signs : ∀ c ∈ Json.signs, allowed c = true
  digits : ∀ c, Text.isAsciiDigit c = true → allowed c = true
  comma : style.comma.toList.all allowed = true
  colon : style.colon.toList.all allowed = true
  quote : ∀ s, (style.quote s).toList.all allowed = true

section

variable {allowed : Char → Bool} (within : style.Within allowed)

include within

theorem all_of_signs {s : List Char} (own : s.all signs.contains = true) :
    s.all allowed = true :=
  List.all_eq_true.mpr fun c member =>
    within.signs c (List.contains_iff_mem.mp (List.all_eq_true.mp own c member))

theorem all_itemsBehind {items : List Json}
    (each : ∀ item ∈ items, (item.write style).toList.all allowed = true) :
    (itemsBehind style items).all allowed = true := by
  induction items with
  | nil => exact all_of_signs within (s := [']']) rfl
  | cons item items ih =>
      obtain ⟨first, others⟩ := List.forall_mem_cons.mp each
      rw [itemsBehind, List.all_append, List.all_append, within.comma, first, ih others]
      rfl

theorem all_membersBehind {members : List (String × Json)}
    (each : ∀ m ∈ members, (m.2.write style).toList.all allowed = true) :
    (membersBehind style members).all allowed = true := by
  induction members with
  | nil => exact all_of_signs within (s := ['\x7d']) rfl
  | cons m members ih =>
      obtain ⟨first, others⟩ := List.forall_mem_cons.mp each
      rw [membersBehind, List.all_append, List.all_append, List.all_append, List.all_append,
        within.comma, within.quote, within.colon, first, ih others]
      rfl

theorem all_intText (n : Int) : (Number.intText n).toList.all allowed = true := by
  have digits (m : Nat) : m.repr.toList.all allowed = true :=
    List.all_eq_true.mpr fun c member => within.digits c (Number.isAsciiDigit_repr m c member)
  cases n with
  | ofNat n => exact digits n
  | negSucc n =>
      rw [Number.intText, String.toList_append, List.all_append, digits, Bool.and_true]
      exact all_of_signs within (by decide)

/-- A scalar is written in the characters that a style allows. -/
theorem all_write_scalar {v : Json} (readable : v.Readable depth)
    (single : Read.isScalar v = true) : (v.write style).toList.all allowed = true := by
  cases v with
  | null =>
      rw [write]
      exact all_of_signs within (by decide)
  | bool b =>
      cases b <;> (rw [write]; exact all_of_signs within (by decide))
  | int n =>
      rw [write]
      exact all_intText within n
  | float x => cases depth <;> exact readable.elim
  | text s =>
      rw [write]
      exact within.quote s
  | list items => cases single
  | object members => cases single

/-- **The characters of written values.** Whatever the strings in a value without fractions are, its
written form is made of the characters that the style allows. -/
theorem all_write {v : Json} (readable : v.Readable depth) :
    (v.write style).toList.all allowed = true := by
  induction depth generalizing v with
  | zero =>
      cases v with
      | list items => exact readable.elim
      | object members => exact readable.elim
      | _ => exact all_write_scalar within readable rfl
  | succ depth ih =>
      cases v with
      | list items =>
          have each (item : Json) (member : item ∈ items) := ih (readable item member)
          rw [toList_write_list, List.all_cons, within.signs '[' (by decide), Bool.true_and]
          cases items with
          | nil => exact all_of_signs within (s := [']']) rfl
          | cons item items =>
              obtain ⟨first, others⟩ := List.forall_mem_cons.mp each
              rw [itemsText, List.all_append, first, all_itemsBehind within others, Bool.and_self]
      | object members =>
          have each (m : String × Json) (member : m ∈ members) := ih (readable m member)
          rw [toList_write_object, List.all_cons, within.signs '\x7b' (by decide), Bool.true_and]
          cases members with
          | nil => exact all_of_signs within (s := ['\x7d']) rfl
          | cons m members =>
              obtain ⟨first, others⟩ := List.forall_mem_cons.mp each
              rw [membersText, List.all_append, List.all_append, List.all_append, within.quote,
                within.colon, first, all_membersBehind within others]
              rfl
      | _ => exact all_write_scalar within readable rfl

end

/-! ### Lines -/

/-- A style that begins no new line. -/
def Style.Inline (style : Style) : Prop := style.Within fun c => !Text.endsLine c

theorem Style.inline_compact : compact.Inline where
  signs := List.all_eq_true.mp (by decide)
  digits c digit := by
    have code := Read.code_of_digit digit
    rw [Bool.not_eq_true', Bool.eq_false_iff]
    intro ends
    simp only [Text.endsLine, Bool.or_eq_true, beq_iff_eq] at ends
    obtain rfl | rfl := ends
    · exact absurd code.1 (by decide)
    · exact absurd code.1 (by decide)
  comma := rfl
  colon := rfl
  quote s := by
    rw [toList_quote telling_compact]
    exact Text.oneLine_encode s.toList

/-- **Values are written on one line.** Whatever the strings in a value without fractions are, no
line ends in its written form. -/
theorem oneLine_write (inline : style.Inline) {v : Json} (readable : v.Readable depth) :
    Text.oneLine (v.write style).toList = true :=
  all_write inline readable

/-- What is written in ASCII alone is made of characters that print. -/
theorem Style.within_spacedAscii : spacedAscii.Within Text.isAsciiPrintable where
  signs := List.all_eq_true.mp (by decide)
  digits c digit := by
    have code := Read.code_of_digit digit
    rw [Text.isAsciiPrintable_iff]
    omega
  comma := by decide
  colon := by decide
  quote s := by
    rw [toList_quote_spacedAscii]
    exact Text.all_encodeAscii s.toList

end Json
end Wireframe
