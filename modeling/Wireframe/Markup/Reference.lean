import Wireframe.Markup.Names
import Wireframe.Text.Digit

/-! # Character references

A reference stands for a character by its number, in base ten or sixteen, or by its name.
Numbers that no document may use stand for a replacement or for nothing. Of a name that
is not known, the longest known beginning counts and the rest is text; without one, the
reference is text as it stands.
-/

namespace Wireframe.Markup

/-- The characters that the numbers from U+0080 to U+009F stand for. -/
def windowsCharacters : List Nat :=
  [0x20AC, 0x81, 0x201A, 0x192, 0x201E, 0x2026, 0x2020, 0x2021, 0x2C6, 0x2030, 0x160, 0x2039,
   0x152, 0x8D, 0x17D, 0x8F, 0x90, 0x2018, 0x2019, 0x201C, 0x201D, 0x2022, 0x2013, 0x2014, 0x2DC,
   0x2122, 0x161, 0x203A, 0x153, 0x9D, 0x17E, 0x178]

/-- The numbers of characters that may not appear in a document. -/
def isForbidden (n : Nat) : Bool :=
  (1 ≤ n && n ≤ 8) || n == 0xB || (0xE ≤ n && n ≤ 0x1F) || (0x7F ≤ n && n ≤ 0x9F) ||
    (0xFDD0 ≤ n && n ≤ 0xFDEF) || 0xFFFE ≤ n % 0x10000

/-- The text that a numeric reference stands for. -/
def characterNumbered (n : Nat) : List Char :=
  if n == 0 then ['\uFFFD']
  else if n == 0x0D then ['\r']
  else if 0x80 ≤ n && n ≤ 0x9F then
    ((windowsCharacters[n - 0x80]?).map Char.ofNat).toList
  else if (0xD800 ≤ n && n ≤ 0xDFFF) || 0x10FFFF < n then ['\uFFFD']
  else if isForbidden n then []
  else [Char.ofNat n]

/-- A character that a name in a reference may hold. -/
def isReferenceChar (c : Char) : Bool :=
  !(c == '\t' || c == '\n' || c.toNat == 12 || c == ' ' || c == '<' || c == '&' || c == '#' ||
    c == ';')

/-- The most characters of a name in a reference, its semicolon aside. -/
def nameLimit : Nat := 32

/-- The text that a name stands for, where the name may need a semicolon. -/
def namedText? (name : List Char) (semicolon : Bool) : Option (List Char) :=
  let name := String.ofList name
  if semicolon || namesWithoutSemicolon.contains name then
    (characterNamed? name).map String.toList
  else none

/-- The longest beginning of a name that is known without a semicolon, of at most `length`
characters and at least two, with what follows it. -/
def knownBeginning? (name : List Char) : (length : Nat) → Option (List Char)
  | 0 | 1 => none
  | length + 1 =>
    match namedText? (name.take (length + 1)) false with
    | some chars => some (chars ++ name.drop (length + 1))
    | none => knownBeginning? name length

/-- The text of a reference by name, behind its ampersand. -/
def namedReference (name : List Char) (semicolon : Bool) : List Char :=
  let ending := if semicolon then [';'] else []
  match namedText? name semicolon with
  | some chars => chars
  | none =>
    match knownBeginning? name (name.length - if semicolon then 0 else 1) with
    | some chars => chars ++ ending
    | none => '&' :: (name ++ ending)

/-- Whether a semicolon comes next. -/
def endsReference (s : List Char) : Bool := s.head? == some ';'

/-- The number of a numeric reference at the front of a text, with the characters it takes: digits
of a base, and a semicolon if there is one. -/
def numberAtFront? (base : Nat) (isDigit : Char → Bool) (s : List Char) : Option (Nat × Nat) :=
  let digits := s.takeWhile isDigit
  if digits.isEmpty then none
  else
    some (Text.numberOfDigits base digits,
      digits.length + if endsReference (s.dropWhile isDigit) then 1 else 0)

/-- The text of a reference at the front of what follows an ampersand, with the characters that the
reference takes. -/
def referenceAtFront? (s : List Char) : Option (List Char × Nat) :=
  match s with
  | '#' :: 'x' :: rest | '#' :: 'X' :: rest =>
    (numberAtFront? 16 Text.isHexDigit rest).map fun (n, length) =>
      (characterNumbered n, length + 2)
  | '#' :: rest =>
    (numberAtFront? 10 Text.isAsciiDigit rest).map fun (n, length) =>
      (characterNumbered n, length + 1)
  | _ =>
    let name := (s.takeWhile isReferenceChar).take nameLimit
    if name.isEmpty then none
    else
      let semicolon := endsReference (s.drop name.length)
      some (namedReference name semicolon, name.length + if semicolon then 1 else 0)

/-- Resolves the references in a text, where some characters are still to be passed over. -/
def resolveFrom : (passed : Nat) → List Char → List Char
  | _, [] => []
  | passed + 1, _ :: rest => resolveFrom passed rest
  | 0, c :: rest =>
    if c == '&' then
      match referenceAtFront? rest with
      | some (chars, length) => chars ++ resolveFrom length rest
      | none => c :: resolveFrom 0 rest
    else c :: resolveFrom 0 rest

/-- A text with its references resolved. -/
def resolveReferences (s : List Char) : List Char := resolveFrom 0 s

end Wireframe.Markup
