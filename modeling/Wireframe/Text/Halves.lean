/-! # Halves of surrogate pairs

A source may write a text by the numbers of its code points, and among them halves of
surrogate pairs. These are no characters, and no encoding writes a text that holds one. Such
a text is kept as the list of its code points; where something has to be shown in its place,
each half is shown as the replacement character.
-/

namespace Wireframe.Text

/-- A code point that is half of a surrogate pair. -/
def isHalf (code : Nat) : Bool := 0xD800 ≤ code && code ≤ 0xDFFF

/-- The character with a code point, or what is shown for half of a surrogate pair. -/
def charOfCode (code : Nat) : Char :=
  if isHalf code then Char.ofNat 0xFFFD else Char.ofNat code

/-- The code points of a text. -/
def codes (s : String) : List Nat := s.toList.map Char.toNat

/-- What is shown for a list of code points: the text that they are, unless there are halves. -/
def ofCodes (codes : List Nat) : String := String.ofList (codes.map charOfCode)

/-- A list of code points that is no text, since it holds half of a surrogate pair. -/
def hasHalf (codes : List Nat) : Bool := codes.any isHalf

end Wireframe.Text
