import Wireframe.Text.Digit
import Wireframe.Text.Halves
import Wireframe.Text.Printable

/-! # Spelled-out text

The form in which a message quotes a piece of its input, so that every character can
be seen: single quotes around it unless only double quotes avoid an escape, short
escapes for the common controls, and a hexadecimal escape of two, four or eight digits
for any other character without a glyph.
-/

namespace Wireframe.Text.Spelled

/-- A hexadecimal escape of the least width that holds the code point. -/
def codeEscape (n : Nat) : List Char :=
  if n ≤ 0xFF then '\\' :: 'x' :: hexText 2 n
  else if n ≤ 0xFFFF then '\\' :: 'u' :: hexText 4 n
  else '\\' :: 'U' :: hexText 8 n

/-- How one character is written between quotes of the kind `quote`. -/
def encodeChar (quote c : Char) : List Char :=
  if c == quote || c == '\\' then ['\\', c]
  else if c == '\n' then ['\\', 'n']
  else if c == '\r' then ['\\', 'r']
  else if c == '\t' then ['\\', 't']
  else if isPrintable c then [c]
  else codeEscape c.toNat

/-- Double quotes are used when the text holds a single quote and no double one. -/
def quoteFor (s : List Char) : Char :=
  if s.contains '\'' && !s.contains '"' then '"' else '\''

/-- A text between quotes. -/
def encode (s : List Char) : List Char :=
  let quote := quoteFor s
  quote :: s.flatMap (encodeChar quote) ++ [quote]

/-- How one code point is written between quotes of the kind `quote`: half of a surrogate pair is
escaped. -/
def encodeCode (quote : Char) (code : Nat) : List Char :=
  if isHalf code then codeEscape code else encodeChar quote (Char.ofNat code)

/-- Code points between quotes. -/
def encodeCodes (codes : List Nat) : List Char :=
  let quote := quoteFor (codes.map charOfCode)
  quote :: codes.flatMap (encodeCode quote) ++ [quote]

/-- How one byte is written between quotes of the kind `quote`: bytes outside printable ASCII
are escaped. -/
def encodeByte (quote : Char) (b : UInt8) : List Char :=
  let c := Char.ofNat b.toNat
  if b.toNat < 0x7F then encodeChar quote c else '\\' :: 'x' :: hexText 2 b.toNat

/-- A run of bytes between quotes, marked by a leading `b`. -/
def encodeBytes (bytes : List UInt8) : List Char :=
  let quote := quoteFor (bytes.map fun b => Char.ofNat b.toNat)
  'b' :: quote :: bytes.flatMap (encodeByte quote) ++ [quote]

end Wireframe.Text.Spelled

namespace Wireframe.Text

/-- A string spelled out between quotes. -/
def spelled (s : String) : String := String.ofList (Spelled.encode s.toList)

/-- A character spelled out between quotes. -/
def spelledChar (c : Char) : String := String.ofList (Spelled.encode [c])

end Wireframe.Text
