import Wireframe.Text.Digit

/-! # Quoted text

A text between double quotes in which the quote, the backslash and the control
characters are written as escapes. The form is that of a JSON string, and of a string
literal in script code as well. Two variants exist: one keeps every other character as
it is, the other writes every character outside ASCII as its UTF-16 units.
-/

namespace Wireframe.Text.Quoted

/-- The four digits after `\u`. -/
def unitEscape (n : Nat) : List Char := '\\' :: 'u' :: hexText 4 n

/-- How one character is written when characters outside ASCII stay as they are. -/
def encodeChar (c : Char) : List Char :=
  if c == '"' then ['\\', '"']
  else if c == '\\' then ['\\', '\\']
  else if c == '\n' then ['\\', 'n']
  else if c == '\r' then ['\\', 'r']
  else if c == '\t' then ['\\', 't']
  else if c.toNat == 8 then ['\\', 'b']
  else if c.toNat == 12 then ['\\', 'f']
  else if c.toNat < 0x20 then unitEscape c.toNat
  else [c]

/-- How one character is written when only printable ASCII may appear: characters from U+007F on
as one UTF-16 unit or as a pair of them. -/
def encodeAsciiChar (c : Char) : List Char :=
  let n := c.toNat
  if n < 0x7F then encodeChar c
  else if n < 0x10000 then unitEscape n
  else
    unitEscape (0xD800 + (n - 0x10000) / 0x400) ++ unitEscape (0xDC00 + (n - 0x10000) % 0x400)

/-- The text between quotes, characters outside ASCII kept. -/
def encode (s : List Char) : List Char := '"' :: s.flatMap encodeChar ++ ['"']

/-- The text between quotes, in ASCII alone. -/
def encodeAscii (s : List Char) : List Char := '"' :: s.flatMap encodeAsciiChar ++ ['"']

end Wireframe.Text.Quoted

namespace Wireframe.Text

/-- A string literal, with characters outside ASCII kept. -/
def quoted (s : String) : String := String.ofList (Quoted.encode s.toList)

/-- A string literal in ASCII alone. -/
def quotedAscii (s : String) : String := String.ofList (Quoted.encodeAscii s.toList)

end Wireframe.Text
