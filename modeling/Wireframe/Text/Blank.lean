/-! # Blank characters

Which characters separate words: the white space and separator characters of
Unicode together with the four information separators. A text is trimmed and cut
into words along these characters, so a text that consists of them alone has no
words and trims to nothing.
-/

namespace Wireframe.Text

/-- The white space of Unicode. -/
def isWhiteSpace (c : Char) : Bool :=
  let n := c.toNat
  (9 ≤ n && n ≤ 13) || n == 32 || n == 0x85 || n == 0xA0 || n == 0x1680 ||
    (0x2000 ≤ n && n ≤ 0x200A) || n == 0x2028 || n == 0x2029 || n == 0x202F || n == 0x205F ||
    n == 0x3000

/-- The white space of Unicode, with the information separators U+001C to U+001F. -/
def isBlank (c : Char) : Bool := isWhiteSpace c || (28 ≤ c.toNat && c.toNat ≤ 31)

/-- A text without a character that is not blank. -/
def allBlank (s : List Char) : Bool := s.all isBlank

/-- The text after its leading blank characters. -/
def trimStart (s : List Char) : List Char := s.dropWhile isBlank

/-- The text up to its trailing blank characters. -/
def trimEnd (s : List Char) : List Char := (s.reverse.dropWhile isBlank).reverse

/-- The text between its leading and its trailing blank characters. -/
def trim (s : List Char) : List Char := trimEnd (trimStart s)

/-- Cuts off the first word of a text; `current` holds its characters read so far, last one
first. -/
def wordsFrom (current : List Char) : List Char → List (List Char)
  | [] => if current.isEmpty then [] else [current.reverse]
  | c :: rest =>
    if isBlank c then
      if current.isEmpty then wordsFrom [] rest else current.reverse :: wordsFrom [] rest
    else wordsFrom (c :: current) rest

/-- The maximal runs of characters that are not blank, in order. -/
def words (s : List Char) : List (List Char) := wordsFrom [] s

end Wireframe.Text
