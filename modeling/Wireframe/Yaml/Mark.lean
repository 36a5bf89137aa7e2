/-! # Places in a text

A cursor reads a text from front to back and keeps count of lines and columns. At the end
of the text it sees the character U+0000, which no text that is read contains.
-/

namespace Wireframe.Yaml

/-- A line and a column, both counted from zero. -/
structure Mark where
  line : Nat
  column : Nat
deriving DecidableEq, Repr

/-- The rest of a text and the place where it begins. -/
structure Cursor where
  rest : List Char
  index : Nat
  line : Nat
  column : Nat

namespace Cursor

/-- The beginning of a text. -/
def start (text : List Char) : Cursor := ⟨text, 0, 0, 0⟩

/-- The place of a cursor. -/
def mark (c : Cursor) : Mark := ⟨c.line, c.column⟩

/-- The next character. -/
def peek (c : Cursor) : Char := c.rest.headD '\x00'

/-- The character `k` places after the next one. -/
def peekAt (c : Cursor) (k : Nat) : Char := c.rest.getD k '\x00'

/-- Whether a character begins a new line when `next` follows it. -/
def endsLine (ch : Char) (next : List Char) : Bool :=
  ch == '\n' || ch.toNat == 0x85 || ch.toNat == 0x2028 || ch.toNat == 0x2029 ||
    (ch == '\r' && next.head? != some '\n')

/-- Reads one character. A byte order mark takes no column. -/
def advance (c : Cursor) : Cursor :=
  match c.rest with
  | [] => c
  | ch :: rest =>
    if endsLine ch rest then ⟨rest, c.index + 1, c.line + 1, 0⟩
    else if ch.toNat == 0xFEFF then ⟨rest, c.index + 1, c.line, c.column⟩
    else ⟨rest, c.index + 1, c.line, c.column + 1⟩

/-- Reads `n` characters. -/
def skip : (n : Nat) → Cursor → Cursor
  | 0, c => c
  | n + 1, c => skip n c.advance

/-- The number of characters before the first one outside a class. -/
def countWhile (p : Char → Bool) (c : Cursor) : Nat := (c.rest.takeWhile p).length

/-- Reads the characters up to the first one outside a class. -/
def skipWhile (p : Char → Bool) (c : Cursor) : Cursor := c.skip (c.countWhile p)

end Cursor

/-- A character that ends a line. -/
def isBreak (c : Char) : Bool :=
  c == '\n' || c == '\r' || c.toNat == 0x85 || c.toNat == 0x2028 || c.toNat == 0x2029

/-- A line end, or the end of the text. -/
def isBreakOrEnd (c : Char) : Bool := c == '\x00' || isBreak c

/-- A line end, the end of the text, or a space. -/
def isSpaceOrEnd (c : Char) : Bool := c == ' ' || isBreakOrEnd c

/-- A line end, the end of the text, a space or a tab. -/
def isGapOrEnd (c : Char) : Bool := c == '\t' || isSpaceOrEnd c

end Wireframe.Yaml
