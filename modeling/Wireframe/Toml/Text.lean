import Wireframe.Toml.Fault

/-! # Blanks, comments and strings of TOML

A string stands between single or double quotes. Between double quotes a backslash begins
an escape; between single ones every character stands for itself. Three quotes begin a
string that may hold line breaks. Control characters other than the tab stand nowhere.
-/

namespace Wireframe.Toml

/-- What a reader does with characters: it takes some from the front and tells what they mean. -/
abbrev Reader (α : Type) := List Char → Except Fault (α × List Char)

/-- A flaw at the front of some characters. -/
def flawAt (flaw : Flaw) (rest : List Char) : Fault := .flawed flaw rest.length

/-- The blanks within a line. -/
def isBlank (c : Char) : Bool := c == ' ' || c == '\t'

/-- The blanks and the line feed. -/
def isBlankOrBreak (c : Char) : Bool := isBlank c || c == '\n'

/-- The characters behind any blanks. -/
def skipBlanks (chars : List Char) : List Char := chars.dropWhile isBlank

/-- The control characters other than the tab. -/
def isControl (c : Char) : Bool := (c.toNat < 32 && c != '\t') || c.toNat == 127

/-- The control characters other than the tab and the line feed. -/
def isControlWithinLines (c : Char) : Bool := isControl c && c != '\n'

/-- Checks that no character of a stretch, with `rest` behind it, is of a class. -/
def checkStretch (forbidden : Char → Bool) (stretch rest : List Char) : Except Fault Unit :=
  match stretch.dropWhile fun c => !forbidden c with
  | [] => .ok ()
  | c :: more => .error (flawAt (.literalControl c) (c :: more ++ rest))

/-- The characters behind a comment, if there is one. -/
def skipComment (chars : List Char) : Except Fault (List Char) :=
  match chars with
  | '#' :: more => do
    let rest := more.dropWhile (· != '\n')
    checkStretch isControl (more.takeWhile (· != '\n')) rest
    return rest
  | _ => .ok chars

/-- The characters behind any blanks, line feeds and comments. Every comment ends before a line
feed, so there are at most `fuel` of them in that many characters. -/
def skipGaps : (fuel : Nat) → List Char → Except Fault (List Char)
  | 0, chars => .ok chars
  | fuel + 1, chars => do
    let rest ← skipComment (chars.dropWhile isBlankOrBreak)
    if rest.length == chars.length then return rest else skipGaps fuel rest

/-- The characters before the first place where a text stands, and those behind it. -/
def splitAtText (text : List Char) : List Char → Option (List Char × List Char)
  | [] => if text.isEmpty then some ([], []) else none
  | c :: rest =>
    if text.isPrefixOf (c :: rest) then some ([], (c :: rest).drop text.length)
    else (splitAtText text rest).map fun (before, after) => (c :: before, after)

/-- Reads characters up to a closing quote. -/
def literalUpTo (quote : List Char) (forbidden : Char → Bool) : Reader (List Char) := fun chars =>
  match splitAtText quote chars with
  | none => .error (flawAt (.quoteMissing (String.ofList quote)) [])
  | some (content, rest) => do
    checkStretch forbidden content (quote ++ rest)
    return (content, rest)

/-- The characters that an escape of one letter stands for. -/
def shortEscape? : Char → Option Char
  | 'b' => some '\x08'
  | 't' => some '\t'
  | 'n' => some '\n'
  | 'f' => some '\x0c'
  | 'r' => some '\r'
  | '"' => some '"'
  | '\\' => some '\\'
  | _ => none

/-- Reads the hexadecimal number of a character with so many digits. -/
def numberedChar (width : Nat) : Reader (List Char) := fun chars =>
  let digits := chars.take width
  if digits.length == width && digits.all Text.isHexDigit then
    let n := Text.numberOfDigits 16 digits
    let rest := chars.drop width
    if n < 0xD800 || (0xE000 ≤ n && n < 0x110000) then .ok ([Char.ofNat n], rest)
    else .error (flawAt .notScalarValue rest)
  else .error (flawAt .badHexDigits chars)

/-- Reads an escape behind its backslash. -/
def escape : Reader (List Char)
  | [] => .error (flawAt .badEscape [])
  | 'u' :: rest => numberedChar 4 rest
  | 'U' :: rest => numberedChar 8 rest
  | c :: rest =>
    match shortEscape? c with
    | some found => .ok ([found], rest)
    | none => .error (flawAt .badEscape rest)

/-- Reads an escape behind its backslash, where a backslash before a line break takes the break away
with all blanks and breaks that follow it. -/
def escapeWithinLines : Reader (List Char) := fun chars =>
  match chars with
  | '\n' :: rest => .ok ([], rest.dropWhile isBlankOrBreak)
  | c :: rest =>
    if isBlank c then
      match skipBlanks rest with
      | [] => .ok ([], [])
      | '\n' :: more => .ok ([], more.dropWhile isBlankOrBreak)
      | other => .error (flawAt .badEscape other)
    else escape chars
  | [] => escape []

/-- Reads the characters of a string up to its closing quotes. Every step takes a character at least,
so `fuel` steps are enough for that many characters. -/
def escapedUpTo (quote : List Char) (forbidden : Char → Bool) (escaped : Reader (List Char)) :
    (fuel : Nat) → Reader (List Char)
  | 0, chars => .error (flawAt .stringUnclosed chars)
  | _ + 1, [] => .error (flawAt .stringUnclosed [])
  | fuel + 1, c :: rest =>
    if quote.isPrefixOf (c :: rest) then .ok ([], (c :: rest).drop quote.length)
    else if c == '\\' then do
      let (found, rest) ← escaped rest
      let (more, rest) ← escapedUpTo quote forbidden escaped fuel rest
      return (found ++ more, rest)
    else if forbidden c then .error (flawAt (.stringControl c) (c :: rest))
    else do
      let (more, rest) ← escapedUpTo quote forbidden escaped fuel rest
      return (c :: more, rest)

/-- Up to two more quotes behind the closing ones belong to the string. -/
def withFurtherQuotes (quote : Char) (content rest : List Char) : List Char × List Char :=
  let further := (rest.take 2).takeWhile (· == quote)
  (content ++ further, rest.drop further.length)

/-- Leaves out a line feed at the front. -/
def dropFirstBreak : List Char → List Char
  | '\n' :: rest => rest
  | chars => chars

/-- Reads a string within one line, behind its opening single quote. -/
def literalString : Reader String := fun chars => do
  let (content, rest) ← literalUpTo ['\''] isControl chars
  return (String.ofList content, rest)

/-- Reads a string within one line, behind its opening double quote. -/
def basicString : Reader String := fun chars => do
  let (content, rest) ← escapedUpTo ['"'] isControl escape (chars.length + 1) chars
  return (String.ofList content, rest)

/-- Reads a string of several lines, behind its three opening single quotes. -/
def literalLines : Reader String := fun chars => do
  let (content, rest) ← literalUpTo ['\'', '\'', '\''] isControlWithinLines (dropFirstBreak chars)
  let (content, rest) := withFurtherQuotes '\'' content rest
  return (String.ofList content, rest)

/-- Reads a string of several lines, behind its three opening double quotes. -/
def basicLines : Reader String := fun chars => do
  let (content, rest) ←
    escapedUpTo ['"', '"', '"'] isControlWithinLines escapeWithinLines (chars.length + 1)
      (dropFirstBreak chars)
  let (content, rest) := withFurtherQuotes '"' content rest
  return (String.ofList content, rest)

end Wireframe.Toml
