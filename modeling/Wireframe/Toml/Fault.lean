import Wireframe.Value

/-! # What can be wrong with a TOML text

A text may break a rule of the notation, or it may say something that contradicts what
it said before: a table cannot be declared twice, a key cannot have two values, and
what was written as one value cannot be added to later.
-/

namespace Wireframe.Toml

/-- The names that lead to a value, from the outermost table on. -/
abbrev Key := List String

/-- A key as a message quotes it. -/
def Key.literal (key : Key) : String := (Value.tuple (key.map .text)).literal

/-- What is wrong with a TOML text. -/
inductive Flaw where
  | notStatement
  | statementGoesOn
  | keyStart
  | equalsMissing
  | tableUnclosed
  | tableArrayUnclosed
  | arrayUnclosed
  | inlineTableUnclosed
  | stringUnclosed
  | quoteMissing (quote : String)
  /-- A control character in a comment or in a literal string. -/
  | literalControl (found : Char)
  /-- A control character in a string with escapes. -/
  | stringControl (found : Char)
  | badEscape
  | badHexDigits
  | notScalarValue
  | badDate
  | notValue
  | declaredTwice (key : Key)
  | immutable (key : Key)
  | redefined (key : Key)
  | overwritten
  | duplicateKey (name : String)
deriving DecidableEq, Repr

/-- The flaw in words. -/
def Flaw.message : Flaw → String
  | .notStatement => "Invalid statement"
  | .statementGoesOn => "Expected newline or end of document after a statement"
  | .keyStart => "Invalid initial character for a key part"
  | .equalsMissing => "Expected '=' after a key in a key/value pair"
  | .tableUnclosed => "Expected ']' at the end of a table declaration"
  | .tableArrayUnclosed => "Expected ']]' at the end of an array declaration"
  | .arrayUnclosed => "Unclosed array"
  | .inlineTableUnclosed => "Unclosed inline table"
  | .stringUnclosed => "Unterminated string"
  | .quoteMissing quote => "Expected " ++ Text.spelled quote
  | .literalControl found => "Found invalid character " ++ Text.spelledChar found
  | .stringControl found => "Illegal character " ++ Text.spelledChar found
  | .badEscape => "Unescaped '\\' in a string"
  | .badHexDigits => "Invalid hex value"
  | .notScalarValue => "Escaped character is not a Unicode scalar value"
  | .badDate => "Invalid date or datetime"
  | .notValue => "Invalid value"
  | .declaredTwice key => "Cannot declare " ++ key.literal ++ " twice"
  | .immutable key => "Cannot mutate immutable namespace " ++ key.literal
  | .redefined key => "Cannot redefine namespace " ++ key.literal
  | .overwritten => "Cannot overwrite a value"
  | .duplicateKey name => "Duplicate inline table key " ++ Text.spelled name

/-- Why a TOML text has no value. -/
inductive Fault where
  /-- A flaw, with the number of characters that were unread where it was found. -/
  | flawed (flaw : Flaw) (unread : Nat)
  /-- A whole number of more digits than are read. -/
  | tooManyDigits (count : Nat)
deriving DecidableEq, Repr

/-- A place in a text: the line and the column of a character, both counted from one, or the end. -/
def placeText (source : List Char) (unread : Nat) : String :=
  if unread == 0 then "end of document"
  else
    let before := source.take (source.length - unread)
    "line " ++ Nat.repr (before.count '\n' + 1) ++
      ", column " ++ Nat.repr ((before.reverse.takeWhile (· != '\n')).length + 1)

end Wireframe.Toml
