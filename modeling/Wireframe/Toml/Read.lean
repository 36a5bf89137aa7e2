import Wireframe.Toml.Draft
import Wireframe.Toml.Scalar

/-! # Reading TOML

A TOML text is read statement by statement. A statement declares a table, adds a table to
an array of tables, or sets a value in the table that was declared last.
-/

namespace Wireframe.Toml

/-- The characters of a name without quotes. -/
def isBareName (c : Char) : Bool :=
  Text.isAsciiLetter c || Text.isAsciiDigit c || c == '-' || c == '_'

/-- The characters that can begin a key. -/
def beginsKey (c : Char) : Bool := isBareName c || c == '"' || c == '\''

/-- Reads a name of a key. -/
def name : Reader String := fun chars =>
  match chars with
  | '"' :: rest => basicString rest
  | '\'' :: rest => literalString rest
  | c :: _ =>
    if isBareName c then
      .ok (String.ofList (chars.takeWhile isBareName), chars.dropWhile isBareName)
    else .error (flawAt .keyStart chars)
  | [] => .error (flawAt .keyStart [])

/-- Reads the names of a key, and the blanks behind it. There are at most `fuel` names in that many
characters. -/
def names : (fuel : Nat) → Reader Key
  | 0, chars => .error (flawAt .keyStart chars)
  | fuel + 1, chars => do
    let (first, rest) ← name chars
    match skipBlanks rest with
    | '.' :: rest =>
      let (more, rest) ← names fuel (skipBlanks rest)
      return (first :: more, rest)
    | rest => return ([first], rest)

/-- Reads a key: names with points between them. -/
def key : Reader Key := fun chars => names (chars.length + 1) chars

/-- Reads a key, an equals sign and a value. -/
def entry (value : Reader Value) : Reader (Key × Value) := fun chars => do
  let (key, rest) ← key chars
  match rest with
  | '=' :: rest =>
    let (found, rest) ← value (skipBlanks rest)
    return ((key, found), rest)
  | _ => throw (flawAt .equalsMissing rest)

/-- Reads the items of an array up to its closing bracket. -/
def items (value : Reader Value) : (fuel : Nat) → Reader (List Value)
  | 0, chars => .error (flawAt .arrayUnclosed chars)
  | fuel + 1, chars => do
    match ← skipGaps (chars.length + 1) chars with
    | ']' :: rest => return ([], rest)
    | chars =>
      let (first, rest) ← value chars
      match ← skipGaps (rest.length + 1) rest with
      | ']' :: rest => return ([first], rest)
      | ',' :: rest =>
        let (more, rest) ← items value fuel rest
        return (first :: more, rest)
      | rest => throw (flawAt .arrayUnclosed rest)

/-- Puts the place where a reader stands to what a draft says. -/
def placed {α : Type} (rest : List Char) (result : Except Flaw α) : Except Fault α :=
  result.mapError fun flaw => flawAt flaw rest

/-- Reads the entries of an inline table up to its closing brace; there is one at least. -/
def inlineEntries (value : Reader Value) : (fuel : Nat) → InlineDraft → Reader Entries
  | 0, _, chars => .error (flawAt .inlineTableUnclosed chars)
  | fuel + 1, draft, chars => do
    let ((key, found), rest) ← entry value chars
    let draft ← placed rest (draft.setValue key found)
    match skipBlanks rest with
    | '\x7d' :: rest => return (draft.entries, rest)
    | ',' :: rest => inlineEntries value fuel draft (skipBlanks rest)
    | rest => throw (flawAt .inlineTableUnclosed rest)

/-- Reads an inline table behind its opening brace. -/
def inlineTable (value : Reader Value) : Reader Entries := fun chars =>
  match skipBlanks chars with
  | '\x7d' :: rest => .ok ([], rest)
  | chars => inlineEntries value (chars.length + 1) .empty chars

/-- Reads a value. Each array and each inline table takes a bracket, so `fuel` levels are enough for
that many characters. -/
def value : (fuel : Nat) → Reader Value
  | 0, chars => .error (flawAt .notValue chars)
  | fuel + 1, chars =>
    let string (reader : Reader String) (rest : List Char) : Except Fault (Value × List Char) :=
      (reader rest).map fun (s, rest) => (.text s, rest)
    match chars with
    | '"' :: '"' :: '"' :: rest => string basicLines rest
    | '"' :: rest => string basicString rest
    | '\'' :: '\'' :: '\'' :: rest => string literalLines rest
    | '\'' :: rest => string literalString rest
    | 't' :: 'r' :: 'u' :: 'e' :: rest => .ok (.bool true, rest)
    | 'f' :: 'a' :: 'l' :: 's' :: 'e' :: rest => .ok (.bool false, rest)
    | '[' :: rest => do
      let (found, rest) ← items (value fuel) (rest.length + 1) rest
      return (.list found, rest)
    | '\x7b' :: rest => do
      let (found, rest) ← inlineTable (value fuel) rest
      return (.map found, rest)
    | _ => bareScalar chars

/-- Reads the key of a table declaration and the brackets that close it, and declares the table. -/
def declaration (closing : List Char) (unclosed : Flaw) (declare : Key → Except Flaw Draft) :
    Reader Draft := fun chars => do
  let (key, rest) ← key (skipBlanks chars)
  let draft ← placed rest (declare key)
  if closing.isPrefixOf rest then return (draft, rest.drop closing.length)
  else throw (flawAt unclosed rest)

/-- Reads a statement, if one comes next. -/
def statement (draft : Draft) : Reader Draft := fun chars =>
  let settled := { draft with marks := draft.marks.settle }
  match chars with
  | '[' :: '[' :: rest => declaration [']', ']'] .tableArrayUnclosed settled.appendTable rest
  | '[' :: rest => declaration [']'] .tableUnclosed settled.declareTable rest
  | '#' :: _ => .ok (draft, chars)
  | c :: _ =>
    if beginsKey c then do
      let ((key, found), rest) ← entry (value (chars.length + 1)) chars
      return (← placed rest (draft.setValue key found), rest)
    else .error (flawAt .notStatement chars)
  | [] => .ok (draft, [])

/-- Reads the statements of a text, one a line. There are at most `fuel` lines in that many
characters. -/
def statements : (fuel : Nat) → Draft → List Char → Except Fault Draft
  | 0, draft, _ => .ok draft
  | fuel + 1, draft, chars =>
    match skipBlanks chars with
    | [] => .ok draft
    | '\n' :: rest => statements fuel draft rest
    | chars => do
      let (draft, rest) ← statement draft chars
      match ← skipComment (skipBlanks rest) with
      | [] => return draft
      | '\n' :: rest => statements fuel draft rest
      | rest => throw (flawAt .statementGoesOn rest)

/-- The entries of a TOML text. Its lines end in line feeds alone. -/
def read (chars : List Char) : Except Fault Entries :=
  (statements (chars.length + 1) .empty chars).map (·.entries)

end Wireframe.Toml
