import Wireframe.Json.Basic
import Wireframe.Number.Read
import Wireframe.Text.Utf8

/-! # Reading JSON

A reader of JSON texts from their bytes. It takes the standard notation and, beside it,
the words `NaN`, `Infinity` and `-Infinity` as numbers. Lists and objects nest up to a
fixed depth.

When a text is broken, the reader tells the first flaw it meets and how many bytes were
still unread there. The line and the column that a message shows are counted from that,
in bytes.
-/

namespace Wireframe.Json

/-- What is wrong with a JSON text. -/
inductive Flaw where
  | valueEnds
  | listEnds
  | objectEnds
  | stringEnds
  | expectedValue
  | expectedWord
  | expectedColon
  | expectedListStep
  | expectedObjectStep
  | trailingComma
  | keyNotString
  | invalidNumber
  | invalidEscape
  | loneSurrogate
  | controlCharacter
  | invalidText
  | trailingCharacters
  | tooDeep
deriving DecidableEq, Repr

/-- The flaw in words. -/
def Flaw.message : Flaw → String
  | .valueEnds => "EOF while parsing a value"
  | .listEnds => "EOF while parsing a list"
  | .objectEnds => "EOF while parsing an object"
  | .stringEnds => "EOF while parsing a string"
  | .expectedValue => "expected value"
  | .expectedWord => "expected ident"
  | .expectedColon => "expected \x60:\x60"
  | .expectedListStep => "expected \x60,\x60 or \x60]\x60"
  | .expectedObjectStep => "expected \x60,\x60 or \x60\x7d\x60"
  | .trailingComma => "trailing comma"
  | .keyNotString => "key must be a string"
  | .invalidNumber => "invalid number"
  | .invalidEscape => "invalid escape"
  | .loneSurrogate => "lone leading surrogate in hex escape"
  | .controlCharacter =>
    "control character (\\u0000-\\u001F) found while parsing a string"
  | .invalidText => "invalid unicode code point"
  | .trailingCharacters => "trailing characters"
  | .tooDeep => "recursion limit exceeded"

/-- A flaw, with the number of bytes that were unread where it was found. -/
structure Fault where
  flaw : Flaw
  unread : Nat
deriving DecidableEq, Repr

/-- What a reader does with bytes: it takes some from the front and tells what they mean. -/
abbrev Reader (α : Type) := List UInt8 → Except Fault (α × List UInt8)

namespace Read

/-- The byte of an ASCII character. -/
def byte (c : Char) : UInt8 := c.toNat.toUInt8

/-- The blanks of JSON: space, tab, line feed and carriage return. -/
def isBlank (b : UInt8) : Bool := b == 0x20 || b == 0x09 || b == 0x0A || b == 0x0D

/-- The bytes behind any blanks. -/
def skipBlanks (bytes : List UInt8) : List UInt8 := bytes.dropWhile isBlank

/-- A fault at the front of some bytes. -/
def faultAt (flaw : Flaw) (rest : List UInt8) : Fault := ⟨flaw, rest.length⟩

/-- A decimal digit. -/
def isDigit (b : UInt8) : Bool := 0x30 ≤ b && b ≤ 0x39

/-- Reads the rest of a word, letter by letter. -/
def word : List Char → List UInt8 → Except Fault (List UInt8)
  | [], rest => .ok rest
  | _ :: _, [] => .error (faultAt .valueEnds [])
  | c :: more, b :: rest =>
    if b == byte c then word more rest else .error (faultAt .expectedWord (b :: rest))

/-- Reads a run of at least one digit. -/
def digits (bytes : List UInt8) : Except Fault (List Char × List UInt8) :=
  match bytes with
  | [] => .error (faultAt .valueEnds [])
  | b :: _ =>
    if isDigit b then
      .ok ((bytes.takeWhile isDigit).map fun d => Char.ofNat d.toNat, bytes.dropWhile isDigit)
    else .error (faultAt .invalidNumber bytes)

/-- Reads the digits behind a point, if a point comes next. -/
def fraction (bytes : List UInt8) : Except Fault (Option (List Char) × List UInt8) :=
  match bytes with
  | b :: rest =>
    if b == byte '.' then do
      let (ds, rest) ← digits rest
      return (some ds, rest)
    else return (none, bytes)
  | [] => return (none, [])

/-- Reads an exponent, if one comes next. -/
def exponent (bytes : List UInt8) : Except Fault (Option Int × List UInt8) :=
  match bytes with
  | b :: rest =>
    if b == byte 'e' || b == byte 'E' then do
      let (negative, unsigned) :=
        match rest with
        | s :: more =>
          if s == byte '-' then (true, more)
          else if s == byte '+' then (false, more)
          else (false, rest)
        | [] => (false, [])
      let (ds, rest) ← digits unsigned
      let n : Int := Text.numberOfDigits 10 ds
      return (some (if negative then -n else n), rest)
    else return (none, bytes)
  | [] => return (none, [])

/-- Reads a number behind its sign. A zero is not followed by another digit. -/
def number (negative : Bool) : Reader Json := fun bytes => do
  let (whole, rest) ←
    match bytes with
    | b :: next :: rest =>
      if b == byte '0' && isDigit next then throw (faultAt .invalidNumber (next :: rest))
      else digits bytes
    | _ => digits bytes
  let (fractionDigits, rest) ← fraction rest
  let (power, rest) ← exponent rest
  match fractionDigits, power with
  | none, none =>
    let n : Int := Text.numberOfDigits 10 whole
    return (.int (if negative then -n else n), rest)
  | _, _ =>
    let places := fractionDigits.getD []
    let x := Number.nearestFloat (Text.numberOfDigits 10 (whole ++ places))
      (power.getD 0 - places.length)
    return (.float (if negative then -x else x), rest)

/-- The value of a digit of base sixteen. -/
def hexValue? (b : UInt8) : Option Nat :=
  let c := Char.ofNat b.toNat
  if Text.isHexDigit c then Text.digitValue? 16 c else none

/-- Reads the four digits of an escape. -/
def hexUnit (bytes : List UInt8) : Except Fault (Nat × List UInt8) :=
  match bytes with
  | a :: b :: c :: d :: rest =>
    match hexValue? a, hexValue? b, hexValue? c, hexValue? d with
    | some w, some x, some y, some z => .ok (w * 4096 + x * 256 + y * 16 + z, rest)
    | none, _, _, _ => .error (faultAt .invalidEscape bytes)
    | _, none, _, _ => .error (faultAt .invalidEscape (bytes.drop 1))
    | _, _, none, _ => .error (faultAt .invalidEscape (bytes.drop 2))
    | _, _, _, none => .error (faultAt .invalidEscape (bytes.drop 3))
  | _ => .error (faultAt .stringEnds [])

/-- The UTF-8 bytes of a code point. -/
def codePoint (n : Nat) : List UInt8 := Text.Utf8.encode (String.singleton (Char.ofNat n))

/-- Reads an escape behind its `\u`: one UTF-16 unit, or two that make up a pair. A unit of a pair
without its partner is refused at its last digit. -/
def unicodeEscape : Reader (List UInt8) := fun bytes => do
  let (unit, rest) ← hexUnit bytes
  let lone := Except.error (faultAt .loneSurrogate (bytes.drop 3))
  if 0xDC00 ≤ unit && unit ≤ 0xDFFF then lone
  else if 0xD800 ≤ unit && unit ≤ 0xDBFF then
    match rest with
    | slash :: u :: more =>
      if slash == byte '\\' && u == byte 'u' then do
        let (second, rest) ← hexUnit more
        if 0xDC00 ≤ second && second ≤ 0xDFFF then
          return (codePoint (0x10000 + (unit - 0xD800) * 0x400 + (second - 0xDC00)), rest)
        else throw (faultAt .loneSurrogate (more.drop 3))
      else lone
    | _ => lone
  else return (codePoint unit, rest)

/-- Reads an escape behind its backslash. -/
def escape : Reader (List UInt8)
  | [] => .error (faultAt .stringEnds [])
  | b :: rest =>
    if b == byte '"' || b == byte '\\' || b == byte '/' then .ok ([b], rest)
    else if b == byte 'b' then .ok ([8], rest)
    else if b == byte 'f' then .ok ([12], rest)
    else if b == byte 'n' then .ok ([10], rest)
    else if b == byte 'r' then .ok ([13], rest)
    else if b == byte 't' then .ok ([9], rest)
    else if b == byte 'u' then unicodeEscape rest
    else .error (faultAt .invalidEscape (b :: rest))

/-- Reads the bytes of a string up to the quote that ends it. Every step takes a byte at least, so
`fuel` steps are enough for that many bytes. -/
def stringBytes : (fuel : Nat) → Reader (List UInt8)
  | 0, rest => .error (faultAt .stringEnds rest)
  | _ + 1, [] => .error (faultAt .stringEnds [])
  | fuel + 1, b :: rest =>
    if b == byte '"' then .ok ([], rest)
    else if b < 0x20 then .error (faultAt .controlCharacter (b :: rest))
    else if b == byte '\\' then do
      let (escaped, rest) ← escape rest
      let (more, rest) ← stringBytes fuel rest
      return (escaped ++ more, rest)
    else do
      let (more, rest) ← stringBytes fuel rest
      return (b :: more, rest)

/-- Reads a string behind its opening quote. -/
def string : Reader String := fun bytes => do
  let (content, rest) ← stringBytes (bytes.length + 1) bytes
  match Text.Utf8.decode content with
  | .ok chars => return (String.ofList chars, rest)
  | .error failure => throw ⟨.invalidText, bytes.length - failure.position⟩

/-- Reads the items of a list that is not empty, up to its closing bracket. -/
def items (value : Reader Json) : (fuel : Nat) → Reader (List Json)
  | 0, rest => .error (faultAt .listEnds rest)
  | fuel + 1, bytes => do
    let (item, rest) ← value bytes
    match skipBlanks rest with
    | [] => throw (faultAt .listEnds [])
    | b :: rest =>
      if b == byte ']' then return ([item], rest)
      else if b == byte ',' then
        match skipBlanks rest with
        | c :: more =>
          if c == byte ']' then throw (faultAt .trailingComma (c :: more))
          else do
            let (others, rest) ← items value fuel (c :: more)
            return (item :: others, rest)
        | [] => throw (faultAt .valueEnds [])
      else throw (faultAt .expectedListStep (b :: rest))

/-- Reads the members of an object that is not empty, behind the quote that opens the first name,
up to its closing brace. -/
def members (value : Reader Json) : (fuel : Nat) → Reader (List (String × Json))
  | 0, rest => .error (faultAt .objectEnds rest)
  | fuel + 1, bytes => do
    let (name, rest) ← string bytes
    let afterName ←
      match skipBlanks rest with
      | [] => throw (faultAt .objectEnds [])
      | b :: rest =>
        if b == byte ':' then pure rest else throw (faultAt .expectedColon (b :: rest))
    let (v, rest) ← value (skipBlanks afterName)
    match skipBlanks rest with
    | [] => throw (faultAt .objectEnds [])
    | b :: rest =>
      if b == byte '\x7d' then return ([(name, v)], rest)
      else if b == byte ',' then
        match skipBlanks rest with
        | [] => throw (faultAt .valueEnds [])
        | c :: more =>
          if c == byte '"' then do
            let (others, rest) ← members value fuel more
            return ((name, v) :: others, rest)
          else if c == byte '\x7d' then throw (faultAt .trailingComma (c :: more))
          else throw (faultAt .keyNotString (c :: more))
      else throw (faultAt .expectedObjectStep (b :: rest))

/-- Reads a list behind its opening bracket. -/
def list (value : Reader Json) : Reader Json := fun bytes =>
  match skipBlanks bytes with
  | [] => .error (faultAt .listEnds [])
  | b :: rest =>
    if b == byte ']' then .ok (.list [], rest)
    else do
      let (found, rest) ← items value (rest.length + 1) (b :: rest)
      return (.list found, rest)

/-- Reads an object behind its opening brace. -/
def object (value : Reader Json) : Reader Json := fun bytes =>
  match skipBlanks bytes with
  | [] => .error (faultAt .objectEnds [])
  | b :: rest =>
    if b == byte '\x7d' then .ok (.object [], rest)
    else if b == byte '"' then do
      let (found, rest) ← members value (rest.length + 1) rest
      return (.object found, rest)
    else .error (faultAt .keyNotString (b :: rest))

/-- Reads a number or the word for infinity behind a minus sign. -/
def negative : Reader Json
  | [] => .error (faultAt .valueEnds [])
  | b :: rest =>
    if b == byte 'I' then do
      let rest ← word "nfinity".toList rest
      return (.float (-1.0 / 0.0), rest)
    else number true (b :: rest)

/-- Reads a scalar: a word, a string or a number. -/
def scalar : Reader Json
  | [] => .error (faultAt .valueEnds [])
  | b :: rest =>
    if b == byte '"' then do
      let (s, rest) ← string rest
      return (.text s, rest)
    else if b == byte 't' then return (.bool true, ← word "rue".toList rest)
    else if b == byte 'f' then return (.bool false, ← word "alse".toList rest)
    else if b == byte 'n' then return (.null, ← word "ull".toList rest)
    else if b == byte 'N' then return (.float (0.0 / 0.0), ← word "aN".toList rest)
    else if b == byte 'I' then return (.float (1.0 / 0.0), ← word "nfinity".toList rest)
    else if b == byte '-' then negative rest
    else if isDigit b then number false (b :: rest)
    else .error (faultAt .expectedValue (b :: rest))

/-- Reads a value in which lists and objects nest up to a depth. -/
def value : (depth : Nat) → Reader Json
  | 0, bytes =>
    match bytes with
    | b :: _ =>
      if b == byte '[' || b == byte '\x7b' then .error (faultAt .tooDeep bytes) else scalar bytes
    | [] => scalar []
  | depth + 1, bytes =>
    match bytes with
    | b :: rest =>
      if b == byte '[' then list (value depth) rest
      else if b == byte '\x7b' then object (value depth) rest
      else scalar bytes
    | [] => scalar []

end Read

/-- The deepest nesting of lists and objects that is read. -/
def depthLimit : Nat := 200

/-- Reads a JSON text: one value with nothing but blanks around it. -/
def read (bytes : List UInt8) : Except Fault Json := do
  let (found, rest) ← Read.value depthLimit (Read.skipBlanks bytes)
  match Read.skipBlanks rest with
  | [] => return found
  | b :: rest => throw (Read.faultAt .trailingCharacters (b :: rest))

/-- The line and the column of a position, both counted from one. A line feed at the position itself
already begins the next line. -/
def place (bytes : List UInt8) (position : Nat) : Nat × Nat :=
  let before := bytes.take (if position < bytes.length then position + 1 else position)
  let line := before.count 0x0A + 1
  let start := before.length - (before.reverse.takeWhile (· != 0x0A)).length
  if position < bytes.length then (line, position + 1 - start) else (line, bytes.length - start)

/-- A fault in words, with its line and its column in the text it was found in. -/
def Fault.message (fault : Fault) (bytes : List UInt8) : String :=
  let (line, column) := place bytes (bytes.length - fault.unread)
  fault.flaw.message ++ " at line " ++ Nat.repr line ++ " column " ++ Nat.repr column

end Wireframe.Json
