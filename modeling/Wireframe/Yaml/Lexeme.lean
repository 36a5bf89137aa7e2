import Wireframe.Text.Digit
import Wireframe.Text.Halves
import Wireframe.Yaml.Error
import Wireframe.Yaml.Token

/-! # Lexemes

Reading the single pieces of a YAML text from a cursor: directives, anchors, tags, and
scalars in their five styles. Each reader begins at the first character of its piece and
ends behind the last one. Loops over the text carry the number of characters that may
still be read, which the length of the text bounds.
-/

namespace Wireframe.Yaml

/-- Reads from a cursor, or fails. -/
abbrev Reader := StateT Cursor (Except Error)

namespace Reader

/-- Fails at the place of the cursor. -/
def fail {α : Type} (problem : Problem) : Reader α := do
  throw (.broken problem (← get).mark)

/-- Fails because another character is wanted at the cursor. -/
def wanted {α : Type} (what : Wanted) : Reader α := do
  fail (.unexpected what (← get).peek)

/-- The next character, which is not read. -/
def peek : Reader Char := do return (← get).peek

/-- Reads `n` characters. -/
def skip (n : Nat) : Reader Unit := modify (Cursor.skip n)

/-- Reads the characters up to the first one outside a class. -/
def takeWhile (p : Char → Bool) : Reader (List Char) := do
  let c ← get
  set (c.skipWhile p)
  return c.rest.takeWhile p

/-- Reads the spaces at the cursor. -/
def skipSpaces : Reader Unit := modify (Cursor.skipWhile (· == ' '))

/-- Reads a line end: a carriage return and a line feed are one, and all but the two Unicode
separators count as a line feed. Where no line ends, nothing is read. -/
def lineBreak : Reader (List Char) := do
  let c ← get
  let ch := c.peek
  if ch == '\r' && c.peekAt 1 == '\n' then
    skip 2
    return ['\n']
  else if ch == '\r' || ch == '\n' || ch.toNat == 0x85 then
    skip 1
    return ['\n']
  else if isBreak ch then
    skip 1
    return [ch]
  else return []

/-- Reads a comment, if one begins at the cursor. -/
def skipComment : Reader Unit := do
  if (← peek) == '#' then modify (Cursor.skipWhile fun c => !isBreakOrEnd c)

/-- Reads the rest of a line that may hold no more than a comment. -/
def finishLine : Reader Unit := do
  skipSpaces
  skipComment
  if isBreakOrEnd (← peek) then discard lineBreak else wanted .commentOrBreak

/-- A character of a name. -/
def isNameChar (c : Char) : Bool :=
  Text.isAsciiDigit c || Text.isAsciiLetter c || c == '-' || c == '_'

/-- Reads a name, which must not be empty and must end at a character of the class. -/
def name (ends : Char → Bool) : Reader String := do
  let chars ← takeWhile isNameChar
  if chars.isEmpty then wanted .alphanumeric
  else if ends (← peek) then return String.ofList chars
  else wanted .alphanumeric

/-- Whether a document separator stands at a cursor, which is at the beginning of a line. -/
def atSeparator (c : Cursor) : Bool :=
  let three := c.rest.take 3
  (three == ['-', '-', '-'] || three == ['.', '.', '.']) && isGapOrEnd (c.peekAt 3)

/-! ### Tags -/

/-- A character of a tag's address. -/
def isUriChar (c : Char) : Bool :=
  Text.isAsciiDigit c || Text.isAsciiLetter c || "-;/?:@&=+$,_.!~*'()[]%".toList.contains c

/-- Reads a run of escaped bytes; `fuel` bounds their number. -/
def uriBytes : (fuel : Nat) → Reader (List UInt8)
  | 0 => return []
  | fuel + 1 => do
    if (← peek) != '%' then return []
    skip 1
    let c ← get
    let high := c.peek
    let low := c.peekAt 1
    if !Text.isHexDigit high then wanted .uriEscape
    else if !Text.isHexDigit low then fail (.unexpected .uriEscape low)
    else
      skip 2
      let byte := UInt8.ofNat (Text.numberOfDigits 16 [high, low])
      return byte :: (← uriBytes fuel)

/-- Reads the characters of an address; `fuel` bounds their number. -/
def uriChars : (fuel : Nat) → Reader (List Char)
  | 0 => return []
  | fuel + 1 => do
    let c ← get
    if c.peek == '%' then
      let mark := c.mark
      let bytes ← uriBytes c.rest.length
      match Text.Utf8.decode bytes with
      | .ok chars => return chars ++ (← uriChars fuel)
      | .error failure => throw (.broken (.uriBytes failure bytes) mark)
    else if isUriChar c.peek then
      skip 1
      return c.peek :: (← uriChars fuel)
    else return []

/-- Reads an address, which must not be empty. -/
def uri : Reader String := do
  let c ← get
  if isUriChar c.peek then return String.ofList (← uriChars c.rest.length)
  else wanted .uri

/-- Reads a tag handle: one exclamation mark, or a name between two. -/
def tagHandle : Reader String := do
  let c ← get
  if c.peek != '!' then wanted .mark
  else if c.peekAt 1 == ' ' then
    skip 1
    return "!"
  else
    skip 1
    let chars ← takeWhile isNameChar
    if (← peek) != '!' then wanted .mark
    else
      skip 1
      return String.ofList ('!' :: chars ++ ['!'])

/-- Whether a tag that begins at a cursor has a handle with a second exclamation mark. -/
def hasHandle (c : Cursor) : Bool :=
  ((c.rest.drop 1).takeWhile fun ch => !isSpaceOrEnd ch).contains '!'

/-- Reads a tag: its handle, if it has one, and its address. -/
def tag : Reader TokenKind := do
  let c ← get
  let second := c.peekAt 1
  let kind ←
    if second == '<' then do
      skip 2
      let suffix ← uri
      if (← peek) != '>' then wanted .closingAngle
      else
        skip 1
        pure (TokenKind.tag none suffix)
    else if isGapOrEnd second then do
      skip 1
      pure (TokenKind.tag none "!")
    else if hasHandle c then do
      let handle ← tagHandle
      let suffix ← uri
      pure (TokenKind.tag (some handle) suffix)
    else do
      skip 1
      let suffix ← uri
      pure (TokenKind.tag (some "!") suffix)
  if isSpaceOrEnd (← peek) then return kind else wanted .space

/-! ### Directives, anchors and aliases -/

/-- Reads a number of a version. -/
def versionNumber : Reader Nat := do
  let chars ← takeWhile Text.isAsciiDigit
  if chars.isEmpty then wanted .digit else return Text.numberOfDigits 10 chars

/-- Reads the two numbers of a version. -/
def version : Reader Directive := do
  skipSpaces
  let major ← versionNumber
  if (← peek) != '.' then wanted .digitOrPoint
  else
    skip 1
    let minor ← versionNumber
    if isSpaceOrEnd (← peek) then return .version major minor else wanted .digitOrSpace

/-- Reads a tag handle and the address that it stands for. -/
def tagDefinition : Reader Directive := do
  skipSpaces
  let handle ← tagHandle
  if (← peek) != ' ' then wanted .space
  else
    skipSpaces
    let expansion ← uri
    if isSpaceOrEnd (← peek) then return .tag handle expansion else wanted .space

/-- Reads a directive up to the end of its line; true stands for a line read to its end. The place
where the directive itself ends is returned with it. -/
def directive : Reader (Directive × Mark) := do
  skip 1
  let word ← name isSpaceOrEnd
  let value ←
    if word == "YAML" then version
    else if word == "TAG" then tagDefinition
    else pure .other
  let stop := (← get).mark
  if value == .other then modify (Cursor.skipWhile fun c => !isBreakOrEnd c)
  finishLine
  return (value, stop)

/-- A character that may follow the name of an anchor or an alias. -/
def endsAnchor (c : Char) : Bool := isGapOrEnd c || "?:,]\x7d%@\x60".toList.contains c

/-- Reads the name of an anchor or an alias behind its indicator. -/
def anchorName : Reader String := do
  skip 1
  name endsAnchor

/-! ### Block scalars -/

/-- What happens to the line ends behind a block scalar. -/
inductive Chomping where
  | strip
  | clip
  | keep
deriving DecidableEq, Repr

/-- Reads an indicator of what happens to the last line ends. -/
def chomping? : Reader (Option Chomping) := do
  match (← peek) with
  | '+' => skip 1; return some .keep
  | '-' => skip 1; return some .strip
  | _ => return none

/-- Reads a digit that gives the indentation of a block scalar. -/
def indentation? : Reader (Option Nat) := do
  let c ← peek
  if c == '0' then fail .zeroIndentation
  else if Text.isAsciiDigit c then
    skip 1
    return some (c.toNat - 48)
  else return none

/-- Reads the indicators of a block scalar, in either order. -/
def blockHeader : Reader (Chomping × Option Nat) := do
  let first ← chomping?
  let indentation ← indentation?
  let second ← if first.isNone && indentation.isSome then chomping? else pure none
  if isSpaceOrEnd (← peek) then
    return ((first.or second).getD .clip, indentation)
  else wanted .chompingOrIndentation

/-- Reads spaces up to a column. -/
def skipIndentation (column : Nat) : Reader Unit := do
  let c ← get
  set (c.skip (min (c.countWhile (· == ' ')) (column - c.column)))

/-- Reads empty lines in front of the first line of a block scalar; returns their line ends and the
greatest column that their spaces reach. -/
def leadingBreaks : (fuel deepest : Nat) → Reader (List (List Char) × Nat)
  | 0, deepest => return ([], deepest)
  | fuel + 1, deepest => do
    let c ← peek
    if c == ' ' then
      skipSpaces
      leadingBreaks fuel (max deepest (← get).column)
    else if isBreak c then
      let ending ← lineBreak
      let (breaks, deepest) ← leadingBreaks fuel deepest
      return (ending :: breaks, deepest)
    else return ([], deepest)

/-- Reads empty lines inside a block scalar, and the indentation of the line behind them. -/
def innerBreaks (column : Nat) : (fuel : Nat) → Reader (List (List Char))
  | 0 => return []
  | fuel + 1 => do
    skipIndentation column
    if isBreak (← peek) then
      let ending ← lineBreak
      return ending :: (← innerBreaks column fuel)
    else return []

/-- Whether a cursor stands at a line of a block scalar. -/
def atBlockLine (column : Nat) (c : Cursor) : Bool := c.column == column && c.peek != '\x00'

/-- A space or a tab. -/
def isIndentChar (c : Char) : Bool := c == ' ' || c == '\t'

/-- Reads the lines of a block scalar. `breaks` are the line ends of the empty lines before the
cursor; returned are the text without its last line ends, the end of the last line, and the ends
of the empty lines behind it. -/
def blockLines (folded : Bool) (column : Nat) :
    (fuel : Nat) → (breaks : List (List Char)) → Reader (List Char × List Char × List (List Char))
  | 0, breaks => return ([], [], breaks)
  | fuel + 1, breaks => do
    let leadingText := !isIndentChar (← peek)
    let line ← takeWhile fun c => !isBreakOrEnd c
    let ending ← lineBreak
    let following ← innerBreaks column (← get).rest.length.succ
    let head := breaks.flatten ++ line
    let c ← get
    if atBlockLine column c then
      let joint :=
        if folded && ending == ['\n'] && leadingText && !isIndentChar c.peek then
          (if following.isEmpty then [' '] else [])
        else ending
      let (text, last, trailing) ← blockLines folded column fuel following
      return (head ++ joint ++ text, last, trailing)
    else return (head, ending, following)

/-- Reads a block scalar. `indent` is the column of the block around it, or -1 outside all
blocks. -/
def blockScalar (folded : Bool) (indent : Int) : Reader (List Char) := do
  skip 1
  let (chomping, increment) ← blockHeader
  finishLine
  let least := max 1 (indent + 1).toNat
  let fuel := (← get).rest.length + 1
  let (breaks, column) ←
    match increment with
    | none => do
      let (breaks, deepest) ← leadingBreaks fuel 0
      pure (breaks, max least deepest)
    | some n => do
      let column := least + n - 1
      pure (← innerBreaks column fuel, column)
  let (text, last, trailing) ←
    if atBlockLine column (← get) then blockLines folded column fuel breaks
    else pure ([], [], breaks)
  match chomping with
  | .strip => return text
  | .clip => return text ++ last
  | .keep => return text ++ last ++ trailing.flatten

/-! ### Quoted scalars -/

/-- The character that a one-letter escape stands for. -/
def escapedChar? : Char → Option Char
  | '0' => some '\x00'
  | 'a' => some '\x07'
  | 'b' => some '\x08'
  | 't' => some '\t'
  | '\t' => some '\t'
  | 'n' => some '\n'
  | 'v' => some '\x0b'
  | 'f' => some '\x0c'
  | 'r' => some '\r'
  | 'e' => some '\x1b'
  | ' ' => some ' '
  | '"' => some '"'
  | '\\' => some '\\'
  | '/' => some '/'
  | 'N' => some (Char.ofNat 0x85)
  | '_' => some (Char.ofNat 0xA0)
  | 'L' => some (Char.ofNat 0x2028)
  | 'P' => some (Char.ofNat 0x2029)
  | _ => none

/-- The number of digits behind the letter of a code point escape. -/
def escapeWidth? : Char → Option Nat
  | 'x' => some 2
  | 'u' => some 4
  | 'U' => some 8
  | _ => none

/-- A number as a code point, which may be half of a surrogate pair. -/
def codePoint (code : Nat) : Except Error Nat :=
  if 0x7FFFFFFF < code then throw (.scalar .codePointWidth)
  else if 0x10FFFF < code then throw (.scalar .codePointRange)
  else pure code

/-- Reads the digits of a code point escape. -/
def codeEscape (width : Nat) : Reader Nat := do
  let c ← get
  let digits := (List.range width).map c.peekAt
  match digits.find? fun d => !Text.isHexDigit d with
  | some d => fail (.unexpected (.hexadecimal width) d)
  | none =>
    let code ← codePoint (Text.numberOfDigits 16 digits)
    skip width
    return code

/-- Reads the line ends and the white space at the beginnings of lines inside a quoted scalar. -/
def quotedBreaks : (fuel : Nat) → Reader (List Char)
  | 0 => return []
  | fuel + 1 => do
    if atSeparator (← get) then fail .documentSeparator
    modify (Cursor.skipWhile isIndentChar)
    if isBreak (← peek) then
      let ending ← lineBreak
      return ending ++ (← quotedBreaks fuel)
    else return []

/-- Reads white space inside a quoted scalar: within a line it is kept, and a line end becomes a
space unless empty lines follow it. -/
def quotedSpace (fuel : Nat) : Reader (List Char) := do
  let blanks ← takeWhile isIndentChar
  let c ← peek
  if c == '\x00' then fail .endOfStream
  else if isBreak c then
    let ending ← lineBreak
    let breaks ← quotedBreaks fuel
    if ending != ['\n'] then return ending ++ breaks
    else if breaks.isEmpty then return [' ']
    else return breaks
  else return blanks

/-- Reads an escape behind its backslash: the code points that it stands for. -/
def escape (fuel : Nat) : Reader (List Nat) := do
  let c ← peek
  match escapedChar? c, escapeWidth? c with
  | some char, _ =>
    skip 1
    return [char.toNat]
  | none, some width =>
    skip 1
    return [← codeEscape width]
  | none, none =>
    if isBreak c then
      discard lineBreak
      return (← quotedBreaks fuel).map Char.toNat
    else fail (.unknownEscape c)

/-- Reads the rest of a scalar in double quotes, behind its opening quote: its code points. -/
def doubleQuoted : (fuel : Nat) → Reader (List Nat)
  | 0 => fail .endOfStream
  | fuel + 1 => do
    let c ← peek
    if c == '"' then
      skip 1
      return []
    else if c == '\\' then
      skip 1
      let codes ← escape fuel
      return codes ++ (← doubleQuoted fuel)
    else if isGapOrEnd c then
      let chars ← quotedSpace fuel
      return chars.map Char.toNat ++ (← doubleQuoted fuel)
    else
      skip 1
      return c.toNat :: (← doubleQuoted fuel)

/-- Reads the rest of a scalar in single quotes, behind its opening quote. -/
def singleQuoted : (fuel : Nat) → Reader (List Char)
  | 0 => fail .endOfStream
  | fuel + 1 => do
    let c ← get
    if c.peek == '\'' && c.peekAt 1 == '\'' then
      skip 2
      return '\'' :: (← singleQuoted fuel)
    else if c.peek == '\'' then
      skip 1
      return []
    else if isGapOrEnd c.peek then
      let chars ← quotedSpace fuel
      return chars ++ (← singleQuoted fuel)
    else
      skip 1
      return c.peek :: (← singleQuoted fuel)

/-- Reads a quoted scalar. Only one in double quotes can hold halves of surrogate pairs. -/
def quotedScalar : Reader TokenKind := do
  let c ← get
  skip 1
  let fuel := c.rest.length + 1
  if c.peek == '"' then
    let codes ← doubleQuoted fuel
    return if Text.hasHalf codes then .halved codes else .scalar (Text.ofCodes codes) false
  else return .scalar (String.ofList (← singleQuoted fuel)) false

/-! ### Plain scalars -/

/-- A character that ends a plain scalar inside a flow collection. -/
def isFlowIndicator (c : Char) : Bool := ",?[]\x7b\x7d".toList.contains c

/-- Whether a plain scalar ends in front of the character `c`, with `next` behind it. -/
def endsPlain (inFlow : Bool) (c next : Char) : Bool :=
  isGapOrEnd c || (c == ':' && (isGapOrEnd next || (inFlow && ",[]\x7b\x7d".toList.contains next))) ||
    (inFlow && isFlowIndicator c)

/-- The characters of a plain scalar up to a gap. -/
def plainRun (inFlow : Bool) : List Char → List Char
  | [] => []
  | c :: rest =>
    if endsPlain inFlow c (rest.headD '\x00') then [] else c :: plainRun inFlow rest

/-- Reads the line ends between the lines of a plain scalar; nothing is returned when a document
separator stops it. -/
def plainBreaks : (fuel : Nat) → Reader (Option (List Char))
  | 0 => return some []
  | fuel + 1 => do
    if atSeparator (← get) then return none
    skipSpaces
    if isBreak (← peek) then
      let ending ← lineBreak
      return (← plainBreaks fuel).map (ending ++ ·)
    else return some []

/-- Reads the gap behind a run of a plain scalar: its text, and whether it crosses a line end. An
empty text ends the scalar. -/
def plainGap (fuel : Nat) : Reader (List Char × Bool) := do
  let blanks ← takeWhile (· == ' ')
  if isBreak (← peek) then
    let ending ← lineBreak
    match (← plainBreaks fuel) with
    | none => return ([], true)
    | some breaks =>
      if ending != ['\n'] then return (ending ++ breaks, true)
      else if breaks.isEmpty then return ([' '], true)
      else return (breaks, true)
  else return (blanks, false)

/-- Reads a plain scalar whose further lines begin at `column` or behind it. Returned are its text,
the place where the text ends, and whether a line end was crossed behind it. -/
def plainScalar (inFlow : Bool) (column : Nat) :
    (fuel : Nat) → (gap : List Char) → (stop : Mark) → (crossed : Bool) →
      Reader (List Char × Mark × Bool)
  | 0, _, stop, crossed => return ([], stop, crossed)
  | fuel + 1, gap, stop, crossed => do
    let c ← get
    let run := if c.peek == '#' then [] else plainRun inFlow c.rest
    if run.isEmpty then return ([], stop, crossed)
    else
      skip run.length
      let stop := (← get).mark
      let (nextGap, crossed) ← plainGap c.rest.length
      let next ← get
      if nextGap.isEmpty || next.peek == '#' || (!inFlow && next.column < column) then
        return (gap ++ run, stop, crossed)
      else
        let (text, stop, crossed) ← plainScalar inFlow column fuel nextGap stop crossed
        return (gap ++ run ++ text, stop, crossed)

end Reader

end Wireframe.Yaml
