import Wireframe.Yaml.Lexeme

/-! # From text to tokens

The lexer finds the tokens of a YAML text from front to back. It follows the indentation
of block collections, and it remembers where a key without a question mark may have begun,
because the tokens that announce such a key can only be placed when its colon is found.
A token is handed on as soon as no announcement can come before it; when the text breaks
a rule, the tokens handed on until then are returned with the error.
-/

namespace Wireframe.Yaml

/-- A place where a key may begin: the number of the token there, whether nothing but a key may
stand there, and the place in the text. -/
structure KeyPlace where
  token : Nat
  required : Bool
  index : Nat
  mark : Mark

/-- The state of the lexer: the text still to be read, the depth of flow collections, the tokens
that are not handed on yet and the number of those that are, the columns of the open block
collections, and the places where a key may begin, for each depth of flow collections. -/
structure Lexer where
  cursor : Cursor
  flowDepth : Int
  waiting : List Token
  handedOn : Nat
  indent : Int
  outerIndents : List Int
  keyAllowed : Bool
  keyPlaces : List (Int × KeyPlace)
  finished : Bool

namespace Lexer

/-- The lexer in front of a text. -/
def start (text : List Char) : Lexer :=
  { cursor := Cursor.start text
    flowDepth := 0
    waiting := [⟨.streamStart, ⟨0, 0⟩, ⟨0, 0⟩⟩]
    handedOn := 0
    indent := -1
    outerIndents := []
    keyAllowed := true
    keyPlaces := []
    finished := false }

/-- A step of the lexer. -/
abbrev Step := StateT Lexer (Except Error)

/-- Fails at the place of the cursor. -/
def fail {α : Type} (problem : Problem) : Step α := do
  throw (.broken problem (← get).cursor.mark)

/-- Reads a piece of the text. -/
def read {α : Type} (reader : Reader α) : Step α := do
  let lexer ← get
  match reader.run lexer.cursor with
  | .ok (value, cursor) =>
    set { lexer with cursor := cursor }
    return value
  | .error e => throw e

/-- Adds a token behind the waiting ones. -/
def push (kind : TokenKind) (start stop : Mark) : Step Unit :=
  modify fun lexer => { lexer with waiting := lexer.waiting ++ [⟨kind, start, stop⟩] }

/-- Adds a token that takes no room in the text. -/
def pushHere (kind : TokenKind) : Step Unit := do
  let mark := (← get).cursor.mark
  push kind mark mark

/-- Reads `n` characters as a token. -/
def pushSkip (kind : TokenKind) (n : Nat) : Step Unit := do
  let start := (← get).cursor.mark
  read (Reader.skip n)
  push kind start (← get).cursor.mark

/-- A key stays on one line and is at most so many characters long. -/
def longestKey : Nat := 1024

/-- Whether a key can no longer begin at a place. -/
def isStale (cursor : Cursor) (place : KeyPlace) : Bool :=
  place.mark.line != cursor.line || longestKey < cursor.index - place.index

/-- Forgets the places where a key can no longer begin. -/
def dropStaleKeys : Step Unit := do
  let lexer ← get
  let stale := fun (entry : Int × KeyPlace) => isStale lexer.cursor entry.2
  if lexer.keyPlaces.any fun entry => stale entry && entry.2.required then fail .missingColon
  else set { lexer with keyPlaces := lexer.keyPlaces.filter fun entry => !stale entry }

/-- Forgets the place where a key may begin at the present depth. -/
def dropKey : Step Unit := do
  let lexer ← get
  let here := fun (entry : Int × KeyPlace) => entry.1 == lexer.flowDepth
  if lexer.keyPlaces.any fun entry => here entry && entry.2.required then fail .missingColon
  else set { lexer with keyPlaces := lexer.keyPlaces.filter fun entry => !here entry }

/-- Remembers that a key may begin here. -/
def saveKey : Step Unit := do
  let lexer ← get
  if lexer.keyAllowed then
    dropKey
    let place : KeyPlace :=
      { token := lexer.handedOn + lexer.waiting.length
        required := lexer.flowDepth == 0 && lexer.indent == lexer.cursor.column
        index := lexer.cursor.index
        mark := lexer.cursor.mark }
    modify fun lexer => { lexer with keyPlaces := lexer.keyPlaces ++ [(lexer.flowDepth, place)] }

/-- Says whether a key may begin at the next token. -/
def allowKey (allowed : Bool) : Step Unit := modify fun lexer => { lexer with keyAllowed := allowed }

/-- Ends the block collections that are indented deeper than a column. -/
def closeBlocks (column : Int) : Step Unit := do
  let lexer ← get
  if lexer.flowDepth == 0 then
    let columns := lexer.indent :: lexer.outerIndents
    let closed := columns.takeWhile fun open_ => column < open_
    let mark := lexer.cursor.mark
    let remaining := columns.drop closed.length
    set
      { lexer with
        waiting := lexer.waiting ++ closed.map fun _ => (⟨.blockEnd, mark, mark⟩ : Token)
        indent := remaining.headD (-1)
        outerIndents := remaining.drop 1 }

/-- Begins a block collection at a column, unless one is open there. -/
def openBlock (column : Nat) : Step Bool := do
  let lexer ← get
  if lexer.indent < column then
    set { lexer with indent := column, outerIndents := lexer.indent :: lexer.outerIndents }
    return true
  else return false

/-- Begins a block collection at the cursor, unless one is open there. -/
def openBlockHere (kind : TokenKind) : Step Unit := do
  if (← openBlock (← get).cursor.column) then pushHere kind

/-- Reads spaces, comments and line ends up to the next token. -/
def skipGap : (fuel : Nat) → Step Unit
  | 0 => return ()
  | fuel + 1 => do
    read Reader.skipSpaces
    read Reader.skipComment
    let ending ← read Reader.lineBreak
    if !ending.isEmpty then
      if (← get).flowDepth == 0 then allowKey true
      skipGap fuel

/-- Ends the token stream. -/
def streamEnd : Step Unit := do
  closeBlocks (-1)
  dropKey
  modify fun lexer => { lexer with keyAllowed := false, keyPlaces := [], finished := true }
  pushHere .streamEnd

/-- Ends all blocks in front of a line that stands outside them. -/
def leaveBlocks : Step Unit := do
  closeBlocks (-1)
  dropKey
  allowKey false

/-- Reads a directive. -/
def directive : Step Unit := do
  leaveBlocks
  let start := (← get).cursor.mark
  let (value, stop) ← read Reader.directive
  push (.directive value) start stop

/-- Reads the three characters that begin or end a document. -/
def separator (kind : TokenKind) : Step Unit := do
  leaveBlocks
  pushSkip kind 3

/-- Begins a flow collection. -/
def flowStart (kind : TokenKind) : Step Unit := do
  saveKey
  modify fun lexer => { lexer with flowDepth := lexer.flowDepth + 1 }
  allowKey true
  pushSkip kind 1

/-- Ends a flow collection. -/
def flowEnd (kind : TokenKind) : Step Unit := do
  dropKey
  modify fun lexer => { lexer with flowDepth := lexer.flowDepth - 1 }
  allowKey false
  pushSkip kind 1

/-- Reads the comma between the entries of a flow collection. -/
def flowEntry : Step Unit := do
  allowKey true
  dropKey
  pushSkip .flowEntry 1

/-- Reads the hyphen in front of an entry of a block sequence. -/
def blockEntry : Step Unit := do
  let lexer ← get
  if lexer.flowDepth == 0 then
    if !lexer.keyAllowed then fail .sequenceNotAllowed
    openBlockHere .blockSequenceStart
  allowKey true
  dropKey
  pushSkip .blockEntry 1

/-- Reads the question mark in front of a key. -/
def key : Step Unit := do
  let lexer ← get
  if lexer.flowDepth == 0 then
    if !lexer.keyAllowed then fail .keyNotAllowed
    openBlockHere .blockMappingStart
  allowKey (lexer.flowDepth == 0)
  dropKey
  pushSkip .key 1

/-- Announces the key that began at a place, and its mapping if none is open at its column. -/
def announceKey (place : KeyPlace) : Step Unit := do
  let opens ← if (← get).flowDepth == 0 then openBlock place.mark.column else pure false
  let announcement :=
    (if opens then [TokenKind.blockMappingStart, .key] else [.key]).map fun kind =>
      (⟨kind, place.mark, place.mark⟩ : Token)
  modify fun lexer =>
    let position := place.token - lexer.handedOn
    { lexer with
      keyPlaces := lexer.keyPlaces.filter fun entry => entry.1 != lexer.flowDepth
      waiting := lexer.waiting.take position ++ announcement ++ lexer.waiting.drop position
      keyAllowed := false }

/-- Reads the colon in front of a value. -/
def value : Step Unit := do
  let lexer ← get
  match lexer.keyPlaces.find? fun entry => entry.1 == lexer.flowDepth with
  | some (_, place) => announceKey place
  | none =>
    if lexer.flowDepth == 0 then
      if !lexer.keyAllowed then fail .valueNotAllowed
      openBlockHere .blockMappingStart
    allowKey (lexer.flowDepth == 0)
    dropKey
  pushSkip .value 1

/-- Reads a piece that may begin a key. -/
def keyPiece (reader : Reader TokenKind) : Step Unit := do
  saveKey
  allowKey false
  let start := (← get).cursor.mark
  let kind ← read reader
  push kind start (← get).cursor.mark

/-- Reads a block scalar. -/
def blockScalar (folded : Bool) : Step Unit := do
  allowKey true
  dropKey
  let lexer ← get
  let text ← read (Reader.blockScalar folded lexer.indent)
  push (.scalar (String.ofList text) false) lexer.cursor.mark (← get).cursor.mark

/-- Reads a plain scalar. A key may begin behind it when the scalar ends with its line. -/
def plainScalar : Step Unit := do
  saveKey
  let lexer ← get
  let start := lexer.cursor.mark
  let (text, stop, crossed) ←
    read
      (Reader.plainScalar (lexer.flowDepth != 0) (lexer.indent + 1).toNat
        (lexer.cursor.rest.length + 1) [] start false)
  allowKey crossed
  push (.scalar (String.ofList text) true) start stop

/-- Whether a plain scalar may begin at the cursor. -/
def plainMayStart (lexer : Lexer) : Bool :=
  let c := lexer.cursor.peek
  !(isGapOrEnd c || "-?:,[]\x7b\x7d#&*!|>'\"%@\x60".toList.contains c) ||
    (!isGapOrEnd (lexer.cursor.peekAt 1) &&
      (c == '-' || (lexer.flowDepth == 0 && (c == '?' || c == ':'))))

/-- Whether three equal characters stand alone at the beginning of a line. -/
def atSeparator (lexer : Lexer) (c : Char) : Bool :=
  lexer.cursor.column == 0 && lexer.cursor.rest.take 3 == [c, c, c] &&
    isGapOrEnd (lexer.cursor.peekAt 3)

/-- Reads up to the next token and finds it. -/
def next : Step Unit := do
  if (← get).cursor.index == 0 && (← get).cursor.peek.toNat == 0xFEFF then read (Reader.skip 1)
  skipGap ((← get).cursor.rest.length + 1)
  dropStaleKeys
  closeBlocks (← get).cursor.column
  let lexer ← get
  let c := lexer.cursor.peek
  let inBlock := lexer.flowDepth == 0
  let beforeGap := isGapOrEnd (lexer.cursor.peekAt 1)
  if c == '\x00' then streamEnd
  else if c == '%' && lexer.cursor.column == 0 then directive
  else if c == '-' && lexer.atSeparator '-' then separator .documentStart
  else if c == '.' && lexer.atSeparator '.' then separator .documentEnd
  else if c == '[' then flowStart .flowSequenceStart
  else if c == '{' then flowStart .flowMappingStart
  else if c == ']' then flowEnd .flowSequenceEnd
  else if c == '}' then flowEnd .flowMappingEnd
  else if c == ',' then flowEntry
  else if c == '-' && beforeGap then blockEntry
  else if c == '?' && (!inBlock || beforeGap) then key
  else if c == ':' && (!inBlock || beforeGap) then value
  else if c == '*' then keyPiece (TokenKind.alias <$> Reader.anchorName)
  else if c == '&' then keyPiece (TokenKind.anchor <$> Reader.anchorName)
  else if c == '!' then keyPiece Reader.tag
  else if c == '|' && inBlock then blockScalar false
  else if c == '>' && inBlock then blockScalar true
  else if c == '\'' || c == '"' then keyPiece Reader.quotedScalar
  else if lexer.plainMayStart then plainScalar
  else fail (.cannotStart c)

/-- Whether the first waiting token can be handed on only after more of the text is read. -/
def needsMore : Step Bool := do
  if (← get).finished then return false
  if (← get).waiting.isEmpty then return true
  dropStaleKeys
  let lexer ← get
  return lexer.keyPlaces.any fun entry => entry.2.token == lexer.handedOn

/-- Runs the lexer; `handed` are the tokens handed on so far, last one first. -/
def run : (fuel : Nat) → (handed : List Token) → Lexer → List Token × Option Error
  | 0, handed, _ => (handed.reverse, none)
  | fuel + 1, handed, lexer =>
    match needsMore.run lexer with
    | .error e => (handed.reverse, some e)
    | .ok (true, lexer) =>
      match next.run lexer with
      | .error e => (handed.reverse, some e)
      | .ok (_, lexer) => run fuel handed lexer
    | .ok (false, lexer) =>
      match lexer.waiting with
      | [] => (handed.reverse, none)
      | token :: waiting =>
        run fuel (token :: handed)
          { lexer with waiting := waiting, handedOn := lexer.handedOn + 1 }

end Lexer

/-- The tokens of a text, and the error that ends them early. Every step reads a character or hands
on a token, and no character makes more than three tokens and the end of one block. -/
def tokens (text : List Char) : List Token × Option Error :=
  Lexer.run (8 * text.length + 32) [] (Lexer.start text)

end Wireframe.Yaml
