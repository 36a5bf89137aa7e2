import Wireframe.Yaml.Error
import Wireframe.Yaml.Lexer
import Wireframe.Yaml.Tag

/-! # Nodes

The tree that a document's tokens describe. Every node has a tag; an alias stands for the
node that its anchor names and is replaced by it. Reading goes through the tokens once,
and every call of the reading functions either takes a token or leads to one that does, so
a bound on the number of nested calls comes from the number of tokens.
-/

namespace Wireframe.Yaml

/-- A node of a document. -/
inductive Node where
  | scalar (tag : Tag) (text : String) (mark : Mark)
  | sequence (tag : Tag) (items : List Node) (mark : Mark)
  | mapping (tag : Tag) (entries : List (Node × Node)) (mark : Mark)

namespace Node

/-- The tag of a node. -/
def tag : Node → Tag
  | scalar tag _ _ => tag
  | sequence tag _ _ => tag
  | mapping tag _ _ => tag

/-- The place where a node begins. -/
def mark : Node → Mark
  | scalar _ _ mark => mark
  | sequence _ _ mark => mark
  | mapping _ _ mark => mark

/-- The kind of a node. -/
def kind : Node → NodeKind
  | scalar _ _ _ => .scalar
  | sequence _ _ _ => .sequence
  | mapping _ _ _ => .mapping

/-- The node of an entry whose key or value is left out. -/
def absent (mark : Mark) : Node := scalar .null "" mark

/-- The tokens still to be read and the error that follows them, the meanings of the tag handles,
and the nodes with anchors. A collection that is still being read has no node yet. -/
structure Source where
  tokens : List Token
  failure : Option Error
  handles : List (String × String)
  anchors : List (String × Option Node)

/-- Reads nodes from tokens, or fails. -/
abbrev Read := StateT Source (Except Error)

/-- Fails at a place. -/
def fail {α : Type} (problem : Problem) (mark : Mark) : Read α := throw (.broken problem mark)

/-- The next token, which is not taken. Behind the last token stands the error of the text. -/
def peek : Read Token := do
  let source ← get
  match source.tokens with
  | token :: _ => return token
  | [] => throw (source.failure.getD (.broken .endOfStream ⟨0, 0⟩))

/-- Takes the next token. -/
def take : Read Token := do
  let token ← peek
  modify fun source => { source with tokens := source.tokens.drop 1 }
  return token

/-- Whether the next token is one of several kinds. -/
def nextIs (kinds : List TokenKind) : Read Bool := do return kinds.contains (← peek).kind

/-- The meanings that the tag handles have without a directive. -/
def standardHandles : List (String × String) := [("!", "!"), ("!!", Tag.address)]

/-- The anchor of a node, its tag and the place where they begin. -/
structure Properties where
  anchor : Option String
  tag : Option (Option String × String × Mark)
  start : Option Mark

/-- Reads an anchor, if there is one. -/
def anchor? : Read (Option (String × Mark)) := do
  let token ← peek
  match token.kind with
  | .anchor name => discard take; return some (name, token.start)
  | _ => return none

/-- Reads a tag, if there is one. -/
def tag? : Read (Option (Option String × String × Mark)) := do
  let token ← peek
  match token.kind with
  | .tag handle suffix => discard take; return some (handle, suffix, token.start)
  | _ => return none

/-- Reads an anchor and a tag, in either order. -/
def properties : Read Properties := do
  match (← anchor?) with
  | some (name, mark) => return ⟨some name, ← tag?, some mark⟩
  | none =>
    match (← tag?) with
    | some tag => return ⟨(← anchor?).map (·.1), some tag, some tag.2.2⟩
    | none => return ⟨none, none, none⟩

/-- The address of a written tag. A single exclamation mark leaves the tag open. -/
def resolveTag : Option (Option String × String × Mark) → Read (Option String)
  | none => return none
  | some (none, suffix, _) => return some suffix
  | some (some handle, suffix, mark) => do
    match (← get).handles.find? fun entry => entry.1 == handle with
    | some (_, expansion) => return some (expansion ++ suffix)
    | none => fail (.undefinedHandle handle) mark

/-- The tag of a scalar. -/
def scalarTag (written : Option String) (text : String) (plain : Bool) : Tag :=
  match written with
  | some "!" => Tag.ofPlain text
  | some name => Tag.ofName name
  | none => if plain then Tag.ofPlain text else .str

/-- The tag of a scalar with halves of surrogate pairs: as a string it keeps its code points. -/
def halvedTag (written : Option String) (codes : List Nat) : Tag :=
  match scalarTag written (Text.ofCodes codes) false with
  | .str => .halved codes
  | other => other

/-- The tag of a collection. -/
def collectionTag (written : Option String) (default : Tag) : Tag :=
  match written with
  | some "!" => default
  | some name => Tag.ofName name
  | none => default

/-- Notes that an anchor names a node that is about to be read. A name is used once. -/
def declare (anchor : Option String) (mark : Mark) : Read Unit := do
  match anchor with
  | none => return ()
  | some name =>
    if (← get).anchors.any fun entry => entry.1 == name then fail .duplicateAnchor mark
    else modify fun source => { source with anchors := (name, none) :: source.anchors }

/-- Notes the node that an anchor names. -/
def define (anchor : Option String) (node : Node) : Read Node := do
  match anchor with
  | none => return node
  | some name =>
    modify fun source =>
      { source with
        anchors := source.anchors.map fun entry =>
          if entry.1 == name then (name, some node) else entry }
    return node

/-- The node that an alias stands for. A node cannot contain itself. -/
def aliased (name : String) (mark : Mark) : Read Node := do
  match (← get).anchors.find? fun entry => entry.1 == name with
  | some (_, some node) => return node
  | some (_, none) => throw (.scalar .endless)
  | none => fail (.undefinedAlias name) mark

/-- Where a node stands: in a block collection, where a nested block may follow, possibly with a
sequence that is not indented, or in a flow collection. -/
inductive Place where
  | block
  | blockValue
  | flow
deriving DecidableEq, Repr

mutual

/-- Reads a node. -/
def node (place : Place) : (fuel : Nat) → Read Node
  | 0 => throw (.scalar .endless)
  | fuel + 1 => do
    let first ← peek
    match first.kind with
    | .alias name =>
      discard take
      aliased name first.start
    | _ =>
      let properties ← properties
      let written ← resolveTag properties.tag
      let token ← peek
      let start := properties.start.getD token.start
      let declared := declare properties.anchor start
      match token.kind with
      | .blockEntry =>
        if place == .blockValue then
          declared
          let items ← indentlessItems fuel
          define properties.anchor (.sequence (collectionTag written .seq) items start)
        else content properties written token start
      | .scalar text plain =>
        discard take
        declared
        define properties.anchor (.scalar (scalarTag written text plain) text start)
      | .halved codes =>
        discard take
        declared
        define properties.anchor (.scalar (halvedTag written codes) (Text.ofCodes codes) start)
      | .flowSequenceStart =>
        declared
        discard take
        let items ← flowItems true fuel
        define properties.anchor (.sequence (collectionTag written .seq) items start)
      | .flowMappingStart =>
        declared
        discard take
        let entries ← flowEntries true fuel
        define properties.anchor (.mapping (collectionTag written .map) entries start)
      | .blockSequenceStart =>
        if place == .flow then content properties written token start
        else
          declared
          discard take
          let items ← blockItems fuel
          define properties.anchor (.sequence (collectionTag written .seq) items start)
      | .blockMappingStart =>
        if place == .flow then content properties written token start
        else
          declared
          discard take
          let entries ← blockEntries fuel
          define properties.anchor (.mapping (collectionTag written .map) entries start)
      | _ => content properties written token start

/-- The node of properties that no content follows. Without properties there must be content. -/
def content (properties : Properties) (written : Option String) (token : Token) (start : Mark) :
    Read Node := do
  if properties.anchor.isSome || written.isSome then
    declare properties.anchor start
    define properties.anchor (.scalar (scalarTag written "" written.isNone) "" start)
  else fail (.wantedContent token.kind.name) token.start

/-- Reads the rest of the items of a block sequence. -/
def blockItems : (fuel : Nat) → Read (List Node)
  | 0 => throw (.scalar .endless)
  | fuel + 1 => do
    let token ← peek
    match token.kind with
    | .blockEntry =>
      discard take
      let item ←
        if (← nextIs [.blockEntry, .blockEnd]) then pure (absent token.stop)
        else node .block fuel
      return item :: (← blockItems fuel)
    | .blockEnd =>
      discard take
      return []
    | other => fail (.wantedBlockEnd other.name) token.start

/-- Reads the rest of the items of a block sequence that has no indentation of its own. -/
def indentlessItems : (fuel : Nat) → Read (List Node)
  | 0 => throw (.scalar .endless)
  | fuel + 1 => do
    let token ← peek
    match token.kind with
    | .blockEntry =>
      discard take
      let item ←
        if (← nextIs [.blockEntry, .key, .value, .blockEnd]) then pure (absent token.stop)
        else node .block fuel
      return item :: (← indentlessItems fuel)
    | _ => return []

/-- Reads the rest of the entries of a block mapping. -/
def blockEntries : (fuel : Nat) → Read (List (Node × Node))
  | 0 => throw (.scalar .endless)
  | fuel + 1 => do
    let token ← peek
    match token.kind with
    | .key =>
      discard take
      let key ←
        if (← nextIs [.key, .value, .blockEnd]) then pure (absent token.stop)
        else node .blockValue fuel
      let value ← blockValue fuel
      return (key, value) :: (← blockEntries fuel)
    | .blockEnd =>
      discard take
      return []
    | other => fail (.wantedBlockEnd other.name) token.start

/-- Reads the value of an entry of a block mapping. -/
def blockValue : (fuel : Nat) → Read Node
  | 0 => throw (.scalar .endless)
  | fuel + 1 => do
    let token ← peek
    match token.kind with
    | .value =>
      discard take
      if (← nextIs [.key, .value, .blockEnd]) then return absent token.stop
      else node .blockValue fuel
    | _ => return absent token.start

/-- Reads the rest of the items of a flow sequence. A key there makes an item a mapping with one
entry. -/
def flowItems (first : Bool) : (fuel : Nat) → Read (List Node)
  | 0 => throw (.scalar .endless)
  | fuel + 1 => do
    let token ← peek
    if token.kind == .flowSequenceEnd then
      discard take
      return []
    else
      if !first then
        if token.kind == .flowEntry then discard take
        else fail (.wantedFlowEntry ']' token.kind.name) token.start
      let token ← peek
      match token.kind with
      | .key =>
        discard take
        let key ←
          if (← nextIs [.value, .flowEntry, .flowSequenceEnd]) then pure (absent token.stop)
          else node .flow fuel
        let value ← flowValue .flowSequenceEnd fuel
        return .mapping .map [(key, value)] token.start :: (← flowItems false fuel)
      | .flowSequenceEnd =>
        discard take
        return []
      | _ =>
        let item ← node .flow fuel
        return item :: (← flowItems false fuel)

/-- Reads the rest of the entries of a flow mapping. -/
def flowEntries (first : Bool) : (fuel : Nat) → Read (List (Node × Node))
  | 0 => throw (.scalar .endless)
  | fuel + 1 => do
    let token ← peek
    if token.kind == .flowMappingEnd then
      discard take
      return []
    else
      if !first then
        if token.kind == .flowEntry then discard take
        else fail (.wantedFlowEntry '}' token.kind.name) token.start
      let token ← peek
      match token.kind with
      | .key =>
        discard take
        let key ←
          if (← nextIs [.value, .flowEntry, .flowMappingEnd]) then pure (absent token.stop)
          else node .flow fuel
        let value ← flowValue .flowMappingEnd fuel
        return (key, value) :: (← flowEntries false fuel)
      | .flowMappingEnd =>
        discard take
        return []
      | _ =>
        let key ← node .flow fuel
        let value := absent (← peek).start
        return (key, value) :: (← flowEntries false fuel)

/-- Reads the value of an entry of a flow collection that ends with `closing`. -/
def flowValue (closing : TokenKind) : (fuel : Nat) → Read Node
  | 0 => throw (.scalar .endless)
  | fuel + 1 => do
    let token ← peek
    match token.kind with
    | .value =>
      discard take
      if (← nextIs [.flowEntry, closing]) then return absent token.stop
      else node .flow fuel
    | _ => return absent token.start

end

/-- Reads the directives in front of a document; `version` says whether a version was given. -/
def directives : (fuel : Nat) → (version : Bool) → (handles : List (String × String)) →
    Read (List (String × String))
  | 0, _, handles => return handles
  | fuel + 1, version, handles => do
    let token ← peek
    match token.kind with
    | .directive (.version major _) =>
      discard take
      if version then fail .duplicateVersion token.start
      if major != 1 then fail .incompatibleVersion token.start
      directives fuel true handles
    | .directive (.tag handle expansion) =>
      discard take
      if handles.any fun entry => entry.1 == handle then fail (.duplicateHandle handle) token.start
      directives fuel version (handles ++ [(handle, expansion)])
    | .directive .other =>
      discard take
      directives fuel version handles
    | _ => return handles

/-- Reads the directives and the separator in front of a document. -/
def documentStart : Read Unit := do
  let handles ← directives (← get).tokens.length false []
  let token ← peek
  if token.kind != .documentStart then fail (.wantedDocument token.kind.name) token.start
  discard take
  modify fun source => { source with handles := handles ++ standardHandles }

/-- Reads the ends of documents. -/
def documentEnds : (fuel : Nat) → Read Unit
  | 0 => return ()
  | fuel + 1 => do
    if (← nextIs [.documentEnd]) then
      discard take
      documentEnds fuel

/-- Whether the next token is a directive. -/
def atDirective : Read Bool := do
  match (← peek).kind with
  | .directive _ => return true
  | _ => return false

/-- Reads the node of a document whose separator has been read. -/
def documentContent (fuel : Nat) : Read Node := do
  let token ← peek
  let isEmpty ← nextIs [.documentStart, .documentEnd, .streamEnd]
  if isEmpty || (← atDirective) then return absent token.start
  else node .block fuel

/-- Reads the only document of a text; without a document there is no node. -/
def document : Read (Option Node) := do
  let fuel := 4 * (← get).tokens.length + 16
  discard take
  if (← nextIs [.streamEnd]) then return none
  let root ←
    if (← nextIs [.documentStart]) || (← atDirective) then do
      documentStart
      documentContent fuel
    else node .block fuel
  if (← nextIs [.documentEnd]) then discard take
  documentEnds fuel
  if (← nextIs [.streamEnd]) then return some root
  let second ← peek
  documentStart
  fail .secondDocument second.start

/-- A character that a text may hold. -/
def isAllowedChar (c : Char) : Bool :=
  let n := c.toNat
  n == 9 || n == 10 || n == 13 || (0x20 ≤ n && n ≤ 0x7E) || n == 0x85 ||
    (0xA0 ≤ n && n ≤ 0xFFFD) || 0x10000 ≤ n

/-- The first character that a text may not hold. -/
def unprintable? (text : List Char) : Option Error :=
  match text.dropWhile isAllowedChar with
  | [] => none
  | c :: _ => some (.unprintable c (text.takeWhile isAllowedChar).length)

/-- The root node of a text. -/
def ofText (text : List Char) : Except Error (Option Node) :=
  match unprintable? text with
  | some e => .error e
  | none =>
    let (tokens, failure) := Yaml.tokens text
    (document.run ⟨tokens, failure, standardHandles, []⟩).map (·.1)

end Node

end Wireframe.Yaml
