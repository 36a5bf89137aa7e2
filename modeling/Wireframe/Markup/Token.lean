import Wireframe.Markup.Basic
import Wireframe.Markup.Reference
import Wireframe.Text.Blank
import Wireframe.Text.Case

/-! # Tokens of markup

Markup as a sequence of texts, start tags and end tags. Comments, declarations and
instructions are passed over. Texts and attributes come with their references resolved;
names of tags and attributes in lower case. What looks like a tag and is none is text.

Between the tags of some elements stands raw text, in which nothing counts but the end
tag of the element.
-/

namespace Wireframe.Markup

/-- A token of markup. A closed start tag ends its element at once. -/
inductive Token where
  | text (s : String)
  | startTag (tag : String) (attributes : List Attribute) (closed : Bool)
  | endTag (tag : String)
deriving DecidableEq, Repr

/-- The elements that hold raw text. -/
def rawElements : List String := ["script", "style"]

/-- What stands at the front of markup: the tokens it amounts to, the characters it takes, and the
element whose raw text follows, if one does. -/
structure Lexeme where
  tokens : List Token
  length : Nat
  raw : Option String := none

/-- Why reading gives up: a marked section in markup without a keyword that is known. -/
inductive Flaw where
  | markedSection
deriving DecidableEq, Repr

/-- A name in lower case. -/
def lowerName (s : List Char) : String := Text.lower (String.ofList s)

/-- The number of characters up to a character and with it, if it occurs. -/
def through? (c : Char) (s : List Char) : Option Nat :=
  let before := (s.takeWhile (· != c)).length
  if before < s.length then some (before + 1) else none

/-! ## Attributes -/

/-- A character of the name of a tag. -/
def isTagChar (c : Char) : Bool :=
  !(c == '\t' || c == '\n' || c == '\r' || c.toNat == 12 || c == ' ' || c == '/' || c == '>' ||
    c.toNat == 0)

/-- The gap between attributes: blanks, and slashes that do not end the tag. -/
def gap : List Char → Nat
  | [] => 0
  | '/' :: '>' :: _ => 0
  | c :: rest => if c == '/' || Text.isBlank c then gap rest + 1 else 0

/-- A character after which an attribute may begin. -/
def opensAttribute (c : Char) : Bool := c == '\'' || c == '"' || c == '/' || Text.isBlank c

/-- The characters of a name of an attribute at the front of a text. Its first character may be an
equals sign, the others not. -/
def attributeName (s : List Char) : List Char :=
  match s with
  | [] => []
  | c :: rest =>
    if Text.isBlank c || c == '/' || c == '>' then []
    else c :: rest.takeWhile fun d => !(Text.isBlank d || d == '/' || d == '=' || d == '>')

/-- A value without quotes at the front of a text. -/
def bareValue (s : List Char) : List Char := s.takeWhile fun c => !(c == '>' || Text.isBlank c)

/-- The value of an attribute at the front of what follows its name, with the characters that it
takes together with its equals signs. A quote that is not closed counts as no quote: then the value
is bare, if anything sets it apart from the quote, and otherwise there is none. -/
def valueAtFront? (s : List Char) : Option (List Char × Nat) :=
  let before := (s.takeWhile Text.isBlank).length
  let signs := ((s.drop before).takeWhile (· == '=')).length
  let afterSigns := s.drop (before + signs)
  let blanks := (afterSigns.takeWhile Text.isBlank).length
  let taken := before + signs + blanks
  if signs == 0 then none
  else
    match s.drop taken with
    | [] => some ([], taken)
    | q :: rest =>
      if q == '\'' || q == '"' then
        match through? q rest with
        | some length => some (rest.take (length - 1), taken + 1 + length)
        | none =>
          if 0 < blanks then some ([], taken - 1)
          else if 1 < signs then
            let value := bareValue (s.drop (taken - 1))
            some (value, taken - 1 + value.length)
          else none
      else
        let value := bareValue (q :: rest)
        some (value, taken + value.length)

/-- An attribute at the front of a text behind a character, with the characters that it takes
together with the gap behind it. -/
def attributeAtFront? (before : Char) (s : List Char) : Option (Attribute × Nat) :=
  let name := attributeName s
  if name.isEmpty || !opensAttribute before then none
  else
    let rest := s.drop name.length
    match valueAtFront? rest with
    | some (value, length) =>
      let value := String.ofList (resolveReferences value)
      some ((lowerName name, some value), name.length + length + gap (rest.drop length))
    | none => some ((lowerName name, none), name.length + gap rest)

/-- What a reader of single attributes finds at the front of a text behind a character, one
attribute after the other, and what follows them; some characters are still to be passed over. -/
def attributesBy (read : Char → List Char → Option (Attribute × Nat)) :
    (passed : Nat) → (before : Char) → List Char → List Attribute × List Char
  | _, _, [] => ([], [])
  | passed + 1, _, c :: rest => attributesBy read passed c rest
  | 0, before, c :: rest =>
    match read before (c :: rest) with
    | none => ([], c :: rest)
    | some (first, length) =>
      let (more, rest) := attributesBy read (length - 1) c rest
      (first :: more, rest)

/-- The attributes at the front of a text behind a character, and what follows them. -/
def attributes (before : Char) (s : List Char) : List Attribute × List Char :=
  attributesBy attributeAtFront? 0 before s

/-! ## Tags -/

/-- A start tag at the front of a text, whose first character is the bracket. A tag that does not
end is none. Where a character that cannot stand in a tag follows its name, the tag is text. -/
def startTagAtFront? (s : List Char) : Option Lexeme :=
  let name := (s.drop 1).takeWhile isTagChar
  let afterName := s.drop (1 + name.length)
  let space := gap afterName
  let (found, rest) :=
    attributes ((s.drop (name.length + space)).headD '<') (afterName.drop space)
  let tag := lowerName name
  let taken := s.length - rest.length
  match rest with
  | [] => none
  | '>' :: _ =>
    some ⟨[.startTag tag found false], taken + 1,
      if rawElements.contains tag then some tag else none⟩
  | '/' :: '>' :: _ => some ⟨[.startTag tag found true], taken + 2, none⟩
  | c :: _ =>
    if c == '=' || c == '/' || Text.isAsciiLetter c then none
    else some ⟨[.text (String.ofList (s.take taken))], taken, none⟩

/-- A character of the name in an end tag that holds nothing but its name. -/
def isEndTagChar (c : Char) : Bool :=
  Text.isAsciiLetter c || Text.isAsciiDigit c || c == '-' || c == '.' || c == ':' || c == '_'

/-- The name in an end tag that holds nothing but blanks around its name, and the characters that
the end tag takes. -/
def plainEndTag? (s : List Char) : Option (List Char × Nat) :=
  match s with
  | '<' :: '/' :: rest =>
    let before := (rest.takeWhile Text.isBlank).length
    let name := (rest.drop before).takeWhile isEndTagChar
    let afterName := rest.drop (before + name.length)
    let after := (afterName.takeWhile Text.isBlank).length
    if (name.head?.map Text.isAsciiLetter).getD false &&
        (afterName.drop after).head? == some '>' then
      some (name, 2 + before + name.length + after + 1)
    else none
  | _ => none

/-- An end tag at the front of a text, if a bracket closes it. What stands between its name and the
bracket is passed over; without a name it is passed over as a whole. -/
def endTagAtFront? (s : List Char) : Option Lexeme :=
  match through? '>' s with
  | none => none
  | some length =>
    match plainEndTag? s with
    | some (name, taken) => some ⟨[.endTag (lowerName name)], taken, none⟩
    | none =>
      let rest := s.drop 2
      if (rest.head?.map Text.isAsciiLetter).getD false then
        some ⟨[.endTag (lowerName (rest.takeWhile isTagChar))], length, none⟩
      else some ⟨[], length, none⟩

/-! ## Comments, instructions and declarations -/

/-- The number of characters up to the end of the first match of a test that tells how many
characters a match at the front takes. -/
def throughMatch? (matched : List Char → Option Nat) : List Char → Option Nat
  | [] => matched []
  | c :: rest =>
    match matched (c :: rest) with
    | some length => some length
    | none => (throughMatch? matched rest).map (· + 1)

/-- Blanks and then some text at the front of a text: the characters they take. -/
def afterBlanks? (expected : List Char) (s : List Char) : Option Nat :=
  let blanks := (s.takeWhile Text.isBlank).length
  if expected.isPrefixOf (s.drop blanks) then some (blanks + expected.length) else none

/-- The end of a comment at the front of a text. -/
def commentEnd? : List Char → Option Nat
  | '-' :: '-' :: rest => (afterBlanks? ['>'] rest).map (· + 2)
  | _ => none

/-- The end of a marked section with one bracket at the front of a text. -/
def bracketEnd? : List Char → Option Nat
  | ']' :: rest => (afterBlanks? ['>'] rest).map (· + 1)
  | _ => none

/-- The end of a marked section with two brackets at the front of a text. -/
def doubleBracketEnd? : List Char → Option Nat
  | ']' :: rest =>
    match afterBlanks? [']'] rest with
    | some length => (afterBlanks? ['>'] (rest.drop length)).map (· + length + 1)
    | none => none
  | _ => none

/-- The keywords of marked sections that two brackets end. -/
def doubleBracketSections : List String := ["temp", "cdata", "ignore", "include", "rcdata"]

/-- The keywords of marked sections that one bracket ends. -/
def bracketSections : List String := ["if", "else", "endif"]

/-- A character of the keyword of a marked section. -/
def isKeywordChar (c : Char) : Bool :=
  Text.isAsciiLetter c || Text.isAsciiDigit c || c == '-' || c == '_' || c == '.'

/-- A marked section: the characters it takes, given what follows its `<![`. It may lack an end. -/
def markedSection (s : List Char) : Except Flaw (Option Nat) :=
  let keyword := s.takeWhile isKeywordChar
  let afterKeyword := (s.drop keyword.length).dropWhile Text.isBlank
  if s.isEmpty then .ok none
  else if !(keyword.head?.map Text.isAsciiLetter).getD false then .error .markedSection
  else if afterKeyword.isEmpty then .ok none
  else if doubleBracketSections.contains (lowerName keyword) then
    .ok ((throughMatch? doubleBracketEnd? s).map (· + 3))
  else if bracketSections.contains (lowerName keyword) then
    .ok ((throughMatch? bracketEnd? s).map (· + 3))
  else .error .markedSection

/-- The declaration of a document type, in lower case and without what follows its keyword. -/
def doctype : String := "<!doctype"

/-- What is passed over at the front of a text that begins with a bracket and an exclamation mark or
a question mark: the characters it takes, if it ends. -/
def passedOver (s : List Char) : Except Flaw (Option Nat) :=
  match s with
  | '<' :: '!' :: '-' :: '-' :: rest => .ok ((throughMatch? commentEnd? rest).map (· + 4))
  | '<' :: '!' :: '[' :: rest => markedSection rest
  | _ =>
    let keyword := if lowerName (s.take doctype.length) == doctype then doctype.length else 2
    .ok ((through? '>' (s.drop keyword)).map (· + keyword))

/-! ## All lexemes -/

/-- A text with its references resolved. -/
def textToken (s : List Char) : Token := .text (String.ofList (resolveReferences s))

/-- What looks like the beginning of a tag and does not end: text up to the next closing bracket, or
before the next opening one, or else the bracket alone. -/
def unfinished (s : List Char) : Lexeme :=
  let rest := s.drop 1
  let length :=
    match through? '>' rest with
    | some length => length + 1
    | none =>
      match through? '<' rest with
      | some length => length
      | none => 1
  ⟨[textToken (s.take length)], length, none⟩

/-- What stands at the front of markup that is no raw text. -/
def lexemeAtFront (s : List Char) : Except Flaw Lexeme :=
  match s with
  | '<' :: c :: _ =>
    if Text.isAsciiLetter c then .ok ((startTagAtFront? s).getD (unfinished s))
    else if c == '/' then .ok ((endTagAtFront? s).getD (unfinished s))
    else if c == '!' || c == '?' then
      (passedOver s).map fun
        | some length => ⟨[], length, none⟩
        | none => unfinished s
    else .ok ⟨[.text "<"], 1, none⟩
  | ['<'] => .ok ⟨[.text "<"], 1, none⟩
  | _ =>
    let run := s.takeWhile (· != '<')
    .ok ⟨[textToken run], run.length, none⟩

/-- Whether two characters are one letter in either case; the first one is in lower case. A long s
and the Turkish letters beside `i` count here as well. -/
def sameLetter (lower c : Char) : Bool :=
  c.toLower == lower || (lower == 's' && c == 'ſ') || (lower == 'i' && (c == 'ı' || c == 'İ'))

/-- The characters that the end tag of an element takes at the front of raw text. -/
def rawEnd? (tag : List Char) (s : List Char) : Option Nat :=
  match s with
  | '<' :: '/' :: rest =>
    let before := (rest.takeWhile Text.isBlank).length
    let name := (rest.drop before).take tag.length
    if name.length == tag.length && (tag.zip name).all fun (a, b) => sameLetter a b then
      (afterBlanks? ['>'] (rest.drop (before + tag.length))).map (· + 2 + before + tag.length)
    else none
  | _ => none

/-- The raw text of an element with its end tag, if it has one. -/
def rawAtFront? (tag : String) (s : List Char) : Option Lexeme :=
  match throughMatch? (fun rest => (rawEnd? tag.toList rest).map fun _ => 0) s with
  | none => none
  | some before =>
    let rest := s.drop before
    let content := if before == 0 then [] else [.text (String.ofList (s.take before))]
    let length := (rawEnd? tag.toList rest).getD 1
    match plainEndTag? rest with
    | some (name, _) => some ⟨content ++ [.endTag (lowerName name)], before + length, none⟩
    | none =>
      some ⟨content ++ [.text (String.ofList (rest.take length))], before + length, some tag⟩

/-- The tokens of markup, up to the flaw at which reading gives up if there is one. The first
argument is the element whose raw text is being read; some characters are still to be passed over.
Raw text that does not end is passed over. -/
def tokensFrom : (raw : Option String) → (passed : Nat) → List Char → List Token × Option Flaw
  | _, _, [] => ([], none)
  | raw, passed + 1, _ :: rest => tokensFrom raw passed rest
  | some tag, 0, c :: rest =>
    match rawAtFront? tag (c :: rest) with
    | none => ([], none)
    | some lexeme =>
      let (more, flaw) := tokensFrom lexeme.raw (lexeme.length - 1) rest
      (lexeme.tokens ++ more, flaw)
  | none, 0, c :: rest =>
    match lexemeAtFront (c :: rest) with
    | .error flaw => ([], some flaw)
    | .ok lexeme =>
      let (more, flaw) := tokensFrom lexeme.raw (lexeme.length - 1) rest
      (lexeme.tokens ++ more, flaw)

/-- The tokens of markup. -/
def tokens (markup : String) : List Token × Option Flaw := tokensFrom none 0 markup.toList

end Wireframe.Markup
