import Mathlib.Data.List.TakeWhile
import Wireframe.Export.Pug
import Wireframe.Proofs.Text.Literal

/-! # Reading Pug

The trees that a Pug template shows, and how they are read. Each line is one element or one
text. What a line holds stands on deeper lines behind it, and siblings have one depth. An
element is a tag, `div` if there is none, with classes and ids behind it, attributes in
parentheses, and perhaps a text that is all it holds. Texts and the values of attributes are
string literals; other expressions are not read.
-/

namespace Wireframe.Export.Pug

/-- A text, or an element with its classes, its other attributes, and what it holds. -/
inductive Node where
  | text (s : String)
  | element (tag : String) (classes : List String) (attributes : List Attribute)
      (children : List Node)

/-! ## Attributes -/

/-- The classes that an attribute gives an element. -/
def classNames (a : Attribute) : List String :=
  if a.1 == "class" then (Text.words (a.2.getD "").toList).map String.ofList else []

/-- The classes that attributes give an element, in order. -/
def allClasses (attributes : List Attribute) : List String := attributes.flatMap classNames

/-- Attributes apart from classes, ids first. -/
def arranged (attributes : List Attribute) : List Attribute :=
  attributes.filter (·.1 == "id") ++
    attributes.filter fun a => !(a.1 == "id" || a.1 == "class")

/-- The node of an element. -/
def element (tag : String) (attributes : List Attribute) (children : List Node) : Node :=
  .element tag (allClasses attributes) (arranged attributes) children

/-- The nodes that trees denote. -/
def denoted : List Markup → List Node
  | [] => []
  | .text s :: rest => .text s :: denoted rest
  | .element tag attributes children :: rest =>
    element tag attributes (denoted children) :: denoted rest

/-! ## Lines -/

/-- What a line says: a text, or an element with its attributes and with a text if it stands
there. -/
inductive Content where
  | text (s : String)
  | element (tag : String) (attributes : List Attribute) (shown : Option String)

/-- A line with its depth. -/
structure Line where
  depth : Nat
  content : Content

/-- The attribute that a mark of the shorthand stands for. -/
def marked? : Char → Option String
  | '.' => some "class"
  | '#' => some "id"
  | _ => none

/-- The classes and ids behind a tag, and what follows them. -/
def shorthand? : List Char → Option (List Attribute × List Char)
  | [] => some ([], [])
  | c :: rest =>
    match marked? c with
    | none => some ([], c :: rest)
    | some kind =>
      let name := rest.takeWhile continuesName
      if name.isEmpty then none
      else
        (shorthand? (rest.dropWhile continuesName)).map fun (more, behind) =>
          ((kind, some (String.ofList name)) :: more, behind)
termination_by s => s.length
decreasing_by exact Nat.lt_succ_of_le (List.dropWhile_sublist _).length_le

/-- The attribute at the front of a text, and what follows it. -/
def attribute? (s : List Char) : Option (Attribute × List Char) :=
  let name := s.takeWhile continuesName
  let behind := s.dropWhile continuesName
  if name.isEmpty then none
  else if behind.head? == some '=' then
    (Text.quoted? (behind.drop 1)).map fun (value, rest) =>
      ((String.ofList name, some value), rest)
  else some ((String.ofList name, none), behind)

/-- The attributes up to a closing parenthesis, and what follows it. -/
def attributes? (s : List Char) : Option (List Attribute × List Char) :=
  match attribute? s with
  | some (a, ')' :: rest) => some ([a], rest)
  | some (a, ' ' :: rest) =>
    if rest.length < s.length then
      (attributes? rest).map fun (more, behind) => (a :: more, behind)
    else none
  | _ => none
termination_by s.length

/-- The attributes in parentheses, if there are parentheses, and what follows them. -/
def parenthesised? : List Char → Option (List Attribute × List Char)
  | '(' :: rest => attributes? rest
  | s => some ([], s)

/-- The text behind an equals sign, which is all that follows. -/
def shown? : List Char → Option String
  | '=' :: ' ' :: rest =>
    match Text.quoted? rest with
    | some (s, []) => some s
    | _ => none
  | _ => none

/-- An element, which is all that follows. -/
def element? (s : List Char) : Option Content :=
  let tag := s.takeWhile continuesName
  match shorthand? (s.dropWhile continuesName) with
  | none => none
  | some (short, behind) =>
    if tag.isEmpty && short.isEmpty then none
    else
      let named := if tag.isEmpty then "div" else String.ofList tag
      match parenthesised? behind with
      | none => none
      | some (more, []) => some (.element named (short ++ more) none)
      | some (more, rest) =>
        (shown? rest).map fun text => .element named (short ++ more) (some text)

/-- What a line says behind its indentation. -/
def content? (s : List Char) : Option Content :=
  if s.head? == some '=' then (shown? s).map .text else element? s

/-- A line of a template. -/
def line? (s : List Char) : Option Line :=
  (content? (s.dropWhile (· == ' '))).map fun content =>
    ⟨(s.takeWhile (· == ' ')).length, content⟩

/-! ## Trees -/

/-- The node of a line and of what stands below it; below a text stands nothing. -/
def Content.node? : Content → List Node → Option Node
  | .text s, [] => some (.text s)
  | .element tag attributes none, below => some (Pug.element tag attributes below)
  | .element tag attributes (some s), [] => some (Pug.element tag attributes [.text s])
  | _, _ => none

/-- The nodes of lines. What stands below a line is deeper, and what follows it has its depth. -/
def nodes? : List Line → Option (List Node)
  | [] => some []
  | line :: rest =>
    let below := rest.takeWhile fun l => line.depth < l.depth
    let behind := rest.dropWhile fun l => line.depth < l.depth
    if behind.head?.all fun l => l.depth == line.depth then
      match nodes? below, nodes? behind with
      | some inside, some others => (line.content.node? inside).map (· :: others)
      | _, _ => none
    else none
termination_by lines => lines.length
decreasing_by
  · exact Nat.lt_succ_of_le (List.takeWhile_sublist _).length_le
  · exact Nat.lt_succ_of_le (List.dropWhile_sublist _).length_le

/-- The lines of a text that do not consist of spaces alone. -/
def filledLines (s : List Char) : List (List Char) :=
  (s.splitOnP Text.endsLine).filter fun line => !line.all (· == ' ')

/-- Reads a text as nodes. -/
def read? (s : List Char) : Option (List Node) :=
  match (filledLines s).mapM line? with
  | some found => nodes? found
  | none => none

example : (read? "div.a\n  p#b(c=\"d\")= \"e\"\n".toList).isSome = true := by cbv

end Wireframe.Export.Pug
