import Wireframe.Export.Jsx
import Wireframe.Render.Fragment
import Wireframe.Version

/-! # Pug templates

The projection of element trees to Pug, where indentation says what an element holds.
Classes and ids have a shorthand behind the tag, and a `div` with a shorthand needs no
tag. Texts and the values of other attributes stand as string expressions, so that none
of their characters is read as notation.
-/

namespace Wireframe.Export.Pug

/-- A letter or an underscore. -/
def opensName (c : Char) : Bool := Text.isAsciiLetter c || c == '_'

/-- A character of a name behind its first one. -/
def continuesName (c : Char) : Bool := opensName c || Text.isAsciiDigit c || c == '-'

/-- A name that a shorthand can hold. A hyphen may stand before its first letter, and a line feed at
its end does not count. -/
def isShorthandName (s : List Char) : Bool :=
  let named : List Char → Bool
    | [] => false
    | c :: rest => opensName c && rest.all continuesName
  match Jsx.withoutFinalBreak s with
  | '-' :: rest => named rest
  | name => named name

/-- What an attribute adds: to the head behind the tag, or to the attributes in parentheses. -/
def placed : Attribute → String ⊕ String
  | (name, value) =>
    match value with
    | none => .inr name
    | some v =>
      let classes := Text.words v.toList
      if name == "class" && v != "" && classes.all isShorthandName then
        .inl (String.join (classes.map fun c => "." ++ String.ofList c))
      else if name == "id" && v != "" && isShorthandName v.toList then .inl ("#" ++ v)
      else .inr (name ++ "=" ++ Text.quoted v)

/-- The shorthand among some attributes. -/
def shorthand (attributes : List Attribute) : String :=
  String.join (attributes.filterMap fun a => (placed a).getLeft?)

/-- The attributes in parentheses, unless there are none. -/
def parenthesised (attributes : List Attribute) : String :=
  match attributes.filterMap fun a => (placed a).getRight? with
  | [] => ""
  | texts => "(" ++ " ".intercalate texts ++ ")"

/-- The tag of an element with its attributes. -/
def head (tag : String) (attributes : List Attribute) : String :=
  let short := shorthand attributes
  (if tag == "div" && short != "" then short else tag ++ short) ++ parenthesised attributes

mutual

/-- The lines of a tree at a depth. -/
def lines (depth : Nat) : Markup → List String
  | .text s => [indent depth ++ "= " ++ Text.quoted s]
  | .element tag attributes children =>
    let opening := indent depth ++ head tag attributes
    match children with
    | [.text s] => [opening ++ "= " ++ Text.quoted s]
    | several => opening :: linesOfAll (depth + 1) several

/-- The lines of several trees at a depth. -/
def linesOfAll (depth : Nat) : List Markup → List String
  | [] => []
  | m :: rest => lines depth m ++ linesOfAll depth rest

end

/-- The lines of a template whose body holds some trees. -/
def templateLines (trees : List Markup) (css title : String) : List String :=
  ["//- Generated by " ++ generator,
    "doctype html",
    "html(lang=\"en\")",
    indent 1 ++ "head",
    indent 2 ++ "meta(charset=\"utf-8\")",
    indent 2 ++ "meta(name=\"viewport\" content=\"width=device-width, initial-scale=1\")",
    indent 2 ++ "meta(name=\"generator\" content=" ++ Text.quoted generator ++ ")",
    indent 2 ++ "title= " ++ Text.quoted title] ++
  styleBlock Render.structuralSheet 2 ++
  styleBlock css 2 ++
  [indent 1 ++ "body.textui-export"] ++
  linesOfAll 2 trees

/-- The template for the markup of a fragment. -/
def template (markup css title : String) : Except Markup.Fault String := do
  let trees ← Markup.read markup
  return "\n".intercalate (templateLines trees css title) ++ "\n"

end Wireframe.Export.Pug
