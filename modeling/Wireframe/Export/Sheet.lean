import Wireframe.Text.Blank
import Wireframe.Text.Lines

/-! # Style sheets inside documents

A style sheet that stands in a document must not end the element or the block it stands
in. In a page, no end tag may begin within it; in an indented template, no interpolation
may either, and each of its lines is indented.
-/

namespace Wireframe.Export

/-- A style sheet in which a backslash keeps each `</` apart. -/
def keepOpen : List Char → List Char
  | '<' :: '/' :: rest => '<' :: '\\' :: '/' :: keepOpen rest
  | c :: rest => c :: keepOpen rest
  | [] => []

/-- A style sheet that can stand in an element of a page. -/
def inlineSheet (css : String) : String := String.ofList (keepOpen css.toList)

/-- A text in which a backslash stands before each beginning of an interpolation. -/
def keepLiteral : List Char → List Char
  | a :: b :: rest =>
    if (a == '#' || a == '!') && (b == '\x7b' || b == '[') then '\\' :: a :: b :: keepLiteral rest
    else a :: keepLiteral (b :: rest)
  | s => s

/-- A style sheet that can stand in a block of an indented template. -/
def blockSheet (css : String) : String := String.ofList (keepLiteral (keepOpen css.toList))

/-- The unit of indentation. -/
def indent (depth : Nat) : String := String.ofList (List.replicate (2 * depth) ' ')

/-- The lines of a style block at a depth. Blank lines are empty, and the others are indented one
step further than the block. -/
def styleBlock (css : String) (depth : Nat) : List String :=
  (indent depth ++ "style.") ::
    (Text.lines (blockSheet css).toList).map fun line =>
      if Text.allBlank line then "" else indent (depth + 1) ++ String.ofList line

end Wireframe.Export
