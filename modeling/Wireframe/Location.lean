import Wireframe.Number.Text

/-! # Locations

Where in a source something is: a path into its tree, a line, a column. Each part may be
unknown. Messages about a source begin with the location they speak of.
-/

namespace Wireframe

/-- A place in a source. Lines and columns are counted from one. -/
structure Location where
  path : Option String := none
  line : Option Int := none
  column : Option Int := none
deriving DecidableEq, Repr

namespace Location

/-- The line, with its column if that is known. -/
def lineText (location : Location) : Option String :=
  location.line.map fun line =>
    "line " ++ Number.intText line ++
      match location.column with
      | some column => ", column " ++ Number.intText column
      | none => ""

/-- The path, unless it is empty. -/
def pathText (location : Location) : Option String := location.path.filter (· != "")

/-- A location in words. A location of which nothing is known stands for the input as a whole. -/
def text (location : Location) : String :=
  match location.lineText.toList ++ location.pathText.toList with
  | [] => "<input>"
  | parts => " at ".intercalate parts

/-- A message behind the location it speaks of. -/
def prefixed (location : Location) (message : String) : String :=
  location.text ++ ": " ++ message

end Location

end Wireframe
