import Wireframe.Number.Text
import Wireframe.Text.Quoted

/-! # JSON

The values of a JSON text and their written forms. An object keeps its members in the
order in which they were written, a name written twice included; looking a name up finds
the member that was written last.
-/

namespace Wireframe

/-- A JSON value. -/
inductive Json where
  | null
  | bool (b : Bool)
  | int (n : Int)
  | float (x : Float)
  | text (s : String)
  | list (items : List Json)
  | object (members : List (String × Json))

namespace Json

/-- How the parts of a list or an object are set apart, and whether characters outside ASCII are
written as escapes. -/
structure Style where
  comma : String
  colon : String
  asciiOnly : Bool

/-- No blanks, and characters outside ASCII as they are. -/
def Style.compact : Style := ⟨",", ":", false⟩

/-- A blank after each comma and each colon, and characters outside ASCII as they are. -/
def Style.spaced : Style := ⟨", ", ": ", false⟩

/-- A blank after each comma and each colon, and nothing outside ASCII. -/
def Style.spacedAscii : Style := ⟨", ", ": ", true⟩

/-- A string between its quotes. -/
def Style.quote (style : Style) (s : String) : String :=
  if style.asciiOnly then Text.quotedAscii s else Text.quoted s

mutual

/-- The written form of a value. -/
def write (style : Style) : Json → String
  | null => "null"
  | bool b => if b then "true" else "false"
  | int n => Number.intText n
  | float x => Number.floatText x
  | text s => style.quote s
  | list items => "[" ++ style.comma.intercalate (writeItems style items) ++ "]"
  | object members => "\x7b" ++ style.comma.intercalate (writeMembers style members) ++ "\x7d"

/-- The written forms of the items of a list. -/
def writeItems (style : Style) : List Json → List String
  | [] => []
  | item :: rest => item.write style :: writeItems style rest

/-- The written forms of the members of an object. -/
def writeMembers (style : Style) : List (String × Json) → List String
  | [] => []
  | (name, value) :: rest =>
    (style.quote name ++ style.colon ++ value.write style) :: writeMembers style rest

end

mutual

/-- How many objects stand in each other in a value. -/
def depth : Json → Nat
  | list items => itemsDepth items
  | object members => membersDepth members + 1
  | _ => 0

/-- How many objects stand in each other in an item of a list. -/
def itemsDepth : List Json → Nat
  | [] => 0
  | item :: rest => max item.depth (itemsDepth rest)

/-- How many objects stand in each other in a member of an object. -/
def membersDepth : List (String × Json) → Nat
  | [] => 0
  | (_, value) :: rest => max value.depth (membersDepth rest)

end

/-- A string or nothing. -/
def ofText? : Option String → Json
  | none => null
  | some s => text s

/-- The member of an object under a name; of two members of one name, the later. -/
def member? (name : String) (members : List (String × Json)) : Option Json :=
  (members.reverse.find? fun m => m.1 == name).map (·.2)

end Json

end Wireframe
