import Wireframe.Text.Case
import Wireframe.Theme.Resolve

/-! # Themes as style sheets

A theme becomes one rule that declares its variables, and one rule for each kind and
variant of component that has styles. The order is that of the variables.
-/

namespace Wireframe.Theme

/-- The name of a variable in a style sheet. -/
def variableName (key : String) : String :=
  "--" ++ String.ofList (key.toList.map fun c => if c == '.' then '-' else c)

/-- The class of the components of a kind and a variant. -/
def componentClass (kind variant : String) : String :=
  "textui-" ++ Text.lower kind ++ "-" ++ variant

/-- Whether a word can end before a capital letter. -/
def endsWord (c : Char) : Bool := ('a' ≤ c && c ≤ 'z') || ('0' ≤ c && c ≤ '9')

/-- A hyphen before each capital letter that follows a small letter or a digit. -/
def hyphenated : List Char → List Char
  | [] => []
  | [c] => [c]
  | c :: next :: rest =>
    if endsWord c && 'A' ≤ next && next ≤ 'Z' then c :: '-' :: hyphenated (next :: rest)
    else c :: hyphenated (next :: rest)

/-- The name of a style property in a style sheet: words joined by hyphens. -/
def propertyName (name : String) : String :=
  if name.toList.contains '-' then Text.lower name
  else Text.lower (String.ofList (hyphenated name.toList))

/-- The blanks before a declaration; a negative width means none. -/
def indentation (width : Int) : String := String.ofList (List.replicate width.toNat ' ')

namespace Resolved

/-- The rule that declares the variables; with a list of names, only those. -/
def rootRule (theme : Resolved) (only : Option (List String)) (indent : Int) : String :=
  let declarations := theme.«variables».filterMap fun (key, value) =>
    let name := variableName key
    if (only.map (·.contains name)).getD true then
      some (indentation indent ++ name ++ ": " ++ value ++ ";")
    else none
  "\n".intercalate ([":root \x7b"] ++ declarations ++ ["\x7d"])

/-- The rules that bind the properties of components to their variables. -/
def componentRules (theme : Resolved) (indent : Int) : String :=
  let rules := theme.components.map fun ((kind, variant), properties) =>
    let declarations := properties.map fun (property, key) =>
      indentation indent ++ propertyName property ++ ": var(" ++ variableName key ++ ");"
    "\n".intercalate
      (["." ++ componentClass kind variant ++ " \x7b"] ++ declarations ++ ["\x7d"])
  "\n".intercalate rules

/-- The style sheet of a theme. -/
def styleSheet (theme : Resolved) : String :=
  let rules := theme.componentRules 2
  let root := theme.rootRule none 2
  if rules == "" then root else root ++ "\n" ++ rules

end Resolved

end Wireframe.Theme
