import Wireframe.Export.Jsx
import Wireframe.Render.Fragment
import Wireframe.Text.Spelled
import Wireframe.Version

/-! # React modules

A fragment as a module with one component. Both style sheets and the title travel with
it as constants.
-/

namespace Wireframe.Export.React

/-- The name of the component unless another one is asked for. -/
def defaultName : String := "GeneratedUI"

/-- A name that a component can have: a capital letter, then letters, digits and underscores. A line
feed at the end does not count. -/
def isComponentName (name : String) : Bool :=
  match Jsx.withoutFinalBreak name.toList with
  | [] => false
  | c :: rest =>
    'A' ≤ c && c ≤ 'Z' &&
      rest.all fun d => Text.isAsciiLetter d || Text.isAsciiDigit d || d == '_'

/-- Why there is no module. -/
inductive Fault where
  | componentName (name : String)
  | markup (fault : Markup.Fault)
deriving DecidableEq, Repr

/-- The fault in words. -/
def Fault.message : Fault → String
  | .componentName name => "not a React component name: " ++ Text.spelled name
  | .markup fault => fault.message

/-- The lines of a module whose component shows some trees. -/
def lines (trees : List Markup) (css title name : String) : List String :=
  ["// Generated by " ++ generator,
    "import React from \"react\";",
    "",
    "export const TITLE = " ++ Text.quoted title ++ ";",
    "",
    "const BASE_CSS = " ++ Text.quoted Render.structuralSheet ++ ";",
    "",
    "const THEME_CSS = " ++ Text.quoted css ++ ";",
    "",
    "export default function " ++ name ++ "() \x7b",
    indent 1 ++ "return (",
    indent 2 ++ "<>",
    indent 3 ++ "<style dangerouslySetInnerHTML=\x7b\x7b __html: BASE_CSS \x7d\x7d />",
    indent 3 ++ "<style dangerouslySetInnerHTML=\x7b\x7b __html: THEME_CSS \x7d\x7d />"] ++
  Jsx.linesOfAll 3 trees ++
  [indent 2 ++ "</>", indent 1 ++ ");", "\x7d"]

/-- The text of a module whose component shows some trees. -/
def text (trees : List Markup) (css title name : String) : Except Markup.Fault String :=
  match Jsx.filledVoid? trees with
  | some tag => .error (.filledVoid tag)
  | none => .ok ("\n".intercalate (lines trees css title name) ++ "\n")

/-- The module for the markup of a fragment. -/
def moduleText (markup css title name : String) : Except Fault String := do
  unless isComponentName name do throw (.componentName name)
  let trees ← (Markup.read markup).mapError .markup
  (text trees css title name).mapError .markup

end Wireframe.Export.React
