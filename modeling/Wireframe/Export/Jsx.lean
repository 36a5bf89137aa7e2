import Wireframe.Export.Sheet
import Wireframe.Json.Basic
import Wireframe.Markup.Read

/-! # Markup as JSX

The projection of element trees to JSX. A text or an attribute stands as it is where JSX
reads it as it is; elsewhere it stands as a string expression. Form controls keep their
initial state without handlers: what is checked or selected at first goes into the
default of the control.
-/

namespace Wireframe.Export.Jsx

/-- The names of attributes that JSX names differently. -/
def renamed : List (String × String) :=
  [("class", "className"), ("for", "htmlFor"), ("checked", "defaultChecked"),
   ("readonly", "readOnly"), ("tabindex", "tabIndex"), ("maxlength", "maxLength"),
   ("autocomplete", "autoComplete")]

/-- The name of an attribute in JSX. -/
def propName (name : String) : String := (renamed.lookup name).getD name

/-- A string expression. -/
def expression (s : String) : String := "\x7b" ++ Text.quoted s ++ "\x7d"

/-- A text without a line feed at its end. -/
def withoutFinalBreak (s : List Char) : List Char :=
  if s.getLast? == some '\n' then s.dropLast else s

/-- A character that a text can hold as it is. -/
def isPlainTextChar (c : Char) : Bool :=
  !(c == '\x7b' || c == '\x7d' || c == '<' || c == '>' || c == '&' || c == '"' || c == '\'' ||
    c == '\n')

/-- A text that stands as it is: it is not empty, holds no character of the notation, and has no
blanks at its ends. -/
def isPlainText (s : List Char) : Bool :=
  !s.isEmpty && s.all isPlainTextChar && Text.trim s == s

/-- A text as JSX writes it. -/
def text (s : String) : String := if isPlainText s.toList then s else expression s

/-- A character that an attribute can hold as it is. -/
def isPlainValueChar (c : Char) : Bool := !(c == '"' || c == '&' || c == '\n')

/-- A value that stands as it is between quotes. A line feed at its end does not count. -/
def isPlainValue (s : List Char) : Bool := (withoutFinalBreak s).all isPlainValueChar

/-- An attribute as JSX writes it. What is selected is told by the select instead. -/
def prop : Attribute → Option String
  | (name, value) =>
    if name == "selected" then none
    else
      match value with
      | none => some (propName name)
      | some v =>
        if isPlainValue v.toList then some (propName name ++ "=\"" ++ v ++ "\"")
        else some (propName name ++ "=" ++ expression v)

/-- The value that a choice in a select stands for. -/
def optionValue (option : Markup) : String :=
  if option.hasAttribute "value" then option.attributeValue "value" "" else option.ownText

/-- The values of the choices below an element that are selected at first. -/
def selectedValues (m : Markup) : List String :=
  ((m.withTag "option").filter (·.hasAttribute "selected")).map optionValue

/-- The default of a select, if anything is selected at first. -/
def selectDefault (tag : String) (m : Markup) : List String :=
  if tag == "select" then
    match selectedValues m with
    | [] => []
    | first :: more =>
      if m.hasAttribute "multiple" then
        ["defaultValue=\x7b" ++
          (Json.list ((first :: more).map .text)).write .spaced ++ "\x7d"]
      else ["defaultValue=" ++ expression first]
  else []

/-- The attributes of an element behind its tag. -/
def props (tag : String) (attributes : List Attribute) (m : Markup) : String :=
  String.join ((attributes.filterMap prop ++ selectDefault tag m).map (" " ++ ·))

/-- The first void element that holds something, among some trees and within them. Such trees have
no lines. -/
def filledVoid? : List Markup → Option String
  | [] => none
  | .text _ :: rest => filledVoid? rest
  | .element tag _ children :: rest =>
    if Markup.isVoid tag && !children.isEmpty then some tag
    else (filledVoid? children).or (filledVoid? rest)

mutual

/-- The lines of a tree at a depth. -/
def lines (depth : Nat) : Markup → List String
  | .text s => [indent depth ++ text s]
  | .element tag attributes children =>
    let opening := "<" ++ tag ++ props tag attributes (.element tag attributes children)
    match children with
    | [] => [indent depth ++ opening ++ " />"]
    | [.text s] => [indent depth ++ opening ++ ">" ++ text s ++ "</" ++ tag ++ ">"]
    | several =>
      (indent depth ++ opening ++ ">") ::
        (linesOfAll (depth + 1) several ++ [indent depth ++ "</" ++ tag ++ ">"])

/-- The lines of several trees at a depth. -/
def linesOfAll (depth : Nat) : List Markup → List String
  | [] => []
  | m :: rest => lines depth m ++ linesOfAll depth rest

end

end Wireframe.Export.Jsx
