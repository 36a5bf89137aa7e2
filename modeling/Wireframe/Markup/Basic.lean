/-! # Markup

Trees of elements and texts, and the markup that writes them. In markup the characters
that could end a text or an attribute are written as references, wherever they stand.
Void elements have no content and no end tag.
-/

namespace Wireframe

/-- An attribute; one without a value is set by its name alone. -/
abbrev Attribute := String × Option String

/-- A text, or an element with its attributes and what it holds. -/
inductive Markup where
  | text (s : String)
  | element (tag : String) (attributes : List Attribute) (children : List Markup)

namespace Markup

/-- The elements that have neither content nor an end tag. -/
def voidElements : List String :=
  ["area", "base", "br", "col", "embed", "hr", "img", "input", "link", "meta", "source", "track",
   "wbr"]

/-- Whether elements with a tag have neither content nor an end tag. -/
def isVoid (tag : String) : Bool := voidElements.contains tag

/-- How one character of a text or of an attribute is written. -/
def escapeChar (c : Char) : List Char :=
  if c == '&' then "&amp;".toList
  else if c == '<' then "&lt;".toList
  else if c == '>' then "&gt;".toList
  else if c == '\'' then "&#39;".toList
  else if c == '"' then "&#34;".toList
  else [c]

/-- A text as markup writes it. -/
def escape (s : String) : String := String.ofList (s.toList.flatMap escapeChar)

/-- An attribute within a start tag. -/
def writeAttribute : Attribute → String
  | (name, none) => " " ++ name
  | (name, some value) => " " ++ name ++ "=\"" ++ escape value ++ "\""

/-- A start tag. -/
def startTag (tag : String) (attributes : List Attribute) : String :=
  "<" ++ tag ++ String.join (attributes.map writeAttribute) ++ ">"

/-- An end tag. -/
def endTag (tag : String) : String := "</" ++ tag ++ ">"

mutual

/-- The markup that writes a tree. -/
def write : Markup → String
  | text s => escape s
  | element tag attributes children =>
    if isVoid tag then startTag tag attributes
    else startTag tag attributes ++ writeAll children ++ endTag tag

/-- The markup that writes several trees one after the other. -/
def writeAll : List Markup → String
  | [] => ""
  | m :: rest => m.write ++ writeAll rest

end

end Markup

end Wireframe
