import Wireframe.Markup.Token

/-! # Reading markup

The trees that markup writes. End tags have to match the elements they end, except that
an end tag of a void element is passed over. Texts of blanks alone are layout and no
content.
-/

namespace Wireframe.Markup

/-- Why markup is not read as trees, or its trees are not written in another notation. -/
inductive Fault where
  | unexpectedEnd (tag : String)
  | unclosed (tag : String)
  | flaw (flaw : Flaw)
  /-- A void element holds something. -/
  | filledVoid (tag : String)
deriving DecidableEq, Repr

/-- The fault in words; a flaw has no words of its own. -/
def Fault.message : Fault → String
  | .unexpectedEnd tag => "unexpected </" ++ tag ++ "> in rendered fragment"
  | .unclosed tag => "rendered fragment leaves <" ++ tag ++ "> unclosed"
  | .flaw _ => ""
  | .filledVoid tag => "void element <" ++ tag ++ "> has children"

/-- An element that has begun: its tag, its attributes, and what it holds so far, the last first. -/
structure Opened where
  tag : String
  attributes : List Attribute
  children : List Markup

/-- What has been read: the elements that have begun, the innermost first, and what stands outside
of them, the last first. -/
structure Partial where
  opened : List Opened
  outside : List Markup

namespace Partial

/-- Adds a tree to the innermost element that has begun. -/
def add (p : Partial) (m : Markup) : Partial :=
  match p.opened with
  | [] => { p with outside := m :: p.outside }
  | o :: rest => { p with opened := { o with children := m :: o.children } :: rest }

/-- Takes the next token. -/
def step (p : Partial) : Token → Except Fault Partial
  | .text s => .ok (if Text.allBlank s.toList then p else p.add (.text s))
  | .startTag tag attributes closed =>
    if closed || isVoid tag then .ok (p.add (.element tag attributes []))
    else .ok { p with opened := ⟨tag, attributes, []⟩ :: p.opened }
  | .endTag tag =>
    match p.opened with
    | o :: rest =>
      if o.tag == tag then
        .ok (add { p with opened := rest } (.element o.tag o.attributes o.children.reverse))
      else if isVoid tag then .ok p
      else .error (.unexpectedEnd tag)
    | [] => if isVoid tag then .ok p else .error (.unexpectedEnd tag)

/-- Takes several tokens one after the other. -/
def steps (p : Partial) : List Token → Except Fault Partial
  | [] => .ok p
  | t :: rest => do steps (← p.step t) rest

end Partial

/-- Reads markup as trees. -/
def read (markup : String) : Except Fault (List Markup) := do
  let (found, flaw) := tokens markup
  let p ← Partial.steps ⟨[], []⟩ found
  match flaw, p.opened with
  | some flaw, _ => throw (.flaw flaw)
  | none, o :: _ => throw (.unclosed o.tag)
  | none, [] => return p.outside.reverse

/-! ## Looking into trees -/

/-- The attributes of a tree; a text has none. -/
def attributesOf : Markup → List Attribute
  | text _ => []
  | element _ attributes _ => attributes

/-- What a tree holds; a text holds nothing. -/
def childrenOf : Markup → List Markup
  | text _ => []
  | element _ _ children => children

/-- Whether a tree is an element. -/
def isElement : Markup → Bool
  | text _ => false
  | element .. => true

/-- Whether an element has an attribute. -/
def hasAttribute (m : Markup) (name : String) : Bool := m.attributesOf.any (·.1 == name)

/-- The value of an attribute; an attribute without a value, or with an empty one, has a default. -/
def attributeValue (m : Markup) (name : String) (default : String) : String :=
  match m.attributesOf.lookup name with
  | some (some value) => if value == "" then default else value
  | _ => default

mutual

/-- The elements with a tag below a tree, in order. -/
def withTag (tag : String) : Markup → List Markup
  | text _ => []
  | element _ _ children => withTagAmong tag children

/-- The elements with a tag among some trees and below them, in order. -/
def withTagAmong (tag : String) : List Markup → List Markup
  | [] => []
  | m :: rest =>
    (match m with
      | text _ => []
      | element name _ _ => if name == tag then [m] else []) ++
      (withTag tag m ++ withTagAmong tag rest)

end

/-- The texts that stand directly in an element, joined. -/
def ownText (m : Markup) : String :=
  String.join (m.childrenOf.filterMap fun
    | text s => some s
    | element .. => none)

end Wireframe.Markup
