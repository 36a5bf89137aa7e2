import Wireframe.Document.Basic
import Wireframe.Document.Fault
import Wireframe.Value

/-! # Reading fields

What the value of a field may be, and what it then means. Texts may be written as numbers
or as bytes; truth values as words, as numbers or as bytes; words from a finite set as
bytes. The value null counts as absent only where a field is optional. A text may hold halves
of surrogate pairs; what is read then shows where they are.
-/

namespace Wireframe.Document

/-- The fields in the body of an entry. -/
abbrev Fields := List (Value × Value)

/-- The fields of a kind that are texts, in the order in which they are read. -/
def Kind.textFields : Kind → List String
  | page => ["id", "title"]
  | text => ["id", "value"]
  | button => ["id", "label"]
  | input | select => ["id", "label", "name", "placeholder"]
  | checkbox | radio => ["id", "label", "name"]
  | alert => ["id", "message", "title"]
  | divider | container | form => ["id"]

namespace Field

/-- The text that bytes encode. -/
def ofBytes (bytes : List UInt8) : Except FieldCause String :=
  match Text.Utf8.decode bytes with
  | .ok chars => .ok (String.ofList chars)
  | .error _ => .error .notUnicode

/-- A text. -/
def text : Value → Except FieldCause String
  | .text s => .ok s
  | .halved codes => .ok (Text.ofCodes codes)
  | .int n => if Number.isOverlong n then .error .overlong else .ok (Value.int n).toText
  | .float x => .ok (Value.float x).toText
  | .bytes b => ofBytes b
  | _ => .error .notString

/-- A text, or null for none. -/
def optionalText : Value → Except FieldCause (Option String)
  | .null => .ok none
  | v => some <$> text v

/-- A text for a choice, where a truth value is written as a word. -/
def choiceText : Value → Except FieldCause String
  | .bool b => .ok (if b then "true" else "false")
  | v => text v

/-- The words for true and false. -/
def boolWords : List (String × Bool) :=
  [("0", false), ("off", false), ("f", false), ("false", false), ("n", false), ("no", false),
   ("1", true), ("on", true), ("t", true), ("true", true), ("y", true), ("yes", true)]

/-- The truth value of a word in either case. -/
def ofBoolWord (s : List Char) : Except FieldCause Bool :=
  match boolWords.lookup (String.ofList (s.map Char.toLower)) with
  | some b => .ok b
  | none => .error .unreadableBool

/-- The truth value of a number, which has to be one or zero. A number below `least`, or of more than
64 bits, is not even a candidate. -/
def ofBoolNumber (least n : Int) : Except FieldCause Bool :=
  if n == 0 then .ok false
  else if n == 1 then .ok true
  else if least ≤ n && n < Nat.pow 2 63 then .error .unreadableBool
  else .error .notBool

/-- A truth value. -/
def bool : Value → Except FieldCause Bool
  | .bool b => .ok b
  | .text s => ofBoolWord s.toList
  | .halved _ => .error .notUnicode
  | .bytes b =>
    match Text.Utf8.decode b with
    | .ok chars => ofBoolWord chars
    | .error _ => .error .unreadableBool
  | .int n => ofBoolNumber (-Nat.pow 2 63) n
  | .float x =>
    match Number.wholeOfFloat? x with
    | some n => ofBoolNumber (1 - Nat.pow 2 63) n
    | none => .error .notBool
  | _ => .error .notBool

/-- Why a value is no word of a finite set. The value is quoted, if it can be. -/
def notWord (words : List String) : Value → FieldCause
  | .halved _ => .notUnicode
  | v => if v.isOverlong then .unquotable else .notChoice v.literal words

/-- A word from a finite set. -/
def word (α : Type) [Named α] (v : Value) : Except FieldCause α :=
  let found : Option α :=
    match v with
    | .text s => Named.ofName? s
    | .bytes b =>
      match Text.Utf8.decode b with
      | .ok chars => Named.ofName? (String.ofList chars)
      | .error _ => none
    | _ => none
  match found with
  | some a => .ok a
  | none => .error (notWord ((Named.all (α := α)).map Named.name) v)

/-- A field that has to be there. -/
def required {α : Type} (fields : Fields) (name : String) (read : Value → Except FieldCause α) :
    Except FieldFault α :=
  match Value.field? name fields with
  | none => .error ⟨name, [], .missing⟩
  | some v => (read v).mapError fun cause => ⟨name, [], cause⟩

/-- A field that may be absent. -/
def withDefault {α : Type} (fields : Fields) (name : String) (default : α)
    (read : Value → Except FieldCause α) : Except FieldFault α :=
  match Value.field? name fields with
  | none => .ok default
  | some v => (read v).mapError fun cause => ⟨name, [], cause⟩

/-- A choice from a member of a list, which has to be a mapping. -/
def choice (index : Nat) (v : Value) : Except FieldFault Choice :=
  match v with
  | .map entries => do
    let part (name : String) : Except FieldFault String :=
      match Value.field? name entries with
      | none => .error ⟨"options", [.member index, .field name], .missing⟩
      | some v => (choiceText v).mapError fun cause =>
          ⟨"options", [.member index, .field name], cause⟩
    let label ← part "label"
    return ⟨label, ← part "value"⟩
  | _ => .error ⟨"options", [.member index], .notOption⟩

/-- The choices in a list, whose first member has a given index. -/
def choices (index : Nat) : List Value → Except FieldFault (List Choice)
  | [] => .ok []
  | v :: rest => do
    let first ← choice index v
    return first :: (← choices (index + 1) rest)

/-- The choices that a component offers. -/
def options (fields : Fields) : Except FieldFault (List Choice) :=
  match Value.field? "options" fields with
  | none => .error ⟨"options", [], .missing⟩
  | some (.list items) | some (.tuple items) | some (.set items) => choices 0 items
  | some _ => .error ⟨"options", [], .notTuple⟩

/-- The id of a component. -/
def id (fields : Fields) : Except FieldFault (Option String) :=
  withDefault fields "id" none optionalText

end Field

end Wireframe.Document
