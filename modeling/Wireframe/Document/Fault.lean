import Wireframe.Document.Path
import Wireframe.Location
import Wireframe.Named
import Wireframe.Yaml.Error

/-! # What is wrong with a document

A text can fail to be a document in two ways: it is no well-formed source of a mapping,
or the mapping breaks the rules for components. In the second case the fault has a path
in the source. Beside these, a scalar of the source may be no value of its type, or one
that cannot be written where its text is wanted.
-/

namespace Wireframe.Document

/-- What is wrong with the value of a field. -/
inductive FieldCause where
  | missing
  | notString
  | notUnicode
  /-- A text or a number that stands for no truth value. -/
  | unreadableBool
  | notBool
  /-- A value, by its literal, that is none of the words a field admits. -/
  | notChoice (literal : String) (words : List String)
  | notTuple
  | notOption
  /-- A whole number of too many digits where its text is wanted. -/
  | overlong
  /-- A value that is none of the words a field admits, and that cannot be quoted either. -/
  | unquotable
deriving DecidableEq, Repr

/-- A field with a wrong value, or a wrong value within that value. -/
structure FieldFault where
  field : String
  within : Path
  cause : FieldCause
deriving DecidableEq, Repr

/-- The fault of a field in words. -/
def FieldFault.message (fault : FieldFault) : String :=
  let invalid (what : String) := "invalid '" ++ fault.field ++ "': " ++ what
  match fault.cause with
  | .missing => "missing required field '" ++ fault.field ++ "'"
  | .notString => invalid "Input should be a valid string"
  | .notUnicode =>
    invalid "Input should be a valid string, unable to parse raw data as a unicode string"
  | .unreadableBool => invalid "Input should be a valid boolean, unable to interpret input"
  | .notBool => invalid "Input should be a valid boolean"
  | .notChoice literal words =>
    "invalid value " ++ literal ++ " for '" ++ fault.field ++ "' (expected " ++
      alternatives words ++ ")"
  | .overlong | .unquotable => invalid ("Value error, " ++ Number.overlongText)
  | .notTuple => invalid "Input should be a valid tuple"
  | .notOption => invalid "Input should be a valid dictionary or instance of ChoiceOption"

/-- A rule for components that a source breaks. -/
inductive Cause where
  | noPage
  | notMapping (found : String)
  | pageChildren
  | containerChildren
  | formChildren
  | leafChildren (kind : Kind)
  | notList (found : String)
  | notEntry
  /-- A name, by its code points, that is the name of no kind. -/
  | unknownKind (name : List Nat)
  | misplacedKind (kind : Kind) (allowed : List Kind)
  | notFields (found : String)
  /-- An id, by its code points, that was taken before. -/
  | duplicateId (id : List Nat) (first : Path)
  | field (fault : FieldFault)
deriving DecidableEq, Repr

/-- The broken rule in words. -/
def Cause.message : Cause → String
  | .noPage => "missing required section 'page'"
  | .notMapping found => "expected a mapping, got " ++ found
  | .pageChildren => "page children are declared under 'components'"
  | .containerChildren => "container children are declared under 'components'"
  | .formChildren => "form children are declared under 'fields' and 'actions'"
  | .leafChildren kind => kind.name ++ " cannot contain child components"
  | .notList found => "expected a list of components, got " ++ found
  | .notEntry => "component entry must be a single-key mapping \x7bKind: \x7b...\x7d\x7d"
  | .unknownKind name => "unknown component kind '" ++ Text.ofCodes name ++ "'"
  | .misplacedKind kind allowed =>
    "'" ++ kind.name ++ "' is not allowed here (expected one of: " ++
      ", ".intercalate (allowed.map Kind.name) ++ ")"
  | .notFields found => "expected a mapping of fields, got " ++ found
  | .duplicateId id first =>
    "duplicate id '" ++ Text.ofCodes id ++ "' (first declared at " ++ first.text ++ ")"
  | .field fault => fault.message

/-- Whether the words for a broken rule have an encoding. They have none where they repeat half of a
surrogate pair. -/
def Cause.isWritable : Cause → Bool
  | .unknownKind codes | .duplicateId codes _ => !Text.hasHalf codes
  | _ => true

/-- A broken rule and the path at which it is broken. -/
structure SchemaFault where
  path : Path
  cause : Cause
deriving DecidableEq, Repr

/-- The reason for a refusal. -/
def SchemaFault.reason (fault : SchemaFault) : String := fault.cause.message

/-- The fault in words, its path first. -/
def SchemaFault.message (fault : SchemaFault) : String :=
  fault.path.text ++ ": " ++ fault.reason

/-- Why a text is no well-formed source of a document. -/
inductive Malformed where
  /-- Bytes that are no UTF-8, from a position on. -/
  | encoding (position : Nat)
  | unprintable (found : Char) (position : Nat)
  | yaml (problem : Yaml.Problem) (mark : Yaml.Mark)
  | notMapping (found : String)
deriving DecidableEq, Repr

/-- Where in its source a malformation shows, if it has a place. -/
def Malformed.location? : Malformed → Option Location
  | .yaml _ mark => some ⟨none, some (mark.line + 1 : Nat), some (mark.column + 1 : Nat)⟩
  | _ => none

/-- The malformation in words, without its place. -/
def Malformed.problem : Malformed → String
  | .encoding position => "not valid UTF-8 (byte " ++ Nat.repr position ++ ")"
  | .unprintable found position => "invalid YAML: " ++ Yaml.unprintableText found position
  | .yaml problem _ => problem.message
  | .notMapping found => "expected a mapping at the top level, got " ++ found

/-- The malformation in words. -/
def Malformed.message (m : Malformed) : String :=
  match m.location? with
  | some location => location.prefixed m.problem
  | none => m.problem

/-- Why a text is no document. -/
inductive Fault where
  | malformed (m : Malformed)
  | schema (fault : SchemaFault)
  /-- A scalar that is no value of its type, or that cannot be written. -/
  | scalar (fault : Yaml.ScalarFault)
deriving DecidableEq, Repr

/-- The malformation of a source that has no value, unless a scalar alone is at fault. -/
def Fault.ofYaml : Yaml.Error → Fault
  | .unprintable found position => .malformed (.unprintable found position)
  | .broken problem mark => .malformed (.yaml problem mark)
  | .scalar fault => .scalar fault

end Wireframe.Document
