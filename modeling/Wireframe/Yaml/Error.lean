import Wireframe.Calendar
import Wireframe.Number.Read
import Wireframe.Text.Base64
import Wireframe.Text.Spelled
import Wireframe.Text.Utf8
import Wireframe.Yaml.Mark

/-! # What can be wrong with a YAML text

Three kinds of failure exist. A text may hold a character that YAML does not allow at all;
it may break a rule of the language at some place; or one of its scalars may be no value
of the type that its form or its tag promises, or one that cannot be written where a text
is wanted.
-/

namespace Wireframe.Yaml

/-- What a rule asks for where another character stands. -/
inductive Wanted where
  | alphanumeric
  | digit
  | digitOrPoint
  | digitOrSpace
  | space
  | mark
  | closingAngle
  | commentOrBreak
  | chompingOrIndentation
  | hexadecimal (count : Nat)
  | uri
  | uriEscape
deriving DecidableEq, Repr

/-- What is wanted, in words. -/
def Wanted.text : Wanted → String
  | .alphanumeric => "alphabetic or numeric character"
  | .digit => "a digit"
  | .digitOrPoint => "a digit or '.'"
  | .digitOrSpace => "a digit or ' '"
  | .space => "' '"
  | .mark => "'!'"
  | .closingAngle => "'>'"
  | .commentOrBreak => "a comment or a line break"
  | .chompingOrIndentation => "chomping or indentation indicators"
  | .hexadecimal count =>
    "escape sequence of " ++ Nat.repr count ++ " hexadecimal numbers"
  | .uri => "URI"
  | .uriEscape => "URI escape sequence of 2 hexadecimal numbers"

/-- The three kinds of node, as messages name them. -/
inductive NodeKind where
  | scalar
  | sequence
  | mapping
deriving DecidableEq, Repr

/-- The name of a kind of node. -/
def NodeKind.name : NodeKind → String
  | .scalar => "scalar"
  | .sequence => "sequence"
  | .mapping => "mapping"

/-- A broken rule of the language. Names of tokens are kept as the messages show them. -/
inductive Problem where
  | unexpected (wanted : Wanted) (found : Char)
  | cannotStart (found : Char)
  | missingColon
  | sequenceNotAllowed
  | keyNotAllowed
  | valueNotAllowed
  | zeroIndentation
  | unknownEscape (found : Char)
  | endOfStream
  | documentSeparator
  | uriBytes (failure : Text.Utf8.Failure) (bytes : List UInt8)
  | wantedDocument (found : String)
  | wantedContent (found : String)
  | wantedBlockEnd (found : String)
  | wantedFlowEntry (closing : Char) (found : String)
  | duplicateVersion
  | incompatibleVersion
  | duplicateHandle (handle : String)
  | undefinedHandle (handle : String)
  | undefinedAlias (name : String)
  | duplicateAnchor
  | secondDocument
  | wrongNode (wanted found : NodeKind)
  | unknownTag (tag : String)
  | unhashableKey
  | mergeNeedsMappings (found : NodeKind)
  | mergeNeedsMapping (found : NodeKind)
  | pairsNeedSequence (found : NodeKind)
  | pairNeedsMapping (found : NodeKind)
  | pairNeedsOneEntry (count : Nat)
  | base64 (flaw : Text.Base64.Flaw)
  | notAscii (first : Char) (position count : Nat)
deriving DecidableEq, Repr

/-- The characters that cannot be written in ASCII: a single one is shown, several by their
range. -/
def notAsciiText (first : Char) (position count : Nat) : String :=
  "'ascii' codec can't encode " ++
    (if count == 1 then
      "character '" ++ String.ofList (Text.Spelled.codeEscape first.toNat) ++ "' in position " ++
        Nat.repr position
    else
      "characters in position " ++ Nat.repr position ++ "-" ++ Nat.repr (position + count - 1)) ++
    ": ordinal not in range(128)"

/-- What is wrong, in words. -/
def Problem.message : Problem → String
  | .unexpected wanted found =>
    "expected " ++ wanted.text ++ ", but found " ++ Text.spelledChar found
  | .cannotStart found =>
    "found character " ++ Text.spelledChar found ++ " that cannot start any token"
  | .missingColon => "could not find expected ':'"
  | .sequenceNotAllowed => "sequence entries are not allowed here"
  | .keyNotAllowed => "mapping keys are not allowed here"
  | .valueNotAllowed => "mapping values are not allowed here"
  | .zeroIndentation => "expected indentation indicator in the range 1-9, but found 0"
  | .unknownEscape found => "found unknown escape character " ++ Text.spelledChar found
  | .endOfStream => "found unexpected end of stream"
  | .documentSeparator => "found unexpected document separator"
  | .uriBytes failure bytes => failure.message bytes
  | .wantedDocument found =>
    "expected '<document start>', but found " ++ Text.spelled found
  | .wantedContent found => "expected the node content, but found " ++ Text.spelled found
  | .wantedBlockEnd found => "expected <block end>, but found " ++ Text.spelled found
  | .wantedFlowEntry closing found =>
    "expected ',' or '" ++ String.ofList [closing] ++ "', but got " ++ Text.spelled found
  | .duplicateVersion => "found duplicate YAML directive"
  | .incompatibleVersion => "found incompatible YAML document (version 1.* is required)"
  | .duplicateHandle handle => "duplicate tag handle " ++ Text.spelled handle
  | .undefinedHandle handle => "found undefined tag handle " ++ Text.spelled handle
  | .undefinedAlias name => "found undefined alias " ++ Text.spelled name
  | .duplicateAnchor => "second occurrence"
  | .secondDocument => "but found another document"
  | .wrongNode wanted found =>
    "expected a " ++ wanted.name ++ " node, but found " ++ found.name
  | .unknownTag tag => "could not determine a constructor for the tag " ++ Text.spelled tag
  | .unhashableKey => "found unhashable key"
  | .mergeNeedsMappings found =>
    "expected a mapping or list of mappings for merging, but found " ++ found.name
  | .mergeNeedsMapping found => "expected a mapping for merging, but found " ++ found.name
  | .pairsNeedSequence found => "expected a sequence, but found " ++ found.name
  | .pairNeedsMapping found => "expected a mapping of length 1, but found " ++ found.name
  | .pairNeedsOneEntry count =>
    "expected a single mapping item, but found " ++ Nat.repr count ++ " items"
  | .base64 flaw => "failed to decode base64 data: " ++ flaw.message
  | .notAscii first position count =>
    "failed to convert base64 data into ascii: " ++ notAsciiText first position count

/-- What is wrong with a scalar beyond the rules of the language: it is no value of its type, its
value cannot be written, or it stands for a node that contains itself without end. -/
inductive ScalarFault where
  | notBoolean
  | emptyNumber
  | notInteger (base : Nat) (text : String)
  | tooManyDigits (count : Nat)
  | notFloat (text : String)
  | notTimestamp
  | notTimestampText
  | date (fault : Calendar.Fault)
  | codePointRange
  | codePointWidth
  | endless
  /-- A whole number has too many digits to be written. -/
  | overlong
  /-- A text holds halves of surrogate pairs and has no encoding. -/
  | halved
  /-- What is to be written is nested too deeply. -/
  | tooDeep
deriving DecidableEq, Repr

/-- The most characters of a literal that a message about a whole number shows. -/
def shownLiteralLength : Nat := 200

/-- What is wrong with a scalar, in words; some faults have no words of their own. -/
def ScalarFault.message : ScalarFault → String
  | .notInteger base text =>
    "invalid literal for int() with base " ++ Nat.repr base ++ ": " ++
      String.ofList ((Text.Spelled.encode text.toList).take shownLiteralLength)
  | .tooManyDigits count => Number.tooManyDigitsText count
  | .notFloat text => "could not convert string to float: " ++ Text.spelled text
  | .date fault => fault.message
  | .codePointRange => "chr() arg not in range(0x110000)"
  | .overlong => Number.overlongText
  | _ => ""

/-- Why a YAML text has no value. -/
inductive Error where
  /-- A character that may not appear in the text at all. -/
  | unprintable (found : Char) (position : Nat)
  /-- A broken rule and the place where it shows. -/
  | broken (problem : Problem) (mark : Mark)
  /-- A scalar at fault. -/
  | scalar (fault : ScalarFault)
deriving DecidableEq, Repr

/-- The words for a character that may not appear. -/
def unprintableText (found : Char) (position : Nat) : String :=
  "unacceptable character #x" ++
    String.ofList (Text.hexText 4 found.toNat) ++
    ": special characters are not allowed\n  in \"<unicode string>\", position " ++
    Nat.repr position

end Wireframe.Yaml
