import Wireframe.Calendar
import Wireframe.Number.Read
import Wireframe.Text.Spelled
import Wireframe.Text.Utf8

/-! # Values

The values that documents, themes, settings and messages are written in: scalars of
several kinds, sequences, sets and mappings. A mapping keeps its entries in the order in
which its keys were first written, and holds no key twice.

Each value has two texts. Its *text* is what a page shows when the value stands where a
string is wanted; its *literal* is how a message quotes it. They differ for strings,
bytes and dates. Two kinds of value have no text that could be used: a whole number of too
many digits is not written at all, and a string with halves of surrogate pairs is a list of
code points of which a text can only show where the halves are.
-/

namespace Wireframe

/-- A value of a document, a theme, a settings file or a message. -/
inductive Value where
  | null
  | bool (b : Bool)
  | int (n : Int)
  | float (x : Float)
  | text (s : String)
  /-- A string with halves of surrogate pairs, by its code points. -/
  | halved (codes : List Nat)
  | bytes (b : List UInt8)
  | date (d : Calendar.Date)
  | dateTime (t : Calendar.DateTime)
  | time (t : Calendar.Time)
  | list (items : List Value)
  | tuple (items : List Value)
  | set (items : List Value)
  | map (entries : List (Value × Value))

namespace Value

/-- The name of a value's kind, as messages use it. -/
def kindName : Value → String
  | null => "NoneType"
  | bool _ => "bool"
  | int _ => "int"
  | float _ => "float"
  | text _ | halved _ => "str"
  | bytes _ => "bytes"
  | date _ => "date"
  | dateTime _ => "datetime"
  | time _ => "time"
  | list _ => "list"
  | tuple _ => "tuple"
  | set _ => "set"
  | map _ => "dict"

/-- The items of a group between its brackets, separated by commas. -/
def grouped (opening closing : String) (items : List String) : String :=
  opening ++ ", ".intercalate items ++ closing

mutual

/-- How a message quotes a value. The items of a set are quoted in the order in which the source
writes them, and a whole number with all its digits. -/
def literal : Value → String
  | null => "None"
  | bool b => if b then "True" else "False"
  | int n => Number.intText n
  | float x => Number.floatText x
  | text s => Text.spelled s
  | halved codes => String.ofList (Text.Spelled.encodeCodes codes)
  | bytes b => String.ofList (Text.Spelled.encodeBytes b)
  | date d => d.literal
  | dateTime t => t.literal
  | time t => t.literal
  | list items => grouped "[" "]" (literals items)
  | tuple items =>
    match literals items with
    | [one] => "(" ++ one ++ ",)"
    | several => grouped "(" ")" several
  | set items => if items.isEmpty then "set()" else grouped "\x7b" "\x7d" (literals items)
  | map entries => grouped "\x7b" "\x7d" (entryLiterals entries)

/-- The literals of several values. -/
def literals : List Value → List String
  | [] => []
  | v :: rest => v.literal :: literals rest

/-- The literals of the entries of a mapping. -/
def entryLiterals : List (Value × Value) → List String
  | [] => []
  | (k, v) :: rest => (k.literal ++ ": " ++ v.literal) :: entryLiterals rest

end

/-- What a page shows when a value stands where a string is wanted. -/
def toText : Value → String
  | text s => s
  | halved codes => Text.ofCodes codes
  | date d => d.text
  | dateTime t => t.text
  | time t => t.text
  | other => other.literal

/-- The code points of the text of a value. Strings with halves of surrogate pairs, which are shown
alike, are told apart by them. -/
def codes : Value → List Nat
  | halved codes => codes
  | v => Text.codes v.toText

/-- A string that holds half of a surrogate pair. -/
def isHalved : Value → Bool
  | halved _ => true
  | _ => false

mutual

/-- A value that is not written, because it is or holds a whole number of too many digits. -/
def isOverlong : Value → Bool
  | int n => Number.isOverlong n
  | list items | tuple items | set items => anyOverlong items
  | map entries => anyOverlongEntry entries
  | _ => false

/-- Whether one of several values is not written. -/
def anyOverlong : List Value → Bool
  | [] => false
  | v :: rest => v.isOverlong || anyOverlong rest

/-- Whether a key or a value of a mapping is not written. -/
def anyOverlongEntry : List (Value × Value) → Bool
  | [] => false
  | (k, v) :: rest => k.isOverlong || v.isOverlong || anyOverlongEntry rest

end

/-- A whole number of too many digits. -/
def isOverlongNumber : Value → Bool
  | int n => Number.isOverlong n
  | _ => false

/-- The number that a value is; truth values count as one and zero. -/
def number? : Value → Option (Int ⊕ Float)
  | bool b => some (.inl (if b then 1 else 0))
  | int n => some (.inl n)
  | float x => some (.inr x)
  | _ => none

/-- Two numbers that are equal as numbers, whatever their kinds. A result that is no number counts
as equal to itself. -/
def sameNumber : Int ⊕ Float → Int ⊕ Float → Bool
  | .inl a, .inl b => a == b
  | .inl a, .inr y => Number.wholeOfFloat? y == some a
  | .inr x, .inl b => Number.wholeOfFloat? x == some b
  | .inr x, .inr y => x == y || (x.isNaN && y.isNaN)

/-- Two values that are the same key of a mapping. Only scalars can be keys. -/
def sameKey : Value → Value → Bool
  | null, null => true
  | text s, text t => s == t
  | halved a, halved b => a == b
  | bytes a, bytes b => a == b
  | date a, date b => a == b
  | dateTime a, dateTime b => a.same b
  | a, b =>
    match a.number?, b.number? with
    | some x, some y => sameNumber x y
    | _, _ => false

/-- A value that can be a key of a mapping. -/
def isHashable : Value → Bool
  | list _ | set _ | map _ => false
  | _ => true

/-- Sets an entry of a mapping: a key that is there keeps its place, a new one comes last. -/
def put (key value : Value) : List (Value × Value) → List (Value × Value)
  | [] => [(key, value)]
  | (k, v) :: rest => if k.sameKey key then (k, value) :: rest else (k, v) :: put key value rest

/-- Sets the entries of a list one after the other. -/
def putAll (entries : List (Value × Value)) (into : List (Value × Value)) :
    List (Value × Value) :=
  entries.foldl (fun acc e => put e.1 e.2 acc) into

/-- Adds an item to a set. -/
def insertItem (item : Value) (items : List Value) : List Value :=
  if items.any (·.sameKey item) then items else items ++ [item]

/-- The entry of a mapping under a name. -/
def field? (name : String) (entries : List (Value × Value)) : Option Value :=
  (entries.find? fun e => e.1.sameKey (text name)).map (·.2)

/-- Whether a mapping has an entry under a name. -/
def hasField (name : String) (entries : List (Value × Value)) : Bool :=
  (field? name entries).isSome

/-- A value that counts as absent where a value is wanted: null, false, zero, or something
empty. -/
def isVoid : Value → Bool
  | null => true
  | bool b => !b
  | int n => n == 0
  | float x => x == 0.0
  | text s => s.isEmpty
  | bytes b => b.isEmpty
  | list items | tuple items | set items => items.isEmpty
  | map entries => entries.isEmpty
  | _ => false

/-- How a message names the kind of a value that stands in the wrong place. -/
def describe : Value → String
  | null => "nothing"
  | other => other.kindName

end Value

end Wireframe
