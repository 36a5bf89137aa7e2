import Wireframe.Text.Digit

/-! # Tags

The tag of a node says what kind of value it is. A plain scalar without a tag gets one
from its form: `12` is a whole number, `1.5` a floating-point number, `yes` a truth value,
`2024-01-01` a timestamp, and everything else is a string. A form may end in one line
feed, which does not belong to it.
-/

namespace Wireframe.Yaml

/-- The kinds of value that a tag can name, and all other tags. -/
inductive Tag where
  | null
  | bool
  | int
  | float
  | binary
  | timestamp
  | omap
  | pairs
  | set
  | str
  /-- A string with halves of surrogate pairs, by its code points. -/
  | halved (codes : List Nat)
  | seq
  | map
  | merge
  | value
  | other (name : String)
deriving DecidableEq, Repr

namespace Tag

/-- The names of the tags of the language, without the address that they share. -/
def known : List (String × Tag) :=
  [("null", null), ("bool", bool), ("int", int), ("float", float), ("binary", binary),
   ("timestamp", timestamp), ("omap", omap), ("pairs", pairs), ("set", set), ("str", str),
   ("seq", seq), ("map", map), ("merge", merge), ("value", value)]

/-- The beginning of the addresses of the tags of the language. -/
def address : String := "tag:yaml.org,2002:"

/-- The tag with an address. -/
def ofName (name : String) : Tag :=
  match known.find? fun entry => address ++ entry.1 == name with
  | some (_, tag) => tag
  | none => other name

/-- The address of a tag. -/
def name : Tag → String
  | other name => name
  | halved _ => address ++ "str"
  | tag =>
    match known.find? fun entry => entry.2 == tag with
    | some (name, _) => address ++ name
    | none => address

/-! ### The forms of plain scalars -/

/-- A text without the line feed at its end. -/
def withoutLastFeed (s : List Char) : List Char :=
  if s.getLast? == some '\n' then s.dropLast else s

/-- A text without a sign at its beginning. -/
def unsigned : List Char → List Char
  | '+' :: rest => rest
  | '-' :: rest => rest
  | s => s

/-- A decimal digit or an underscore. -/
def isDigitOrBar (c : Char) : Bool := Text.isAsciiDigit c || c == '_'

/-- Digits and underscores that begin with a digit. -/
def isDigits : List Char → Bool
  | [] => false
  | c :: rest => Text.isAsciiDigit c && rest.all isDigitOrBar

/-- Digits and underscores that begin with a digit other than zero. -/
def isPositiveDigits : List Char → Bool
  | '0' :: _ => false
  | s => isDigits s

/-- The parts of a text between its colons. -/
def colonParts : List Char → List (List Char)
  | [] => [[]]
  | ':' :: rest => [] :: colonParts rest
  | c :: rest =>
    match colonParts rest with
    | [] => [[c]]
    | part :: parts => (c :: part) :: parts

/-- A number below sixty, in one or two digits. -/
def isBaseSixtyDigit : List Char → Bool
  | [c] => Text.isAsciiDigit c
  | [a, b] => '0' ≤ a && a ≤ '5' && Text.isAsciiDigit b
  | _ => false

/-- Digits followed by one or more digits of base sixty behind colons. -/
def isBaseSixty (lead : List Char → Bool) (s : List Char) : Bool :=
  match colonParts s with
  | first :: part :: parts => lead first && (part :: parts).all isBaseSixtyDigit
  | _ => false

/-- An exponent with its sign, or nothing. -/
def isExponent : List Char → Bool
  | [] => true
  | e :: sign :: digits =>
    (e == 'e' || e == 'E') && (sign == '+' || sign == '-') && !digits.isEmpty &&
      digits.all Text.isAsciiDigit
  | _ => false

/-- The part of a number behind its point: digits and underscores, and an optional exponent. -/
def isFraction (s : List Char) : Bool := isExponent (s.dropWhile isDigitOrBar)

/-- The form of a truth value. -/
def boolForms : List String :=
  ["yes", "Yes", "YES", "no", "No", "NO", "true", "True", "TRUE", "false", "False", "FALSE",
   "on", "On", "ON", "off", "Off", "OFF"]

/-- The part of a text in front of its first point, and the part behind it. -/
def splitAtPoint (s : List Char) : List Char × Option (List Char) :=
  match s.dropWhile (· != '.') with
  | [] => (s, none)
  | _ :: rest => (s.takeWhile (· != '.'), some rest)

/-- The form of a floating-point number. -/
def isFloatForm (s : List Char) : Bool :=
  let body := unsigned s
  let words := ["inf", "Inf", "INF"]
  let notNumbers := ["nan", "NaN", "NAN"]
  match splitAtPoint body with
  | (_, none) => false
  | ([], some rest) =>
    words.contains (String.ofList rest) ||
      (s.head? == some '.' && (notNumbers.contains (String.ofList rest) ||
        (rest.head?.any Text.isAsciiDigit && isFraction rest)))
  | (whole, some rest) =>
    (isDigits whole && isFraction rest) || (isBaseSixty isDigits whole && rest.all isDigitOrBar)

/-- The form of a whole number. -/
def isIntForm (s : List Char) : Bool :=
  match unsigned s with
  | ['0'] => true
  | '0' :: 'b' :: rest =>
    !rest.isEmpty && rest.all fun c => c == '0' || c == '1' || c == '_'
  | '0' :: 'x' :: rest => !rest.isEmpty && rest.all fun c => Text.isHexDigit c || c == '_'
  | '0' :: rest => rest.all fun c => ('0' ≤ c && c ≤ '7') || c == '_'
  | body => isPositiveDigits body || isBaseSixty isPositiveDigits body

/-- Splits `count` digits off a text. -/
def takeDigits? (count : Nat) (s : List Char) : Option (List Char × List Char) :=
  let digits := s.take count
  if digits.length == count && digits.all Text.isAsciiDigit then some (digits, s.drop count)
  else none

/-- Splits one or two digits off a text, two if there are two. -/
def takeOneOrTwo? (s : List Char) : Option (List Char × List Char) :=
  (takeDigits? 2 s).or (takeDigits? 1 s)

/-- Drops a character at the beginning of a text, which must be there. -/
def expect? (c : Char) : List Char → Option (List Char)
  | d :: rest => if c == d then some rest else none
  | [] => none

/-- The offset from universal time at the end of a timestamp: none, universal time itself, or a
sign with hours and minutes. -/
inductive ZoneForm where
  | absent
  | universal
  | offset (negative : Bool) (hours minutes : Nat)
deriving DecidableEq, Repr

/-- The parts of a timestamp. -/
structure TimestampForm where
  year : Nat
  month : Nat
  day : Nat
  /-- Hour, minute, second, the digits of the fraction, and the offset. -/
  time : Option (Nat × Nat × Nat × List Char × ZoneForm)
deriving DecidableEq, Repr

/-- The number that decimal digits denote. -/
def number (digits : List Char) : Nat := Text.numberOfDigits 10 digits

/-- A space or a tab. -/
def isInlineBlank (c : Char) : Bool := c == ' ' || c == '\t'

/-- The offset at the end of a timestamp, behind optional blanks. -/
def zoneForm? (s : List Char) : Option ZoneForm :=
  match s.dropWhile isInlineBlank with
  | [] => if s.isEmpty then some .absent else none
  | ['Z'] => some .universal
  | sign :: rest =>
    if sign == '+' || sign == '-' then do
      let (hours, rest) ← takeOneOrTwo? rest
      match rest with
      | [] => some (.offset (sign == '-') (number hours) 0)
      | _ => do
        let (minutes, rest) ← takeDigits? 2 (← expect? ':' rest)
        if rest.isEmpty then some (.offset (sign == '-') (number hours) (number minutes)) else none
    else none

/-- The time of a timestamp, behind its date. -/
def timeForm? (s : List Char) : Option (Nat × Nat × Nat × List Char × ZoneForm) := do
  let (hour, rest) ← takeOneOrTwo? s
  let (minute, rest) ← takeDigits? 2 (← expect? ':' rest)
  let (second, rest) ← takeDigits? 2 (← expect? ':' rest)
  let (fraction, rest) :=
    match rest with
    | '.' :: rest => (rest.takeWhile Text.isAsciiDigit, rest.dropWhile Text.isAsciiDigit)
    | rest => ([], rest)
  let zone ← zoneForm? rest
  return (number hour, number minute, number second, fraction, zone)

/-- A text without the mark between a date and a time: a letter T, or blanks. -/
def dropTimeMark? : List Char → Option (List Char)
  | [] => none
  | c :: rest =>
    if c == 'T' || c == 't' then some rest
    else if isInlineBlank c then some (rest.dropWhile isInlineBlank)
    else none

/-- The parts of a timestamp; month, day and hour may have one digit. -/
def timestampForm? (text : List Char) : Option TimestampForm := do
  let (year, rest) ← takeDigits? 4 (withoutLastFeed text)
  let (month, rest) ← takeOneOrTwo? (← expect? '-' rest)
  let (day, rest) ← takeOneOrTwo? (← expect? '-' rest)
  if rest.isEmpty then return ⟨number year, number month, number day, none⟩
  else
    let time ← timeForm? (← dropTimeMark? rest)
    return ⟨number year, number month, number day, some time⟩

/-- The form of a timestamp in a plain scalar: a date alone needs two digits for month and day. -/
def isTimestampForm (s : List Char) : Bool :=
  match timestampForm? s with
  | some form => form.time.isSome || s.length == 10
  | none => false

/-- The tag of a plain scalar. -/
def ofPlain (text : String) : Tag :=
  let s := withoutLastFeed text.toList
  let word := String.ofList s
  if boolForms.contains word then bool
  else if isFloatForm s then float
  else if isIntForm s then int
  else if word == "<<" then merge
  else if word == "~" || word == "null" || word == "Null" || word == "NULL" || text.isEmpty then null
  else if isTimestampForm s then timestamp
  else if word == "=" then value
  else if word == "!" || word == "&" || word == "*" then other (address ++ "yaml")
  else str

end Tag

end Wireframe.Yaml
