import Wireframe.Named
import Wireframe.Value

/-! # Fields of settings

What the value of a setting may be, and what it then means. Numbers may be written as
texts, and truth values count as one and zero; numbers are held to bounds.
-/

namespace Wireframe.Settings

/-- Why a value is no value of a setting. -/
inductive FieldCause where
  | notString
  | notWhole
  | unreadableWhole
  | tooLongWhole
  | hasFraction
  | notFinite
  | notNumber
  | unreadableNumber
  | above (limit : Nat)
  | below (limit : Nat)
  | notAbove (limit : Nat)
  /-- A word from a finite set is wanted. -/
  | notChoice (words : List String)
  /-- A table is wanted, which goes by a name. -/
  | notTable (name : String)
deriving DecidableEq, Repr

/-- The cause in words. -/
def FieldCause.message : FieldCause → String
  | .notString => "Input should be a valid string"
  | .notWhole => "Input should be a valid integer"
  | .unreadableWhole => "Input should be a valid integer, unable to parse string as an integer"
  | .tooLongWhole => "Unable to parse input string as an integer, exceeded maximum size"
  | .hasFraction => "Input should be a valid integer, got a number with a fractional part"
  | .notFinite => "Input should be a finite number"
  | .notNumber => "Input should be a valid number"
  | .unreadableNumber => "Input should be a valid number, unable to parse string as a number"
  | .above limit => "Input should be less than or equal to " ++ Nat.repr limit
  | .below limit => "Input should be greater than or equal to " ++ Nat.repr limit
  | .notAbove limit => "Input should be greater than " ++ Nat.repr limit
  | .notChoice words => "Input should be " ++ alternatives words
  | .notTable name => "Input should be a valid dictionary or instance of " ++ name

namespace Field

/-- A text. -/
def text : Value → Except FieldCause String
  | .text s => .ok s
  | _ => .error .notString

/-- A text without the white space around it. -/
def trim (s : List Char) : List Char :=
  ((s.dropWhile Text.isWhiteSpace).reverse.dropWhile Text.isWhiteSpace).reverse

/-- Takes single underscores out of a text. There is no result for a text without underscores, nor
where one stands at an end or beside another. -/
def withoutUnderscores? (s : List Char) : Option (List Char) :=
  let parts := (String.ofList s).splitOn "_"
  if parts.length < 2 || parts.any (·.isEmpty) then none else some (s.filter (· != '_'))

/-- A whole number in its plain form: a minus if it is negative, and digits without a zero in front
of others. -/
def plainWhole? (s : List Char) : Option (Except FieldCause Int) :=
  let (negative, digits) :=
    match s with
    | '-' :: rest => (true, rest)
    | rest => (false, rest)
  let plain :=
    match digits with
    | [] => false
    | '0' :: _ :: _ => false
    | ds => ds.all Text.isAsciiDigit
  if !plain then none
  else if Number.mostDigits < digits.length then some (.error .tooLongWhole)
  else
    let n : Int := Text.numberOfDigits 10 digits
    some (.ok (if negative then -n else n))

/-- The digits behind the zeros in front of a number, where underscores between zeros count as
zeros. A zero before a point stays, and so does the last character of a text without other digits. -/
def withoutZeros? (s : List Char) : Option (List Char) :=
  match s with
  | '0' :: rest =>
    let zeros := rest.takeWhile fun c => c == '0' || c == '_'
    match rest.drop zeros.length with
    | [] => some [('0' :: zeros).getLastD '0']
    | '.' :: more => some (('0' :: zeros).getLastD '0' :: '.' :: more)
    | c :: more => if Text.isAsciiDigit c then some (c :: more) else none
  | '-' :: _ => some s
  | c :: _ => if Text.isAsciiDigit c then some s else none
  | [] => none

/-- A number without a point that has nothing but zeros behind it. -/
def withoutPoint (s : List Char) : List Char :=
  match s.dropWhile (· != '.') with
  | '.' :: zeros => if zeros.all (· == '0') then s.takeWhile (· != '.') else s
  | _ => s

/-- A text in the plain form of a whole number, where it has that form after cleaning: without blanks
around it, a plus, zeros in front, a point with zeros behind it, and underscores. -/
def cleanedWhole? (s : List Char) : Option (List Char) := do
  let trimmed := trim s
  let unsigned ←
    match trimmed with
    | '+' :: '-' :: _ => none
    | '+' :: rest => some rest
    | rest => some rest
  let bare := withoutPoint (← withoutZeros? unsigned)
  return (withoutUnderscores? bare).getD bare

/-- A whole number that is written as a text. -/
def wholeOfText (s : List Char) : Except FieldCause Int :=
  match plainWhole? s with
  | some result => result
  | none =>
    match (cleanedWhole? s).bind plainWhole? with
    | some (.ok n) => .ok n
    | _ => .error .unreadableWhole

/-- A whole number. One that is written with a point must fit into 64 bits. -/
def whole : Value → Except FieldCause Int
  | .bool b => .ok (if b then 1 else 0)
  | .int n => .ok n
  | .float x =>
    if x.isNaN || x.isInf then .error .notFinite
    else
      match Number.wholeOfFloat? x with
      | none => .error .hasFraction
      | some n => if n.natAbs < Nat.pow 2 63 then .ok n else .error .tooLongWhole
  | .text s => wholeOfText s.toList
  | _ => .error .notWhole

/-- A whole number between two bounds. -/
def wholeBetween (low high : Nat) (v : Value) : Except FieldCause Int := do
  let n ← whole v
  if (high : Int) < n then throw (.above high)
  else if n < low then throw (.below low)
  else return n

/-- A number that is written as a text without blanks and underscores. -/
def plainNumber? (s : List Char) : Option Float :=
  if s.all fun c => c.toNat < 128 && c != '_' && !Text.isBlank c then Number.readFloat? s else none

/-- A number that is written as a text, with blanks around it or with underscores. -/
def numberOfText (s : List Char) : Except FieldCause Float :=
  match (plainNumber? (trim s)).or ((withoutUnderscores? s).bind plainNumber?) with
  | some x => .ok x
  | none => .error .unreadableNumber

/-- A number. -/
def number : Value → Except FieldCause Float
  | .bool b => .ok (if b then 1 else 0)
  | .int n =>
    let x := Number.floatOfInt n
    if x.isInf then .error .notNumber else .ok x
  | .float x => .ok x
  | .text s => numberOfText s.toList
  | _ => .error .notNumber

/-- A number that is not below zero. -/
def notNegative (v : Value) : Except FieldCause Float := do
  let x ← number v
  if x < 0 then throw (.below 0) else return x

/-- A number that is not zero or below. -/
def positive (v : Value) : Except FieldCause Float := do
  let x ← number v
  if x ≤ 0 then throw (.notAbove 0) else return x

/-- A word from a finite set. -/
def word (α : Type) [Named α] (v : Value) : Except FieldCause α :=
  let found : Option α :=
    match v with
    | .text s => Named.ofName? s
    | _ => none
  match found with
  | some a => .ok a
  | none => .error (.notChoice ((Named.all (α := α)).map Named.name))

end Field

end Wireframe.Settings
