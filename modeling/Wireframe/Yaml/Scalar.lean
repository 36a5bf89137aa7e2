import Wireframe.Text.Case
import Wireframe.Value
import Wireframe.Yaml.Error
import Wireframe.Yaml.Tag

/-! # Scalars

The value that the text of a scalar denotes under its tag. A tag may stand in front of a
text that has not the form of its values; then the text is read as far as its digits
allow, or there is no value.
-/

namespace Wireframe.Yaml.Scalar

/-- A value, or why there is none. -/
abbrev Result := Except ScalarFault

/-- The truth value of a word. -/
def bool (text : String) : Result Value :=
  let word := Text.lower text
  if word == "yes" || word == "true" || word == "on" then .ok (.bool true)
  else if word == "no" || word == "false" || word == "off" then .ok (.bool false)
  else .error .notBoolean

/-- A whole number in a base. -/
def wholeNumber (base : Nat) (s : List Char) : Result Int :=
  match Number.readInt? base s with
  | some n =>
    let count := Number.countDigits s
    if base == 10 && Number.mostDigits < count then .error (.tooManyDigits count) else .ok n
  | none => .error (.notInteger base (String.ofList s))

/-- The sign in front of a number, as a factor, and the rest. -/
def signed : List Char → Int × List Char
  | '-' :: rest => (-1, rest)
  | '+' :: rest => (1, rest)
  | s => (1, s)

/-- A number whose digits of base sixty stand between colons. -/
def baseSixty (parts : List Int) : Int := parts.foldl (fun n part => n * 60 + part) 0

/-- A whole number: binary behind `0b`, hexadecimal behind `0x`, octal behind another zero, of base
sixty with colons, and decimal otherwise. -/
def int (text : String) : Result Value := do
  let chars := text.toList.filter (· != '_')
  if chars.isEmpty then throw .emptyNumber
  let (sign, s) := signed chars
  let n ←
    match s with
    | [] => throw .emptyNumber
    | ['0'] => pure 0
    | '0' :: 'b' :: rest => wholeNumber 2 rest
    | '0' :: 'x' :: rest => wholeNumber 16 rest
    | '0' :: _ => wholeNumber 8 s
    | _ =>
      if s.contains ':' then baseSixty <$> (Tag.colonParts s).mapM (wholeNumber 10)
      else wholeNumber 10 s
  return .int (sign * n)

/-- A floating-point number. -/
def floatNumber (s : List Char) : Result Float :=
  match Number.readFloat? s with
  | some x => .ok x
  | none => .error (.notFloat (String.ofList s))

/-- The sum of the parts of a number of base sixty, the last part first, each with its weight. -/
def baseSixtyFloat : (weight : Nat) → List Float → Float → Float
  | _, [], sum => sum
  | weight, part :: rest, sum =>
    baseSixtyFloat (weight * 60) rest (sum + part * Number.floatOfInt weight)

/-- A floating-point number, infinity, a result that is no number, or a number of base sixty. -/
def float (text : String) : Result Value := do
  let chars := (Text.lower (String.ofList (text.toList.filter (· != '_')))).toList
  if chars.isEmpty then throw .emptyNumber
  let (sign, s) := signed chars
  let withSign := fun (x : Float) => Value.float (if sign < 0 then -x else x)
  if String.ofList s == ".inf" then return withSign (1.0 / 0.0)
  else if String.ofList s == ".nan" then return .float (0.0 / 0.0)
  else if s.contains ':' then
    let parts ← (Tag.colonParts s).mapM floatNumber
    return withSign (baseSixtyFloat 1 parts.reverse 0.0)
  else return withSign (← floatNumber s)

/-- The bytes that a text stands for in base 64; the place is that of the node. -/
def binary (text : String) (mark : Mark) : Except Error Value :=
  let chars := text.toList
  let plain := chars.takeWhile fun c => c.toNat < 0x80
  match chars.drop plain.length with
  | c :: rest =>
    let count := ((c :: rest).takeWhile fun c => 0x80 ≤ c.toNat).length
    .error (.broken (.notAscii c plain.length count) mark)
  | [] =>
    match Text.Base64.decode chars with
    | .ok bytes => .ok (.bytes bytes)
    | .error flaw => .error (.broken (.base64 flaw) mark)

/-- The microseconds that the digits behind a point denote; digits beyond the sixth are cut off. -/
def microseconds (digits : List Char) : Nat :=
  let six := digits.take 6
  Tag.number (six ++ List.replicate (6 - six.length) '0')

/-- The offset from universal time of a timestamp. -/
def offset : Tag.ZoneForm → Except Calendar.Fault (Option Int)
  | .absent => .ok none
  | .universal => .ok (some 0)
  | .offset negative hours minutes =>
    let seconds : Int := hours * 3600 + minutes * 60
    some <$> Calendar.checkOffset (if negative then -seconds else seconds)

/-- The date, or the date and time, of a timestamp. -/
def timestampOf (form : Tag.TimestampForm) : Except Calendar.Fault Value :=
  match form.time with
  | none => Value.date <$> Calendar.Date.of form.year form.month form.day
  | some (hour, minute, second, fraction, zone) => do
    let offset ← offset zone
    let date ← Calendar.Date.of form.year form.month form.day
    let time ← Calendar.Time.of hour minute second (microseconds fraction)
    return .dateTime ⟨date, time, offset⟩

/-- A date, or a date and time. -/
def timestamp (text : String) : Result Value :=
  match Tag.timestampForm? text.toList with
  | none => .error .notTimestamp
  | some form =>
    match timestampOf form with
    | .ok value => .ok value
    | .error fault => .error (.date fault)

end Wireframe.Yaml.Scalar
