import Wireframe.Number.Read
import Wireframe.Toml.Text

/-! # Dates, times and numbers of TOML

The forms of scalars without quotes. A scalar reaches as far as its form allows; what
stands behind it is not looked at.
-/

namespace Wireframe.Toml

/-- A number of exactly so many decimal digits at the front, if it lies between two bounds. -/
def fixedNumber? (width low high : Nat) (chars : List Char) : Option (Nat × List Char) :=
  let digits := chars.take width
  if digits.length == width && digits.all Text.isAsciiDigit then
    let n := Text.numberOfDigits 10 digits
    if low ≤ n && n ≤ high then some (n, chars.drop width) else none
  else none

/-- The characters behind one that has to come first. -/
def after? (c : Char) : List Char → Option (List Char)
  | d :: rest => if c == d then some rest else none
  | [] => none

/-- A fraction of a second in microseconds; digits beyond the sixth are left out. -/
def microseconds (chars : List Char) : Nat × List Char :=
  match chars with
  | '.' :: rest =>
    let digits := rest.takeWhile Text.isAsciiDigit
    if digits.isEmpty then (0, chars)
    else
      let six := (digits ++ List.replicate 6 '0').take 6
      (Text.numberOfDigits 10 six, rest.dropWhile Text.isAsciiDigit)
  | _ => (0, chars)

/-- A time of day at the front. -/
def time? (chars : List Char) : Option (Calendar.Time × List Char) := do
  let (hour, rest) ← fixedNumber? 2 0 23 chars
  let (minute, rest) ← fixedNumber? 2 0 59 (← after? ':' rest)
  let (second, rest) ← fixedNumber? 2 0 59 (← after? ':' rest)
  let (micro, rest) := microseconds rest
  return (⟨hour, minute, second, micro⟩, rest)

/-- An offset from universal time at the front, in seconds. -/
def offset? (chars : List Char) : Option (Int × List Char) :=
  let hoursAndMinutes (sign : Int) (rest : List Char) : Option (Int × List Char) := do
    let (hours, rest) ← fixedNumber? 2 0 23 rest
    let (minutes, rest) ← fixedNumber? 2 0 59 (← after? ':' rest)
    return (sign * (hours * 3600 + minutes * 60 : Nat), rest)
  match chars with
  | 'Z' :: rest | 'z' :: rest => some (0, rest)
  | '+' :: rest => hoursAndMinutes 1 rest
  | '-' :: rest => hoursAndMinutes (-1) rest
  | _ => none

/-- The numbers of a date at the front. -/
def dateNumbers? (chars : List Char) : Option ((Nat × Nat × Nat) × List Char) := do
  let (year, rest) ← fixedNumber? 4 0 9999 chars
  let (month, rest) ← fixedNumber? 2 1 12 (← after? '-' rest)
  let (day, rest) ← fixedNumber? 2 1 31 (← after? '-' rest)
  return ((year, month, day), rest)

/-- The time behind a date: a letter or a blank, and a time of day. -/
def timeOfDate? : List Char → Option (Calendar.Time × List Char)
  | c :: rest => if c == 'T' || c == 't' || c == ' ' then time? rest else none
  | [] => none

/-- A date at the front, with a time and an offset if they follow it. -/
def date? (chars : List Char) : Option (Except Calendar.Fault Value × List Char) :=
  (dateNumbers? chars).map fun ((year, month, day), rest) =>
    let date := Calendar.Date.of year month day
    match timeOfDate? rest with
    | none => (date.map .date, rest)
    | some (time, rest) =>
      match offset? rest with
      | none => (date.map fun d => .dateTime ⟨d, time, none⟩, rest)
      | some (seconds, rest) => (date.map fun d => .dateTime ⟨d, time, some seconds⟩, rest)

/-- A run of digits at the front that may have single underscores between them. -/
def digitRun (isDigit : Char → Bool) : List Char → List Char × List Char
  | '_' :: c :: rest =>
    if isDigit c then
      let (run, rest) := digitRun isDigit rest
      ('_' :: c :: run, rest)
    else ([], '_' :: c :: rest)
  | c :: rest =>
    if isDigit c then
      let (run, rest) := digitRun isDigit rest
      (c :: run, rest)
    else ([], c :: rest)
  | [] => ([], [])

/-- A run of digits at the front that begins with a digit. -/
def digits? (isDigit : Char → Bool) (chars : List Char) : Option (List Char × List Char) :=
  match chars with
  | c :: _ => if isDigit c then some (digitRun isDigit chars) else none
  | [] => none

/-- A whole number at the front that is written in a base other than ten, behind its mark. -/
def based? (chars : List Char) : Option (Value × List Char) :=
  let inBase (base : Nat) (rest : List Char) : Option (Value × List Char) :=
    let isDigit (c : Char) : Bool := Text.isHexDigit c && (Text.digitValue? base c).isSome
    (digits? isDigit rest).map fun (run, rest) =>
      (.int (Text.numberOfDigits base (run.filter (· != '_'))), rest)
  match chars with
  | '0' :: 'x' :: rest => inBase 16 rest
  | '0' :: 'o' :: rest => inBase 8 rest
  | '0' :: 'b' :: rest => inBase 2 rest
  | _ => none

/-- The sign at the front, if there is one. -/
def sign : List Char → List Char × List Char
  | '+' :: rest => (['+'], rest)
  | '-' :: rest => (['-'], rest)
  | chars => ([], chars)

/-- The whole part of a decimal at the front. A zero has no digit behind it. -/
def wholePart? (chars : List Char) : Option (List Char × List Char) :=
  match chars with
  | '0' :: rest => some (['0'], rest)
  | _ => digits? Text.isAsciiDigit chars

/-- The point of a decimal at the front, with its digits. -/
def fractionPart (chars : List Char) : List Char × List Char :=
  match chars with
  | '.' :: rest =>
    match digits? Text.isAsciiDigit rest with
    | some (run, rest) => ('.' :: run, rest)
    | none => ([], chars)
  | _ => ([], chars)

/-- The exponent of a decimal at the front. -/
def exponentPart (chars : List Char) : List Char × List Char :=
  match chars with
  | c :: rest =>
    if c == 'e' || c == 'E' then
      let (sign, rest) := sign rest
      match digits? Text.isAsciiDigit rest with
      | some (run, rest) => (c :: sign ++ run, rest)
      | none => ([], chars)
    else ([], chars)
  | [] => ([], [])

/-- A decimal at the front: a whole number, unless it has a fraction or an exponent. -/
def decimal? (chars : List Char) : Option (Except Fault Value × List Char) :=
  let (sign, rest) := sign chars
  (wholePart? rest).map fun (whole, rest) =>
    let (fraction, rest) := fractionPart rest
    let (exponent, rest) := exponentPart rest
    if fraction.isEmpty && exponent.isEmpty then
      let count := Number.countDigits whole
      if Number.mostDigits < count then (.error (.tooManyDigits count), rest)
      else
        let n : Int := Text.numberOfDigits 10 (whole.filter (· != '_'))
        (.ok (.int (if sign == ['-'] then -n else n)), rest)
    else
      let x := Number.readFloat? (sign ++ whole ++ fraction ++ exponent)
      (.ok (.float (x.getD 0)), rest)

/-- A word for infinity or for a result that is no number at the front, with its sign. -/
def numberWord? (chars : List Char) : Option (Value × List Char) :=
  let (sign, rest) := sign chars
  let word := rest.take 3
  if word == ['i', 'n', 'f'] || word == ['n', 'a', 'n'] then
    (Number.readFloat? (sign ++ word)).map fun x => (.float x, rest.drop 3)
  else none

/-- Reads a scalar without quotes. -/
def bareScalar : Reader Value := fun chars =>
  match date? chars with
  | some (.ok value, rest) => .ok (value, rest)
  | some (.error _, _) => .error (flawAt .badDate chars)
  | none =>
    match time? chars with
    | some (time, rest) => .ok (.time time, rest)
    | none =>
      match (based? chars).or (numberWord? chars) with
      | some found => .ok found
      | none =>
        match decimal? chars with
        | some (value, rest) => value.map fun v => (v, rest)
        | none => .error (flawAt .notValue chars)

end Wireframe.Toml
