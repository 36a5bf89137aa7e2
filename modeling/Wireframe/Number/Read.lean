import Wireframe.Text.Blank
import Wireframe.Text.Digit

/-! # Reading numbers

Numbers are read from texts that may carry blanks around them, a sign, digits of any
script, and single underscores between digits. Whole numbers are read in a given base;
floating-point numbers in decimal notation, or as the words for infinity and for a
result that is no number.
-/

namespace Wireframe.Number

/-- Takes the single underscores out of a run of digits. An underscore must stand between two
digits. -/
def joinDigits? (isDigit : Char → Bool) : List Char → Option (List Char)
  | [] => none
  | [c] => if isDigit c then some [c] else none
  | c :: '_' :: rest =>
    if isDigit c then (joinDigits? isDigit rest).map (c :: ·) else none
  | c :: rest => if isDigit c then (joinDigits? isDigit rest).map (c :: ·) else none

/-- Splits a leading sign off; true stands for a minus. -/
def splitSign : List Char → Bool × List Char
  | '-' :: rest => (true, rest)
  | '+' :: rest => (false, rest)
  | s => (false, s)

/-- Whether a character marks a base behind a leading zero. -/
def marksBase (base : Nat) (c : Char) : Bool :=
  (base == 16 && (c == 'x' || c == 'X')) || (base == 8 && (c == 'o' || c == 'O')) ||
    (base == 2 && (c == 'b' || c == 'B'))

/-- Drops the mark of a base, and an underscore behind it. -/
def dropBaseMark (base : Nat) : List Char → List Char
  | '0' :: c :: '_' :: rest => if marksBase base c then rest else '0' :: c :: '_' :: rest
  | '0' :: c :: rest => if marksBase base c then rest else '0' :: c :: rest
  | s => s

/-- The most decimal digits of a whole number that is read from a text, or written as one. -/
def mostDigits : Nat := 4300

/-- A whole number that has too many decimal digits to be written. -/
@[irreducible]
def isOverlong (n : Int) : Bool := Nat.pow 10 mostDigits ≤ n.natAbs

/-- What is wrong with writing a whole number that has too many digits, in words. -/
def overlongText : String :=
  "Exceeds the limit (" ++ Nat.repr mostDigits ++
    " digits) for integer string conversion; use sys.set_int_max_str_digits() to increase the limit"

/-- What is wrong with a whole number that has too many digits, in words. -/
def tooManyDigitsText (count : Nat) : String :=
  "Exceeds the limit (" ++ Nat.repr mostDigits ++
    " digits) for integer string conversion: value has " ++ Nat.repr count ++
    " digits; use sys.set_int_max_str_digits() to increase the limit"

/-- How many decimal digits a text holds. -/
def countDigits (s : List Char) : Nat := s.countP fun c => (Text.decimalValue? c).isSome

/-- A whole number in a base, with blanks around it and an optional sign. -/
def readInt? (base : Nat) (s : List Char) : Option Int :=
  let (negative, body) := splitSign (Text.trim s)
  (joinDigits? (fun c => (Text.digitValue? base c).isSome) (dropBaseMark base body)).map
    fun digits =>
      let n : Int := Text.numberOfDigits base digits
      if negative then -n else n

/-- The double-precision number nearest to `mantissa · 10 ^ exponent`. Powers beyond the range of
double precision are not computed. -/
def nearestFloat (mantissa : Nat) (exponent : Int) : Float :=
  let magnitude : Int := (Nat.repr mantissa).length + exponent
  if mantissa == 0 then 0.0
  else if 400 < magnitude then 1.0 / 0.0
  else if magnitude < -400 then 0.0
  else Float.ofScientific mantissa (exponent < 0) exponent.natAbs

/-- A run of digits, possibly empty, without its underscores. -/
def digitRun? (s : List Char) : Option (List Char) :=
  if s.isEmpty then some []
  else joinDigits? (fun c => (Text.decimalValue? c).isSome) s

/-- Splits a text at the first character of a class; the second part is absent when there is
none. -/
def splitAtFirst (p : Char → Bool) (s : List Char) : List Char × Option (List Char) :=
  match s.dropWhile (fun c => !p c) with
  | [] => (s, none)
  | _ :: rest => (s.takeWhile (fun c => !p c), some rest)

/-- The exponent of a decimal; without one it is zero. -/
def readExponent? : Option (List Char) → Option Int
  | none => some 0
  | some s =>
    let (negative, body) := splitSign s
    (joinDigits? (fun c => (Text.decimalValue? c).isSome) body).map fun digits =>
      let n : Int := Text.numberOfDigits 10 digits
      if negative then -n else n

/-- A decimal without a sign: digits with an optional point and an optional exponent. -/
def readDecimal? (s : List Char) : Option Float :=
  let (significand, exponent) := splitAtFirst (fun c => c == 'e' || c == 'E') s
  let (whole, fraction) := splitAtFirst (· == '.') significand
  match digitRun? whole, digitRun? (fraction.getD []), readExponent? exponent with
  | some w, some f, some e =>
    if w.isEmpty && f.isEmpty then none
    else some (nearestFloat (Text.numberOfDigits 10 (w ++ f)) (e - f.length))
  | _, _, _ => none

/-- A floating-point number, with blanks around it and an optional sign. -/
def readFloat? (s : List Char) : Option Float :=
  let (negative, body) := splitSign (Text.trim s)
  let word := String.ofList (body.map Char.toLower)
  let magnitude :=
    if word == "inf" || word == "infinity" then some (1.0 / 0.0)
    else if word == "nan" then some (0.0 / 0.0)
    else readDecimal? body
  magnitude.map fun x => if negative then -x else x

/-- The floating-point number nearest to a whole number. -/
def floatOfInt (n : Int) : Float :=
  let x := nearestFloat n.natAbs 0
  if n < 0 then -x else x

/-- The whole number a floating-point number equals, if it equals one. -/
def wholeOfFloat? (x : Float) : Option Int :=
  if x.isNaN || x.isInf then none
  else
    let bits := x.toBits.toNat
    let biased : Nat := bits / Nat.pow 2 52 % Nat.pow 2 11
    let fraction : Nat := bits % Nat.pow 2 52
    let mantissa := if biased == 0 then fraction else fraction + Nat.pow 2 52
    let shift : Int := (if biased == 0 then 1 else biased : Nat) - (1075 : Int)
    let magnitude : Option Nat :=
      if 0 ≤ shift then some (mantissa * Nat.pow 2 shift.toNat)
      else
        let unit := Nat.pow 2 (-shift).toNat
        if mantissa % unit == 0 then some (mantissa / unit) else none
    magnitude.map fun n => if Nat.pow 2 63 ≤ bits then -(n : Int) else n

end Wireframe.Number
