import Wireframe.Number.Text
import Wireframe.Text.Digit

/-! # Rounded decimals

Floating-point numbers written with a given number of places: with a point alone, with an
exponent, or in whichever of the two forms fits the size of the number. The number itself
is rounded, exactly as it stands in binary; one in the middle goes to the even digit.
-/

namespace Wireframe.Number

/-- A quotient rounded to the nearest whole number; one in the middle goes to the even one. -/
def roundedQuotient (dividend divisor : Nat) : Nat :=
  let down := dividend / divisor
  let twice := 2 * (dividend % divisor)
  if twice < divisor || (twice == divisor && down % 2 == 0) then down else down + 1

/-- A finite number without its sign in units of a power of ten, rounded. -/
def inUnits (x : Float) (power : Int) : Nat :=
  let b := Binary.ofFloat x
  let value := scaled 2 b.mantissa b.exponent
  let unit := scaled 10 1 power
  roundedQuotient (value.1 * unit.2) (value.2 * unit.1)

/-- Digits with a point in front of the last few of them. -/
def withPoint (digits places : Nat) : List Char :=
  let text := Text.paddedNumber (places + 1) digits
  let whole := text.take (text.length - places)
  if places == 0 then whole else whole ++ '.' :: text.drop (text.length - places)

/-- A finite number without its sign with so many places behind the point. -/
def fixedText (places : Nat) (x : Float) : List Char := withPoint (inUnits x (-places)) places

/-- The digits and the exponent of a finite number without its sign, with one digit in front of the
point and so many behind it. -/
def scientificParts (places : Nat) (x : Float) : Nat × Int :=
  if x == 0.0 then (0, 0)
  else
    let lead := (Binary.ofFloat x).interval.magnitude - 1
    let digits := inUnits x (lead - places)
    if digits == Nat.pow 10 (places + 1) then (digits / 10, lead + 1) else (digits, lead)

/-- A finite number without its sign, with an exponent and so many places behind the point. -/
def scientificText (places : Nat) (x : Float) : List Char :=
  let (digits, exponent) := scientificParts places x
  withPoint digits places ++ Layout.standard.exponentText exponent

/-- Leaves out zeros at the end of the places behind a point, and a point without places. -/
def dropZeros (s : List Char) : List Char :=
  if s.contains '.' then
    match s.reverse.dropWhile (· == '0') with
    | '.' :: rest => rest.reverse
    | rest => rest.reverse
  else s

/-- A finite number without its sign with so many digits in all: with an exponent if it is small or
has more digits in front of the point, without zeros at the end. -/
def generalText (digits : Nat) (x : Float) : List Char :=
  let digits := max digits 1
  let (found, exponent) := scientificParts (digits - 1) x
  if exponent < Layout.standard.leastPositional || (digits : Int) ≤ exponent then
    dropZeros (withPoint found (digits - 1)) ++ Layout.standard.exponentText exponent
  else dropZeros (fixedText ((digits : Int) - 1 - exponent).toNat x)

end Wireframe.Number
