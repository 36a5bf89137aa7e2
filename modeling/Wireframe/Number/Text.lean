import Wireframe.Number.Shortest

/-! # Numbers as text

How numbers are written: whole numbers in decimal digits, floating-point numbers as their
shortest decimal. A floating-point number always shows that it is one, by a point or by
an exponent. Whoever writes a whole number of a source finds out first that it has not too
many digits.
-/

namespace Wireframe.Number

/-- A whole number in decimal digits. -/
def intText : Int → String
  | .ofNat n => Nat.repr n
  | .negSucc n => "-" ++ Nat.repr (n + 1)

/-- How the digits of a floating-point number are laid out. -/
structure Layout where
  /-- The least power of ten of a leading digit that is written without an exponent. -/
  leastPositional : Int
  /-- The least power of ten of a leading digit that needs an exponent again. -/
  leastLarge : Int
  /-- The least number of digits of an exponent. -/
  exponentWidth : Nat

/-- Numbers from 0.0001 up to sixteen digits are written without an exponent, and an exponent has
at least two digits. -/
def Layout.standard : Layout := ⟨-4, 16, 2⟩

/-- An exponent with its mark and its sign. -/
def Layout.exponentText (layout : Layout) (e : Int) : List Char :=
  let digits := (Nat.repr e.natAbs).toList
  'e' :: (if e < 0 then '-' else '+') ::
    (List.replicate (layout.exponentWidth - digits.length) '0' ++ digits)

/-- The digits of a decimal with their point or exponent. -/
def Layout.decimalText (layout : Layout) (d : Decimal) : List Char :=
  let digits := (Nat.repr d.digits).toList
  let lead : Int := d.exponent + digits.length - 1
  if lead < layout.leastPositional || layout.leastLarge ≤ lead then
    match digits with
    | [] => []
    | [c] => c :: layout.exponentText lead
    | c :: rest => c :: '.' :: (rest ++ layout.exponentText lead)
  else if lead < 0 then
    '0' :: '.' :: (List.replicate (-lead - 1).toNat '0' ++ digits)
  else
    let whole := lead.toNat + 1
    let padded := digits ++ List.replicate (whole - digits.length) '0'
    let fraction := padded.drop whole
    padded.take whole ++ '.' :: (if fraction.isEmpty then ['0'] else fraction)

/-- The sign bit of a floating-point number. -/
def isNegative (x : Float) : Bool := Nat.pow 2 63 ≤ x.toBits.toNat

/-- The text of a floating-point number. -/
def floatText (x : Float) : String :=
  if x.isNaN then "nan"
  else
    let sign := if isNegative x then "-" else ""
    if x.isInf then sign ++ "inf"
    else if x == 0.0 then sign ++ "0.0"
    else sign ++ String.ofList (Layout.standard.decimalText (shortest x))

end Wireframe.Number
