/-! # Shortest decimals

The decimal with the fewest digits that reads back as a given binary floating-point
number, and of several such decimals the nearest one. A binary number is taken apart
into a mantissa and a power of two; the reals that round to it form an interval, whose
ends belong to it exactly when the mantissa is even. For each count of digits the two
decimals around the number are tried, until one lies in the interval.
-/

namespace Wireframe.Number

/-- A finite binary floating-point number without its sign: `mantissa · 2 ^ exponent`. -/
structure Binary where
  mantissa : Nat
  exponent : Int
deriving DecidableEq, Repr

/-- A decimal number without its sign: `digits · 10 ^ exponent`. -/
structure Decimal where
  digits : Nat
  exponent : Int
deriving DecidableEq, Repr

/-- The least exponent of a binary number of double precision. -/
def Binary.leastExponent : Int := -1074

/-- The parts of a finite double-precision number. -/
def Binary.ofFloat (x : Float) : Binary :=
  let bits := x.toBits.toNat
  let biased : Nat := bits / Nat.pow 2 52 % Nat.pow 2 11
  let fraction : Nat := bits % Nat.pow 2 52
  if biased == 0 then ⟨fraction, leastExponent⟩
  else ⟨fraction + Nat.pow 2 52, (biased : Int) - 1075⟩

/-- A number `n · base ^ e` as a fraction: numerator and denominator. -/
def scaled (base n : Nat) (e : Int) : Nat × Nat :=
  if 0 ≤ e then (n * base.pow e.toNat, 1) else (n, base.pow (-e).toNat)

/-- A rounding interval: the number itself and the ends of the interval, as numerators over one
denominator, and whether the ends belong to it. -/
structure Interval where
  low : Nat
  value : Nat
  high : Nat
  denominator : Nat
  closed : Bool

/-- The reals that round to a binary number. Below a power of two the next number is only half as
far away. -/
def Binary.interval (b : Binary) : Interval :=
  let narrow := b.mantissa == Nat.pow 2 52 && b.exponent != Binary.leastExponent
  let unit := scaled 2 1 (b.exponent - 2)
  { low := (4 * b.mantissa - (if narrow then 1 else 2)) * unit.1
    value := 4 * b.mantissa * unit.1
    high := (4 * b.mantissa + 2) * unit.1
    denominator := unit.2
    closed := b.mantissa % 2 == 0 }

/-- Whether a decimal lies in an interval. -/
def Interval.has (i : Interval) (d : Decimal) : Bool :=
  let point := scaled 10 d.digits d.exponent
  let spot := point.1 * i.denominator
  let low := i.low * point.2
  let high := i.high * point.2
  if i.closed then low ≤ spot && spot ≤ high else low < spot && spot < high

/-- The number of digits in front of the decimal point; for a number below one tenth, zero or less,
counting the zeros behind the point. -/
def Interval.magnitude (i : Interval) : Int :=
  ((Nat.repr (i.value * Nat.pow 10 400 / i.denominator)).length : Int) - 400

/-- The decimal with `count` digits just below the number. -/
def Interval.below (i : Interval) (count : Nat) : Decimal :=
  let e := i.magnitude - count
  let unit := scaled 10 1 e
  ⟨i.value * unit.2 / (i.denominator * unit.1), e⟩

/-- Whether the number is nearer to a decimal than to the next one on the same grid; a number in the
middle counts as nearer when the digits are even. -/
def Interval.nearerBelow (i : Interval) (d : Decimal) : Bool :=
  let middle := scaled 10 (2 * d.digits + 1) d.exponent
  let twice := 2 * i.value * middle.2
  let spot := middle.1 * i.denominator
  twice < spot || (twice == spot && d.digits % 2 == 0)

/-- The decimal with `count` digits that lies in the interval, the nearer one of two. -/
def Interval.withDigits? (i : Interval) (count : Nat) : Option Decimal :=
  let down := i.below count
  let up : Decimal := ⟨down.digits + 1, down.exponent⟩
  match i.has down, i.has up with
  | true, true => some (if i.nearerBelow down then down else up)
  | true, false => some down
  | false, true => some up
  | false, false => none

/-- A decimal without trailing zeros in its digits. -/
def Decimal.normal (d : Decimal) : Decimal :=
  let zeros := ((Nat.repr d.digits).toList.reverse.takeWhile (· == '0')).length
  if d.digits == 0 then d else ⟨d.digits / Nat.pow 10 zeros, d.exponent + zeros⟩

/-- The shortest decimal that reads back as a positive finite number. Seventeen digits always
suffice. -/
def shortest (x : Float) : Decimal :=
  let i := (Binary.ofFloat x).interval
  (((List.range 17).findSome? fun k => i.withDigits? (k + 1)).getD (i.below 17)).normal

end Wireframe.Number
