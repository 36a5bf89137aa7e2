import Wireframe.Number.Rounded
import Wireframe.Value

/-! # Patterns of messages

A message may be written as a pattern with places for values. A place begins with a
percent sign and ends with a letter that tells how its value is written; between them
stand marks, the least width, and the places behind the point or the most characters.
Two percent signs stand for one.
-/

namespace Wireframe.Log

/-- Why a pattern cannot be filled. -/
inductive PatternFault where
  | tooFewValues
  | tooManyValues
  | wrongKind
  | missingName
  /-- A number that is too great for what it counts, or for the number of a character. -/
  | outOfRange
  /-- A place so wide that no text can hold it. -/
  | tooLong
  | notNumber
  | incomplete
  | incompleteName
  | widthTooBig
  | precisionTooBig
  | unknownLetter (letter : Char) (position : Nat)
deriving DecidableEq, Repr

/-- The fault in words; some faults have no words of their own. -/
def PatternFault.message : PatternFault → String
  | .notNumber => "cannot convert float NaN to integer"
  | .widthTooBig => "width too big"
  | .precisionTooBig => "precision too big"
  | .incomplete => "incomplete format"
  | .incompleteName => "incomplete format key"
  | .unknownLetter letter position =>
    "unsupported format character '" ++
      (if 31 ≤ letter.toNat && letter.toNat ≤ 126 then String.singleton letter else "?") ++
      "' (0x" ++ String.ofList (Nat.toDigits 16 letter.toNat) ++ ") at index " ++
      Nat.repr position
  | _ => ""

/-- The values for a pattern: several in order, or a mapping, from which places choose by name. -/
inductive Filling where
  | several (values : List Value)
  | named (entries : List (Value × Value))

/-- How the value of a place is written. -/
structure Place where
  leftAligned : Bool
  plus : Bool
  blank : Bool
  zeros : Bool
  alternate : Bool
  width : Nat
  precision : Option Nat
deriving DecidableEq, Repr

namespace Place

/-- A place without marks. -/
def plain : Place := ⟨false, false, false, false, false, 0, none⟩

/-- The place with a mark, if the character is one. -/
def marked? (place : Place) : Char → Option Place
  | '-' => some { place with leftAligned := true }
  | '+' => some { place with plus := true }
  | ' ' => some { place with blank := true }
  | '0' => some { place with zeros := true }
  | '#' => some { place with alternate := true }
  | _ => none

/-- Fills a text up to the width with blanks. -/
def pad (place : Place) (s : List Char) : List Char :=
  let blanks := List.replicate (place.width - s.length) ' '
  if place.leftAligned then s ++ blanks else blanks ++ s

/-- A text, cut to the most characters and filled up. -/
def textual (place : Place) (s : List Char) : List Char :=
  place.pad (match place.precision with
    | some most => s.take most
    | none => s)

/-- A number from its sign, the mark of its base and its digits. Zeros that fill it up stand behind
its sign and its mark. -/
def numeric (place : Place) (negative : Bool) (mark digits : List Char) : List Char :=
  let sign :=
    if negative then ['-'] else if place.plus then ['+'] else if place.blank then [' '] else []
  let front := sign ++ mark
  if place.zeros && !place.leftAligned then
    front ++ List.replicate (place.width - front.length - digits.length) '0' ++ digits
  else place.pad (front ++ digits)

/-- Digits filled up with zeros to the precision. -/
def atLeast (place : Place) (digits : List Char) : List Char :=
  List.replicate (place.precision.getD 0 - digits.length) '0' ++ digits

/-- A whole number in a base. -/
def inBase (place : Place) (base : Nat) (mark : List Char) (n : Int) : List Char :=
  place.numeric (n < 0) (if place.alternate then mark else [])
    (place.atLeast (Nat.toDigits base n.natAbs))

/-- A floating-point number, where `digits` writes one that is finite. -/
def floating (place : Place) (x : Float) (digits : Float → List Char) : List Char :=
  if x.isNaN then { place with zeros := false }.numeric false [] ['n', 'a', 'n']
  else if x.isInf then { place with zeros := false }.numeric (x < 0) [] ['i', 'n', 'f']
  else place.numeric (Number.isNegative x) [] (digits x)

end Place

/-- The whole number a value counts as; a floating-point number loses its fraction. -/
def wholeOf (v : Value) : Except PatternFault Int :=
  match v with
  | .bool b => .ok (if b then 1 else 0)
  | .int n => .ok n
  | .float x =>
    match Number.wholeOfFloat? (if x < 0 then x.ceil else x.floor) with
    | some n => .ok n
    | none => .error (if x.isNaN then .notNumber else .outOfRange)
  | _ => .error .wrongKind

/-- The whole number that a value is. -/
def exactWhole (v : Value) : Except PatternFault Int :=
  match v with
  | .bool b => .ok (if b then 1 else 0)
  | .int n => .ok n
  | _ => .error .wrongKind

/-- The number a value counts as. -/
def floatOf (v : Value) : Except PatternFault Float :=
  match v with
  | .bool b => .ok (if b then 1 else 0)
  | .int n => .ok (Number.floatOfInt n)
  | .float x => .ok x
  | _ => .error .wrongKind

/-- The character that a value is: a text of one character, or the number of one. -/
def charOf (v : Value) : Except PatternFault (List Char) :=
  match v with
  | .text s => if s.length == 1 then .ok s.toList else .error .wrongKind
  | .bool b => .ok [Char.ofNat (if b then 1 else 0)]
  | .int n => if 0 ≤ n ∧ n < 0x110000 then .ok [Char.ofNat n.toNat] else .error .outOfRange
  | _ => .error .wrongKind

/-- A text in which every character outside ASCII is written as an escape. -/
def asciiOnly (s : List Char) : List Char :=
  s.flatMap fun c => if c.toNat < 128 then [c] else Text.Spelled.codeEscape c.toNat

/-- Letters of base sixteen in upper case. -/
def upperCase (s : List Char) : List Char := s.map Char.toUpper

/-- A value as its place wants it written. -/
def convert (place : Place) (letter : Char) (position : Nat) (v : Value) :
    Except PatternFault (List Char) :=
  let precision := place.precision.getD 6
  match letter with
  | 's' => .ok (place.textual v.toText.toList)
  | 'r' => .ok (place.textual v.literal.toList)
  | 'a' => .ok (place.textual (asciiOnly v.literal.toList))
  | 'd' | 'i' | 'u' => (wholeOf v).map (place.inBase 10 [])
  | 'x' => (exactWhole v).map (place.inBase 16 ['0', 'x'])
  | 'X' => (exactWhole v).map fun n => upperCase (place.inBase 16 ['0', 'x'] n)
  | 'o' => (exactWhole v).map (place.inBase 8 ['0', 'o'])
  | 'c' => (charOf v).map place.textual
  | 'f' | 'F' => (floatOf v).map fun x => place.floating x (Number.fixedText precision)
  | 'e' => (floatOf v).map fun x => place.floating x (Number.scientificText precision)
  | 'E' => (floatOf v).map fun x =>
      upperCase (place.floating x (Number.scientificText precision))
  | 'g' => (floatOf v).map fun x => place.floating x (Number.generalText precision)
  | 'G' => (floatOf v).map fun x => upperCase (place.floating x (Number.generalText precision))
  | _ => .error (.unknownLetter letter position)

/-- A value as its place wants it written, unless that is longer than any text can be. The precision
of a whole number leaves room for its sign and for the mark of its base. -/
def convertWithin (place : Place) (letter : Char) (position : Nat) (v : Value) :
    Except PatternFault (List Char) :=
  let wide := Nat.pow 2 32 ≤ place.width
  let precise := place.precision.any (Nat.pow 2 31 - 3 ≤ ·) && ("diuxXo".toList.contains letter)
  if wide || precise then do
    let _ ← convert { place with width := 0, precision := none } letter position v
    throw (if precise then .outOfRange else .tooLong)
  else convert place letter position v

/-- What is left to be filled in: the mapping from which names choose, if there is one, and the
values that have not been used. -/
structure Supply where
  named : Option (List (Value × Value))
  values : List Value

namespace Supply

/-- The supply of a filling. A mapping can itself be used as a value. -/
def ofFilling : Filling → Supply
  | .several values => ⟨none, values⟩
  | .named entries => ⟨some entries, [.map entries]⟩

/-- Takes the next value. -/
def next (supply : Supply) : Except PatternFault (Value × Supply) :=
  match supply.values with
  | v :: rest => .ok (v, { supply with values := rest })
  | [] => .error .tooFewValues

/-- Chooses the value of a name. -/
def choose (supply : Supply) (name : List Char) : Except PatternFault Supply :=
  match supply.named with
  | none => .error .wrongKind
  | some entries =>
    match Value.field? (String.ofList name) entries with
    | some v => .ok { supply with values := [v] }
    | none => .error .missingName

end Supply

/-- The numbers that a place can be given from the outside, and those that it can name itself. -/
structure Bound where
  /-- The least number that no longer fits. -/
  limit : Nat
  /-- What is wrong with a number that is written in the pattern and does not fit. -/
  fault : PatternFault

namespace Bound

/-- Widths fit into 64 bits with their signs. -/
def width : Bound := ⟨Nat.pow 2 63, .widthTooBig⟩

/-- Precisions fit into 32 bits with their signs. -/
def precision : Bound := ⟨Nat.pow 2 31, .precisionTooBig⟩

end Bound

/-- Reads a number of a place: digits, or a star that takes the next value. -/
def placeNumber (bound : Bound) (supply : Supply) (chars : List Char) :
    Except PatternFault (Option Int × Supply × List Char) :=
  match chars with
  | '*' :: rest => do
    let (v, supply) ← supply.next
    let n ← exactWhole v
    if -(bound.limit : Int) ≤ n ∧ n < bound.limit then return (some n, supply, rest)
    else throw .outOfRange
  | _ =>
    let digits := chars.takeWhile Text.isAsciiDigit
    let n := Text.numberOfDigits 10 digits
    if digits.isEmpty then .ok (none, supply, chars)
    else if n < bound.limit then .ok (some (n : Int), supply, chars.drop digits.length)
    else .error bound.fault

/-- Reads the marks of a place. -/
def marks (place : Place) : List Char → Place × List Char
  | [] => (place, [])
  | c :: rest =>
    match place.marked? c with
    | some place => marks place rest
    | none => (place, c :: rest)

/-- The characters up to the parenthesis that closes `depth` open ones and one more, and what
follows it. -/
def nameParts? : (depth : Nat) → List Char → Option (List Char × List Char)
  | _, [] => none
  | 0, ')' :: rest => some ([], rest)
  | depth + 1, ')' :: rest => (nameParts? depth rest).map fun (name, rest) => (')' :: name, rest)
  | depth, '(' :: rest => (nameParts? (depth + 1) rest).map fun (name, rest) => ('(' :: name, rest)
  | depth, c :: rest => (nameParts? depth rest).map fun (name, rest) => (c :: name, rest)

/-- Reads the name that a place chooses, if it chooses one. -/
def chosen (supply : Supply) (chars : List Char) : Except PatternFault (Supply × List Char) :=
  match chars with
  | '(' :: rest =>
    if supply.named.isNone then .error .wrongKind
    else
      match nameParts? 0 rest with
      | some (name, rest) => (supply.choose name).map fun supply => (supply, rest)
      | none => .error .incompleteName
  | _ => .ok (supply, chars)

/-- Reads the precision of a place, if it has one. A point alone stands for zero. -/
def precisionOf (supply : Supply) (chars : List Char) :
    Except PatternFault (Option Nat × Supply × List Char) :=
  match chars with
  | '.' :: rest => do
    let (found, supply, rest) ← placeNumber .precision supply rest
    return (some (found.getD 0).toNat, supply, rest)
  | _ => .ok (none, supply, chars)

/-- Fills the place behind a percent sign. `length` is the length of the whole pattern. -/
def fillPlace (length : Nat) (supply : Supply) (chars : List Char) :
    Except PatternFault (List Char × Supply × List Char) := do
  let (supply, rest) ← chosen supply chars
  let (place, rest) := marks .plain rest
  let (width, supply, rest) ← placeNumber .width supply rest
  let width := width.getD 0
  let (precision, supply, rest) ← precisionOf supply rest
  let place := { place with
    leftAligned := place.leftAligned || width < 0, width := width.natAbs, precision := precision }
  let rest :=
    match rest with
    | c :: more => if c == 'h' || c == 'l' || c == 'L' then more else rest
    | [] => []
  match rest with
  | [] => throw .incomplete
  | '%' :: rest => return (['%'], supply, rest)
  | letter :: rest =>
    let (v, supply) ← supply.next
    let filled ← convertWithin place letter (length - rest.length - 1) v
    return (filled, supply, rest)

/-- Fills the places of a pattern. Every step takes a character at least, so `fuel` steps are enough
for that many characters. -/
def fillFrom (length : Nat) : (fuel : Nat) → Supply → List Char →
    Except PatternFault (List Char × Supply)
  | 0, supply, _ => .ok ([], supply)
  | _ + 1, supply, [] => .ok ([], supply)
  | fuel + 1, supply, '%' :: rest => do
    let (filled, supply, rest) ← fillPlace length supply rest
    let (more, supply) ← fillFrom length fuel supply rest
    return (filled ++ more, supply)
  | fuel + 1, supply, c :: rest => do
    let (more, supply) ← fillFrom length fuel supply rest
    return (c :: more, supply)

/-- Fills a pattern. All of several values have to be used. -/
def fill (pattern : String) (filling : Filling) : Except PatternFault String := do
  let chars := pattern.toList
  let (filled, supply) ←
    fillFrom chars.length (chars.length + 1) (.ofFilling filling) chars
  if supply.named.isNone && !supply.values.isEmpty then throw .tooManyValues
  else return String.ofList filled

/-- The message of a pattern with values. Without values a pattern stands for itself; a single
mapping is one from which places choose by name. -/
def message (pattern : String) (values : List Value) : Except PatternFault String :=
  match values with
  | [] => .ok pattern
  | [.map (e :: rest)] => fill pattern (.named (e :: rest))
  | _ => fill pattern (.several values)

end Wireframe.Log
