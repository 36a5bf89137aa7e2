/-! # Base 64

Reading bytes that are written four characters for three bytes. Characters outside the
alphabet are skipped, and the reading stops at the padding that completes a group of
four; a text that ends inside a group is refused.
-/

namespace Wireframe.Text.Base64

/-- Why a text is no run of complete groups: it ends one character into a group, or elsewhere
inside one. -/
inductive Flaw where
  | loneCharacter (count : Nat)
  | padding
deriving DecidableEq, Repr

/-- What is wrong with the text, in words. -/
def Flaw.message : Flaw → String
  | .loneCharacter count =>
    "Invalid base64-encoded string: number of data characters (" ++ Nat.repr count ++
      ") cannot be 1 more than a multiple of 4"
  | .padding => "Incorrect padding"

/-- The six bits that a character of the alphabet stands for. -/
def value? (c : Char) : Option Nat :=
  if 'A' ≤ c && c ≤ 'Z' then some (c.toNat - 65)
  else if 'a' ≤ c && c ≤ 'z' then some (c.toNat - 71)
  else if '0' ≤ c && c ≤ '9' then some (c.toNat + 4)
  else if c == '+' then some 62
  else if c == '/' then some 63
  else none

/-- The state of a reading: the characters seen of the current group, the bits of the last one
that are not written yet, the padding characters just seen, and the bytes so far, last one
first. -/
structure Reading where
  seen : Nat := 0
  left : Nat := 0
  pads : Nat := 0
  bytes : List UInt8 := []

/-- Takes one more character of the alphabet into a reading. -/
def Reading.push (r : Reading) (bits : Nat) : Reading :=
  match r.seen with
  | 0 => { r with seen := 1, left := bits, pads := 0 }
  | 1 =>
    { seen := 2, left := bits % 16, pads := 0,
      bytes := UInt8.ofNat (r.left * 4 + bits / 16) :: r.bytes }
  | 2 =>
    { seen := 3, left := bits % 4, pads := 0,
      bytes := UInt8.ofNat (r.left * 16 + bits / 4) :: r.bytes }
  | _ =>
    { seen := 0, left := 0, pads := 0, bytes := UInt8.ofNat (r.left * 64 + bits) :: r.bytes }

/-- The bytes of a reading that has come to the end of the text. -/
def Reading.finish (r : Reading) : Except Flaw (List UInt8) :=
  match r.seen with
  | 0 => .ok r.bytes.reverse
  | 1 => .error (.loneCharacter (r.bytes.length / 3 * 4 + 1))
  | _ => .error .padding

/-- Reads the rest of a text. -/
def decodeFrom (r : Reading) : List Char → Except Flaw (List UInt8)
  | [] => r.finish
  | c :: rest =>
    if c == '=' then
      if 2 ≤ r.seen then
        if 4 ≤ r.seen + (r.pads + 1) then .ok r.bytes.reverse
        else decodeFrom { r with pads := r.pads + 1 } rest
      else decodeFrom r rest
    else
      match value? c with
      | some bits => decodeFrom (r.push bits) rest
      | none => decodeFrom r rest

/-- The bytes that a text stands for. -/
def decode (s : List Char) : Except Flaw (List UInt8) := decodeFrom {} s

end Wireframe.Text.Base64
