import Wireframe.Text.Digit

/-! # UTF-8

Reading a text from its UTF-8 bytes. A byte sequence that is not the encoding of a text
is reported with the position of the first byte that begins no character, the number of
bytes that belong to the broken character, and the way in which it is broken.
-/

namespace Wireframe.Text.Utf8

/-- How a byte sequence fails to be the encoding of a character. -/
inductive Flaw where
  | startByte
  | continuation
  | truncated
deriving DecidableEq, Repr

/-- Where the bytes stop being UTF-8: the bytes from `position` on, `length` of them, are the
beginning of no character. -/
structure Failure where
  position : Nat
  length : Nat
  flaw : Flaw
deriving DecidableEq, Repr

/-- What is wrong with the bytes, in words. -/
def Flaw.message : Flaw → String
  | .startByte => "invalid start byte"
  | .continuation => "invalid continuation byte"
  | .truncated => "unexpected end of data"

/-- The least and the greatest byte that may follow the first byte of a character, and the number
of bytes that follow it in all. -/
def followers? (first : UInt8) : Option (UInt8 × UInt8 × Nat) :=
  if first < 0xC2 then none
  else if first < 0xE0 then some (0x80, 0xBF, 1)
  else if first == 0xE0 then some (0xA0, 0xBF, 2)
  else if first == 0xED then some (0x80, 0x9F, 2)
  else if first < 0xF0 then some (0x80, 0xBF, 2)
  else if first == 0xF0 then some (0x90, 0xBF, 3)
  else if first < 0xF4 then some (0x80, 0xBF, 3)
  else if first == 0xF4 then some (0x80, 0x8F, 3)
  else none

/-- The bits that the first byte of a character contributes. -/
def leadBits (first : UInt8) : Nat :=
  let n := first.toNat
  if n < 0xE0 then n - 0xC0 else if n < 0xF0 then n - 0xE0 else n - 0xF0

/-- A character whose remaining bytes are still to be read. -/
structure Open where
  bits : Nat
  start : Nat
  seen : Nat
  owed : Nat
  low : UInt8
  high : UInt8

/-- Reads bytes from `position` on, with the character in progress if there is one. -/
def decodeFrom (position : Nat) : Option Open → List UInt8 → Except Failure (List Char)
  | none, [] => .ok []
  | some o, [] => .error ⟨o.start, o.seen, .truncated⟩
  | none, b :: rest =>
    if b < 0x80 then (Char.ofNat b.toNat :: ·) <$> decodeFrom (position + 1) none rest
    else
      match followers? b with
      | none => .error ⟨position, 1, .startByte⟩
      | some (low, high, owed) =>
        decodeFrom (position + 1) (some ⟨leadBits b, position, 1, owed, low, high⟩) rest
  | some o, b :: rest =>
    if b < o.low || o.high < b then .error ⟨o.start, o.seen, .continuation⟩
    else
      let bits := o.bits * 64 + (b.toNat - 0x80)
      if o.owed ≤ 1 then (Char.ofNat bits :: ·) <$> decodeFrom (position + 1) none rest
      else
        decodeFrom (position + 1) (some ⟨bits, o.start, o.seen + 1, o.owed - 1, 0x80, 0xBF⟩) rest

/-- The text that a byte sequence encodes. -/
def decode (bytes : List UInt8) : Except Failure (List Char) := decodeFrom 0 none bytes

/-- The UTF-8 bytes of a text. -/
def encode (s : String) : List UInt8 := s.toUTF8.toList

/-- A failure in words: the byte or the range of positions, and the flaw. -/
def Failure.message (failure : Failure) (bytes : List UInt8) : String :=
  let place :=
    if failure.length == 1 then
      "byte 0x" ++ String.ofList (hexText 2 (bytes.getD failure.position 0).toNat) ++
        " in position " ++ Nat.repr failure.position
    else
      "bytes in position " ++ Nat.repr failure.position ++ "-" ++
        Nat.repr (failure.position + failure.length - 1)
  "'utf-8' codec can't decode " ++ place ++ ": " ++ failure.flaw.message

end Wireframe.Text.Utf8
