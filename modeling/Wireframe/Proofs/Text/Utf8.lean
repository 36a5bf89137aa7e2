import Mathlib.Data.List.Basic
import Mathlib.Tactic.SplitIfs
import Wireframe.Text.Utf8

/-! # UTF-8 is read in one way

A text has one encoding: reading bytes as UTF-8 gives a text only if the bytes are that
encoding (`Wireframe.Text.Utf8.eq_of_decode`), and the encoding of every text is read
(`Wireframe.Text.Utf8.decode_encode`). So no two byte sequences encode one text.
-/

namespace Wireframe.Text.Utf8

/-! ## The bytes of a character -/

/-- A byte behind the first one of a character. -/
def IsFollower (b : UInt8) : Prop := 0x80 ≤ b.toNat ∧ b.toNat ≤ 0xBF

/-- Bytes that follow the first one of a character: the first of them lies between two bounds. -/
def Follow (low high : UInt8) : List UInt8 → Prop
  | [] => True
  | b :: rest => (low.toNat ≤ b.toNat ∧ b.toNat ≤ high.toNat) ∧ ∀ c ∈ rest, IsFollower c

/-- The bits of a character after some more bytes of it. -/
def gather (bits : Nat) (bytes : List UInt8) : Nat :=
  bytes.foldl (fun bits b => bits * 64 + (b.toNat - 0x80)) bits

theorem gather_cons (bits : Nat) (b : UInt8) (rest : List UInt8) :
    gather bits (b :: rest) = gather (bits * 64 + (b.toNat - 0x80)) rest := by
  rw [gather, gather, List.foldl_cons]

/-- What a first byte asks of the bytes behind it. Some sequences are left out, which would encode a
character at too great a length or no character at all. -/
theorem followers?_eq_some {first low high : UInt8} {owed : Nat}
    (found : followers? first = some (low, high, owed)) :
    (owed = 1 ∧ 0xC2 ≤ first.toNat ∧ first.toNat < 0xE0 ∧ low.toNat = 0x80 ∧ high.toNat = 0xBF) ∨
    (owed = 2 ∧ 0xE0 ≤ first.toNat ∧ first.toNat < 0xF0 ∧ 0x80 ≤ low.toNat ∧ high.toNat ≤ 0xBF ∧
      (first.toNat = 0xE0 → 0xA0 ≤ low.toNat) ∧ (first.toNat = 0xED → high.toNat ≤ 0x9F)) ∨
    (owed = 3 ∧ 0xF0 ≤ first.toNat ∧ first.toNat < 0xF5 ∧ 0x80 ≤ low.toNat ∧ high.toNat ≤ 0xBF ∧
      (first.toNat = 0xF0 → 0x90 ≤ low.toNat) ∧ (first.toNat = 0xF4 → high.toNat ≤ 0x8F)) := by
  unfold followers? at found
  simp only [UInt8.lt_iff_toNat_lt, beq_iff_eq, ← UInt8.toNat_inj, UInt8.reduceToNat] at found
  split_ifs at found <;> cases found
  · exact .inl ⟨rfl, by omega, by omega, rfl, rfl⟩
  · exact .inr (.inl ⟨rfl, by omega, by omega, by decide, by decide, fun _ => by decide, by omega⟩)
  · exact .inr (.inl ⟨rfl, by omega, by omega, by decide, by decide, by omega, fun _ => by decide⟩)
  · exact .inr (.inl ⟨rfl, by omega, by omega, by decide, by decide, by omega, by omega⟩)
  · exact .inr (.inr ⟨rfl, by omega, by omega, by decide, by decide, fun _ => by decide, by omega⟩)
  · exact .inr (.inr ⟨rfl, by omega, by omega, by decide, by decide, by omega, by omega⟩)
  · exact .inr (.inr ⟨rfl, by omega, by omega, by decide, by decide, by omega, fun _ => by decide⟩)

theorem eq_ofNat {b : UInt8} {n : Nat} (same : n = b.toNat) : UInt8.ofNat n = b := by
  rw [same, UInt8.ofNat_toNat]

/-- The bytes of a character, by its code point. -/
theorem utf8EncodeChar_ofNat {n : Nat} (valid : n.isValidChar) :
    String.utf8EncodeChar (Char.ofNat n) =
      if n ≤ 127 then [UInt8.ofNat n]
      else if n ≤ 2047 then [UInt8.ofNat (n / 64 % 32 + 192), UInt8.ofNat (n % 64 + 128)]
      else if n ≤ 65535 then
        [UInt8.ofNat (n / 4096 % 16 + 224), UInt8.ofNat (n / 64 % 64 + 128),
          UInt8.ofNat (n % 64 + 128)]
      else
        [UInt8.ofNat (n / 262144 % 8 + 240), UInt8.ofNat (n / 4096 % 64 + 128),
          UInt8.ofNat (n / 64 % 64 + 128), UInt8.ofNat (n % 64 + 128)] := by
  have code : (Char.ofNat n).val.toNat = n := by
    rw [Char.ofNat, dif_pos valid]
    rfl
  rw [String.utf8EncodeChar, code]

theorem leadBits_two {first : UInt8} (most : first.toNat < 0xE0) :
    leadBits first = first.toNat - 0xC0 := by
  rw [leadBits, if_pos most]

theorem leadBits_three {first : UInt8} (least : 0xE0 ≤ first.toNat) (most : first.toNat < 0xF0) :
    leadBits first = first.toNat - 0xE0 := by
  rw [leadBits, if_neg (by omega), if_pos most]

theorem leadBits_four {first : UInt8} (least : 0xF0 ≤ first.toNat) :
    leadBits first = first.toNat - 0xF0 := by
  rw [leadBits, if_neg (by omega), if_neg (by omega)]

section

variable {first b c d : UInt8}

theorem utf8EncodeChar_two (lead : 0xC2 ≤ first.toNat ∧ first.toNat < 0xE0)
    (second : IsFollower b) :
    String.utf8EncodeChar (Char.ofNat (gather (leadBits first) [b])) = [first, b] := by
  unfold IsFollower at second
  have bits := leadBits_two lead.2
  have code : gather (leadBits first) [b] = (first.toNat - 0xC0) * 64 + (b.toNat - 0x80) := by
    rw [bits]
    rfl
  rw [code, utf8EncodeChar_ofNat (.inl (by omega)), if_neg (by omega), if_pos (by omega),
    eq_ofNat (show _ = first.toNat by omega), eq_ofNat (show _ = b.toNat by omega)]

/-- A character of three bytes has no shorter encoding, and is no surrogate. -/
theorem utf8EncodeChar_three (lead : 0xE0 ≤ first.toNat ∧ first.toNat < 0xF0)
    (second : IsFollower b) (long : first.toNat = 0xE0 → 0xA0 ≤ b.toNat)
    (scalar : first.toNat = 0xED → b.toNat ≤ 0x9F) (third : IsFollower c) :
    String.utf8EncodeChar (Char.ofNat (gather (leadBits first) [b, c])) = [first, b, c] := by
  unfold IsFollower at second third
  have bits := leadBits_three lead.1 lead.2
  have code : gather (leadBits first) [b, c] =
      ((first.toNat - 0xE0) * 64 + (b.toNat - 0x80)) * 64 + (c.toNat - 0x80) := by
    rw [bits]
    rfl
  have valid : (gather (leadBits first) [b, c]).isValidChar := by
    rw [code, Nat.isValidChar]
    omega
  rw [code] at valid ⊢
  rw [utf8EncodeChar_ofNat valid, if_neg (by omega), if_neg (by omega), if_pos (by omega),
    eq_ofNat (show _ = first.toNat by omega), eq_ofNat (show _ = b.toNat by omega),
    eq_ofNat (show _ = c.toNat by omega)]

/-- A character of four bytes has no shorter encoding, and is none beyond the last one. -/
theorem utf8EncodeChar_four (lead : 0xF0 ≤ first.toNat ∧ first.toNat < 0xF5)
    (second : IsFollower b) (long : first.toNat = 0xF0 → 0x90 ≤ b.toNat)
    (within : first.toNat = 0xF4 → b.toNat ≤ 0x8F) (third : IsFollower c) (last : IsFollower d) :
    String.utf8EncodeChar (Char.ofNat (gather (leadBits first) [b, c, d])) = [first, b, c, d] := by
  unfold IsFollower at second third last
  have bits := leadBits_four lead.1
  have code : gather (leadBits first) [b, c, d] =
      (((first.toNat - 0xF0) * 64 + (b.toNat - 0x80)) * 64 + (c.toNat - 0x80)) * 64 +
        (d.toNat - 0x80) := by
    rw [bits]
    rfl
  have valid : (gather (leadBits first) [b, c, d]).isValidChar := by
    rw [code, Nat.isValidChar]
    omega
  rw [code] at valid ⊢
  rw [utf8EncodeChar_ofNat valid, if_neg (by omega), if_neg (by omega), if_neg (by omega),
    eq_ofNat (show _ = first.toNat by omega), eq_ofNat (show _ = b.toNat by omega),
    eq_ofNat (show _ = c.toNat by omega), eq_ofNat (show _ = d.toNat by omega)]

end

/-- Bytes that belong together are the encoding of the character they stand for. -/
theorem utf8EncodeChar_gather {first low high : UInt8} {owed : Nat} {more : List UInt8}
    (found : followers? first = some (low, high, owed)) (length : more.length = owed)
    (follow : Follow low high more) :
    String.utf8EncodeChar (Char.ofNat (gather (leadBits first) more)) = first :: more := by
  -- The bounds on the second byte keep out encodings that are too long, and surrogates.
  obtain ⟨rfl, least, most, bottom, top⟩ | ⟨rfl, least, most, bottom, top, long, scalar⟩ |
    ⟨rfl, least, most, bottom, top, long, within⟩ := followers?_eq_some found
  · obtain ⟨b, rfl⟩ := List.length_eq_one_iff.mp length
    obtain ⟨⟨above, below⟩, -⟩ := follow
    exact utf8EncodeChar_two ⟨least, most⟩ ⟨by omega, by omega⟩
  · obtain ⟨b, c, rfl⟩ := List.length_eq_two.mp length
    obtain ⟨⟨above, below⟩, others⟩ := follow
    exact utf8EncodeChar_three ⟨least, most⟩ ⟨by omega, by omega⟩
      (fun same => Nat.le_trans (long same) above)
      (fun same => Nat.le_trans below (scalar same))
      (others c List.mem_cons_self)
  · obtain ⟨b, c, d, rfl⟩ := List.length_eq_three.mp length
    obtain ⟨⟨above, below⟩, others⟩ := follow
    exact utf8EncodeChar_four ⟨least, most⟩ ⟨by omega, by omega⟩
      (fun same => Nat.le_trans (long same) above)
      (fun same => Nat.le_trans below (within same))
      (others c List.mem_cons_self) (others d (List.mem_cons_of_mem c List.mem_cons_self))

/-! ## Reading -/

theorem map_cons_eq_ok {result : Except Failure (List Char)} {c : Char} {chars : List Char}
    (read : (c :: ·) <$> result = .ok chars) :
    ∃ others, result = .ok others ∧ chars = c :: others := by
  cases result with
  | error failure => cases read
  | ok others =>
      cases read
      exact ⟨others, rfl, rfl⟩

/-- Between the widest bounds, all bytes are alike. -/
theorem Follow.all {bytes : List UInt8} (follow : Follow 0x80 0xBF bytes) :
    ∀ c ∈ bytes, IsFollower c := by
  cases bytes with
  | nil => nofun
  | cons b rest => exact List.forall_mem_cons.mpr follow

/-- Reading on in a character takes the bytes that it still owes. -/
theorem decodeFrom_open {position : Nat} {o : Open} {bytes : List UInt8} {chars : List Char}
    (owes : 1 ≤ o.owed) (read : decodeFrom position (some o) bytes = .ok chars) :
    ∃ more rest others, bytes = more ++ rest ∧ more.length = o.owed ∧ Follow o.low o.high more ∧
      chars = Char.ofNat (gather o.bits more) :: others ∧
      decodeFrom (position + o.owed) none rest = .ok others := by
  induction bytes generalizing position o chars with
  | nil => cases read
  | cons b bytes ih =>
      rw [decodeFrom] at read
      split_ifs at read with outside last
      · have between : o.low.toNat ≤ b.toNat ∧ b.toNat ≤ o.high.toNat := by
          simpa [UInt8.lt_iff_toNat_lt] using outside
        obtain ⟨others, rest, rfl⟩ := map_cons_eq_ok read
        have one : o.owed = 1 := Nat.le_antisymm last owes
        refine ⟨[b], bytes, others, rfl, one.symm, ⟨between, nofun⟩, rfl, ?_⟩
        rw [one]
        exact rest
      · have between : o.low.toNat ≤ b.toNat ∧ b.toNat ≤ o.high.toNat := by
          simpa [UInt8.lt_iff_toNat_lt] using outside
        obtain ⟨more, rest, others, rfl, length, follow, chars, behind⟩ :=
          ih (by dsimp only; omega) read
        dsimp only at length behind
        have place : position + o.owed = position + 1 + (o.owed - 1) := by omega
        rw [← gather_cons] at chars
        refine ⟨b :: more, rest, others, rfl, ?_, ⟨between, follow.all⟩, chars, ?_⟩
        · rw [List.length_cons, length]
          omega
        · rw [place]
          exact behind

/-- Reading takes bytes only if they are the encoding of the text that is read. -/
theorem eq_of_decodeFrom {position : Nat} {bytes : List UInt8} {chars : List Char}
    (read : decodeFrom position none bytes = .ok chars) :
    bytes = chars.flatMap String.utf8EncodeChar := by
  match bytes with
  | [] =>
      cases read
      rfl
  | b :: rest =>
      rw [decodeFrom] at read
      split_ifs at read with ascii
      · obtain ⟨others, behind, rfl⟩ := map_cons_eq_ok read
        rw [UInt8.lt_iff_toNat_lt] at ascii
        have small : b.toNat ≤ 127 := Nat.le_of_lt_succ ascii
        rw [List.flatMap_cons, utf8EncodeChar_ofNat (.inl (by omega)), if_pos small,
          eq_ofNat rfl, ← eq_of_decodeFrom behind]
        rfl
      · cases found : followers? b with
        | none =>
            rw [found] at read
            cases read
        | some asked =>
            obtain ⟨low, high, owed⟩ := asked
            rw [found] at read
            have owes : 1 ≤ owed := by
              rcases followers?_eq_some found with ⟨rfl, -⟩ | ⟨rfl, -⟩ | ⟨rfl, -⟩ <;> decide
            obtain ⟨more, behind, others, same, length, follow, rfl, last⟩ :=
              decodeFrom_open owes read
            -- What follows the character is shorter, but no tail of the bytes.
            have shorter : behind.length < rest.length + 1 := by
              rw [same, List.length_append]
              omega
            rw [List.flatMap_cons, utf8EncodeChar_gather found length follow,
              ← eq_of_decodeFrom last, same]
            rfl
termination_by bytes.length

/-- **UTF-8 is read in one way.** Bytes are read as a text only if they are its encoding. -/
theorem eq_of_decode {bytes : List UInt8} {chars : List Char} (read : decode bytes = .ok chars) :
    bytes = chars.flatMap String.utf8EncodeChar := eq_of_decodeFrom read

/-! ## What is written is read -/

theorem toList_loop (bytes : ByteArray) (i : Nat) (seen : List UInt8) :
    ByteArray.toList.loop bytes i seen = seen.reverse ++ bytes.data.toList.drop i := by
  rw [ByteArray.toList.loop]
  have size : bytes.size = bytes.data.toList.length := rfl
  split
  · rename_i inside
    have within : i < bytes.data.toList.length := inside
    have byte : bytes.get! i = bytes.data.toList[i] := by
      simp [ByteArray.get!, getElem!_pos bytes.data i inside]
    rw [toList_loop, List.drop_eq_getElem_cons within, byte]
    simp
  · rename_i outside
    rw [List.drop_of_length_le (by omega), List.append_nil]
termination_by bytes.size - i

/-- The bytes of some characters. -/
def bytes (s : List Char) : List UInt8 := s.flatMap String.utf8EncodeChar

theorem bytes_append (s t : List Char) : bytes (s ++ t) = bytes s ++ bytes t := List.flatMap_append

/-- The bytes of a text are those of its characters. -/
theorem encode_eq (s : String) : encode s = bytes s.toList := by
  rw [encode, String.toUTF8, ByteArray.toList, toList_loop, ← String.utf8Encode_toList,
    List.utf8Encode, List.toList_data_toByteArray]
  rfl

theorem toNat_byte {n : Nat} (small : n < 256) : (UInt8.ofNat n).toNat = n := by
  rw [UInt8.toNat_ofNat', Nat.mod_eq_of_lt small]

/-- The bytes of a character beyond ASCII are none of ASCII. -/
theorem le_of_mem_utf8EncodeChar {c : Char} (beyond : ¬ c.toNat ≤ 127) {b : UInt8}
    (member : b ∈ String.utf8EncodeChar c) : 0x80 ≤ b.toNat := by
  have valid : c.toNat.isValidChar := c.valid
  have known := Char.ofNat_toNat c
  generalize c.toNat = n at known valid beyond
  subst known
  rw [utf8EncodeChar_ofNat valid, if_neg beyond] at member
  unfold Nat.isValidChar at valid
  split_ifs at member <;> simp only [List.mem_cons, List.not_mem_nil, or_false] at member
  · obtain rfl | rfl := member <;> rw [toNat_byte (by omega)] <;> omega
  · obtain rfl | rfl | rfl := member <;> rw [toNat_byte (by omega)] <;> omega
  · obtain rfl | rfl | rfl | rfl := member <;> rw [toNat_byte (by omega)] <;> omega

/-- The character in progress is finished by the bytes that it owes. -/
theorem decodeFrom_follow {position : Nat} {o : Open} {more rest : List UInt8}
    (owes : 1 ≤ o.owed) (length : more.length = o.owed) (follow : Follow o.low o.high more) :
    decodeFrom position (some o) (more ++ rest) =
      (Char.ofNat (gather o.bits more) :: ·) <$> decodeFrom (position + o.owed) none rest := by
  induction more generalizing position o with
  | nil =>
      rw [List.length_nil] at length
      omega
  | cons b more ih =>
      obtain ⟨⟨above, below⟩, others⟩ := follow
      have inside : ¬ (b < o.low || o.high < b) = true := by
        simpa [UInt8.lt_iff_toNat_lt] using ⟨above, below⟩
      rw [List.length_cons] at length
      rw [List.cons_append, decodeFrom, if_neg inside]
      dsimp only
      split_ifs with last
      · obtain rfl := List.length_eq_zero_iff.mp (show more.length = 0 by omega)
        have one : o.owed = 1 := by omega
        rw [one]
        rfl
      · have widest : Follow 0x80 0xBF more := by
          cases more with
          | nil => trivial
          | cons c more => exact List.forall_mem_cons.mp others
        rw [ih (by dsimp only; omega) (by dsimp only; omega) widest, gather_cons]
        dsimp only
        have place : position + 1 + (o.owed - 1) = position + o.owed := by omega
        rw [place]

/-- A character of several bytes is read from its first byte and those that follow. -/
theorem decodeFrom_lead {position n : Nat} {first low high : UInt8} {owed : Nat}
    {more rest : List UInt8} (found : followers? first = some (low, high, owed))
    (length : more.length = owed) (follow : Follow low high more)
    (code : gather (leadBits first) more = n) :
    decodeFrom position none (first :: more ++ rest) =
      (Char.ofNat n :: ·) <$> decodeFrom (position + (first :: more).length) none rest := by
  have facts := followers?_eq_some found
  have large : ¬ first < 0x80 := by
    rw [UInt8.lt_iff_toNat_lt]
    change ¬ first.toNat < 0x80
    omega
  have place : position + (first :: more).length = position + 1 + owed := by
    rw [List.length_cons, length]
    omega
  rw [List.cons_append, decodeFrom, if_neg large, found, place, ← code]
  exact decodeFrom_follow (by dsimp only; omega) length follow

theorem followers?_two {first : UInt8} (least : 0xC2 ≤ first.toNat) (most : first.toNat < 0xE0) :
    followers? first = some (0x80, 0xBF, 1) := by
  have small : ¬ first < 0xC2 := by
    rw [UInt8.lt_iff_toNat_lt]
    exact Nat.not_lt.mpr least
  rw [followers?, if_neg small, if_pos (UInt8.lt_iff_toNat_lt.mpr most)]

theorem followers?_three {first : UInt8} (least : 0xE0 ≤ first.toNat) (most : first.toNat < 0xF0) :
    followers? first = some (if first.toNat = 0xE0 then 0xA0 else 0x80,
      if first.toNat = 0xED then 0x9F else 0xBF, 2) := by
  unfold followers?
  simp only [UInt8.lt_iff_toNat_lt, beq_iff_eq, ← UInt8.toNat_inj, UInt8.reduceToNat]
  split_ifs <;> first | rfl | omega

theorem followers?_four {first : UInt8} (least : 0xF0 ≤ first.toNat) (most : first.toNat < 0xF5) :
    followers? first = some (if first.toNat = 0xF0 then 0x90 else 0x80,
      if first.toNat = 0xF4 then 0x8F else 0xBF, 3) := by
  unfold followers?
  simp only [UInt8.lt_iff_toNat_lt, beq_iff_eq, ← UInt8.toNat_inj, UInt8.reduceToNat]
  split_ifs <;> first | rfl | omega

theorem toNat_ite {p : Prop} [Decidable p] (a b : UInt8) :
    (if p then a else b).toNat = if p then a.toNat else b.toNat := apply_ite ..

/-- A character is read back from its bytes. -/
theorem decodeFrom_utf8EncodeChar (position : Nat) (c : Char) (rest : List UInt8) :
    decodeFrom position none (String.utf8EncodeChar c ++ rest) =
      (c :: ·) <$> decodeFrom (position + (String.utf8EncodeChar c).length) none rest := by
  have known := Char.ofNat_toNat c
  have valid : c.toNat.isValidChar := c.valid
  generalize c.toNat = n at known valid
  subst known
  rw [utf8EncodeChar_ofNat valid]
  unfold Nat.isValidChar at valid
  split_ifs with one two three
  · have small : UInt8.ofNat n < 0x80 := by
      rw [UInt8.lt_iff_toNat_lt, toNat_byte (by omega)]
      exact Nat.lt_succ_of_le one
    rw [List.singleton_append, decodeFrom, if_pos small, toNat_byte (by omega)]
    rfl
  · have first := toNat_byte (n := n / 64 % 32 + 192) (by omega)
    have second := toNat_byte (n := n % 64 + 128) (by omega)
    have bits : leadBits (UInt8.ofNat (n / 64 % 32 + 192)) = _ := leadBits_two (by omega)
    refine decodeFrom_lead (followers?_two (by omega) (by omega)) rfl ⟨?_, nofun⟩ ?_
    · change 0x80 ≤ _ ∧ _ ≤ 0xBF
      omega
    · change leadBits _ * 64 + (_ - 0x80) = n
      omega
  · have first := toNat_byte (n := n / 4096 % 16 + 224) (by omega)
    have second := toNat_byte (n := n / 64 % 64 + 128) (by omega)
    have third := toNat_byte (n := n % 64 + 128) (by omega)
    have bits : leadBits (UInt8.ofNat (n / 4096 % 16 + 224)) = _ :=
      leadBits_three (by omega) (by omega)
    refine decodeFrom_lead (followers?_three (by omega) (by omega)) rfl ⟨?_, ?_⟩ ?_
    · rw [toNat_ite, toNat_ite]
      change (if _ then 0xA0 else 0x80) ≤ _ ∧ _ ≤ if _ then 0x9F else 0xBF
      constructor <;> split_ifs <;> omega
    · exact List.forall_mem_singleton.mpr ⟨by omega, by omega⟩
    · change (leadBits _ * 64 + (_ - 0x80)) * 64 + (_ - 0x80) = n
      omega
  · have first := toNat_byte (n := n / 262144 % 8 + 240) (by omega)
    have second := toNat_byte (n := n / 4096 % 64 + 128) (by omega)
    have third := toNat_byte (n := n / 64 % 64 + 128) (by omega)
    have last := toNat_byte (n := n % 64 + 128) (by omega)
    have bits : leadBits (UInt8.ofNat (n / 262144 % 8 + 240)) = _ := leadBits_four (by omega)
    refine decodeFrom_lead (followers?_four (by omega) (by omega)) rfl ⟨?_, ?_⟩ ?_
    · rw [toNat_ite, toNat_ite]
      change (if _ then 0x90 else 0x80) ≤ _ ∧ _ ≤ if _ then 0x8F else 0xBF
      constructor <;> split_ifs <;> omega
    · exact List.forall_mem_cons.mpr
        ⟨⟨by omega, by omega⟩, List.forall_mem_singleton.mpr ⟨by omega, by omega⟩⟩
    · change ((leadBits _ * 64 + (_ - 0x80)) * 64 + (_ - 0x80)) * 64 + (_ - 0x80) = n
      omega

theorem decodeFrom_bytes (position : Nat) (s : List Char) :
    decodeFrom position none (bytes s) = .ok s := by
  induction s generalizing position with
  | nil => rfl
  | cons c s ih =>
      rw [bytes, List.flatMap_cons, ← bytes, decodeFrom_utf8EncodeChar, ih]
      rfl

/-- **UTF-8 is read back.** The encoding of a text is read as that text. -/
theorem decode_encode (s : String) : decode (encode s) = .ok s.toList := by
  rw [encode_eq]
  exact decodeFrom_bytes 0 s.toList

end Wireframe.Text.Utf8
