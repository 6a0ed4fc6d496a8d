import Mathlib.Data.List.Basic

/-! Byte strings that are valid UTF-8, as the encodings of lists of characters, and the byte
order facts a key encoding with separators rests on: only the character `U+0000` encodes to a
zero byte, and every other character's encoding, whatever follows it, lies below the encoding
of the largest character `U+10FFFF`. -/

namespace Utf8

def encode (chars : List Char) : List UInt8 := chars.flatMap String.utf8EncodeChar

@[simp] theorem encode_nil : encode [] = [] := rfl

@[simp] theorem encode_cons (c : Char) (chars : List Char) :
    encode (c :: chars) = String.utf8EncodeChar c ++ encode chars := List.flatMap_cons

theorem encode_append (chars chars' : List Char) : encode (chars ++ chars') = encode chars ++ encode chars' :=
  List.flatMap_append

theorem utf8Decode?_eq_some_iff {bytes : List UInt8} {chars : Array Char} :
    bytes.toByteArray.utf8Decode? = some chars ↔ bytes = encode chars.toList := by
  constructor
  · intro decoded
    have back := @ByteArray.utf8Encode_get_utf8Decode? bytes.toByteArray (by rw [decoded]; rfl)
    simp only [decoded, Option.get_some] at back
    exact (List.toByteArray_inj.mp back).symm
  · rintro rfl
    exact (List.utf8Decode?_utf8Encode (l := chars.toList)).trans (by simp)

def maxRune : Char := Char.ofNat 0x10FFFF

theorem utf8EncodeChar_maxRune : String.utf8EncodeChar maxRune = [0xF4, 0x8F, 0xBF, 0xBF] := by decide

theorem utf8EncodeChar_ne_zero {c : Char} (nonzero : c.val.toNat ≠ 0) : ∀ b ∈ String.utf8EncodeChar c, b ≠ 0 := by
  simp only [String.utf8EncodeChar]
  generalize c.val.toNat = v at *
  split_ifs <;> simp [← UInt8.toNat_inj] <;> omega

theorem encode_ne_zero {chars : List Char} (nonzero : ∀ c ∈ chars, c.val.toNat ≠ 0) : ∀ b ∈ encode chars, b ≠ 0 := by
  intro b member
  obtain ⟨c, charMember, inChar⟩ := List.mem_flatMap.mp member
  exact utf8EncodeChar_ne_zero (nonzero c charMember) b inChar

theorem utf8EncodeChar_append_lt_maxRune {c : Char} (below : c.val.toNat ≠ 0x10FFFF) (rest : List UInt8) :
    String.utf8EncodeChar c ++ rest < String.utf8EncodeChar maxRune := by
  have valid : c.val.toNat < 0x110000 := by
    have := c.valid
    simp only [UInt32.isValidChar, Nat.isValidChar] at this
    omega
  rw [utf8EncodeChar_maxRune]
  simp only [String.utf8EncodeChar]
  generalize c.val.toNat = v at *
  -- each length of encoding: the bytes as numbers, compared from the first
  split_ifs <;> simp [List.cons_lt_cons_iff, UInt8.lt_iff_toNat_lt, ← UInt8.toNat_inj] <;> omega

theorem toNat_ne_maxRune {c : Char} (other : c ≠ maxRune) : c.val.toNat ≠ 0x10FFFF := by
  intro same
  apply other
  rw [Char.ext_iff]
  apply UInt32.toNat_inj.mp
  rw [same]
  rfl

theorem toNat_ne_zero {c : Char} (other : c ≠ Char.ofNat 0) : c.val.toNat ≠ 0 := by
  intro same
  apply other
  rw [Char.ext_iff]
  apply UInt32.toNat_inj.mp
  rw [same]
  rfl

end Utf8
