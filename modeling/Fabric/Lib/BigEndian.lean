import Mathlib.Data.Nat.Digits.Lemmas
import Fabric.Lib.Varint
import Fabric.Lib.ByteString

/-! Fixed-width big-endian byte strings of natural numbers, the layout of Go's
`binary.BigEndian`: the encoding, its decoding, their round trip, the fact that comparing
encodings of one width byte by byte compares the numbers, and the width below which a number's
encoding is all leading zeros. -/

namespace BigEndian

def encode : Nat → Nat → List UInt8
  | 0, _ => []
  | width + 1, n => encode width (n / 256) ++ [(n % 256).toUInt8]

def decode (bytes : List UInt8) : Nat := bytes.foldl (fun acc b => acc * 256 + b.toNat) 0

theorem length_encode : ∀ width n : Nat, (encode width n).length = width
  | 0, _ => rfl
  | width + 1, n => by simp [encode, length_encode width (n / 256)]

theorem decode_append_singleton (bytes : List UInt8) (b : UInt8) :
    decode (bytes ++ [b]) = decode bytes * 256 + b.toNat := by
  simp [decode, List.foldl_append]

theorem decode_encode : ∀ width n : Nat, decode (encode width n) = n % 256 ^ width
  | 0, n => by rw [Nat.pow_zero, Nat.mod_one]; rfl
  | width + 1, n => by
      have byte : (n % 256).toUInt8.toNat = n % 256 :=
        Varint.toNat_toUInt8_of_lt (Nat.mod_lt n (by norm_num))
      rw [encode, decode_append_singleton, decode_encode width, byte, pow_succ', Nat.mod_mul]
      ring

theorem decode_dropWhile_zero : ∀ bytes : List UInt8, decode (bytes.dropWhile (· == 0)) = decode bytes
  | [] => rfl
  | b :: bytes => by
      by_cases zeroEq : b = 0
      · subst zeroEq
        rw [List.dropWhile_cons_of_pos (by decide), decode_dropWhile_zero bytes]
        simp [decode]
      · rw [List.dropWhile_cons_of_neg (by simpa using zeroEq)]

theorem encode_injective {width a b : Nat} (aBound : a < 256 ^ width) (bBound : b < 256 ^ width)
    (same : encode width a = encode width b) : a = b := by
  have decoded := congrArg decode same
  rwa [decode_encode, decode_encode, Nat.mod_eq_of_lt aBound, Nat.mod_eq_of_lt bBound] at decoded

theorem toUInt8_lt_toUInt8_iff {a b : Nat} (aBound : a < 256) (bBound : b < 256) : a.toUInt8 < b.toUInt8 ↔ a < b := by
  rw [UInt8.lt_iff_toNat_lt, Varint.toNat_toUInt8_of_lt aBound, Varint.toNat_toUInt8_of_lt bBound]

theorem encode_lt_encode_iff : ∀ {width a b : Nat}, a < 256 ^ width → b < 256 ^ width →
    (encode width a < encode width b ↔ a < b)
  | 0, a, b, aBound, bBound => by
    have zero : a = 0 ∧ b = 0 := by simp at aBound bBound; exact ⟨aBound, bBound⟩
    simp [encode, List.not_lt_nil, zero]
  | width + 1, a, b, aBound, bBound => by
    have high : a / 256 < 256 ^ width ∧ b / 256 < 256 ^ width := by
      rw [pow_succ] at aBound bBound
      exact ⟨Nat.div_lt_of_lt_mul (by omega), Nat.div_lt_of_lt_mul (by omega)⟩
    -- the high bytes decide, and equal high bytes leave it to the last one
    rw [encode, encode, ByteString.append_singleton_lt_iff (by rw [length_encode, length_encode]),
      encode_lt_encode_iff high.1 high.2, toUInt8_lt_toUInt8_iff (Nat.mod_lt _ (by norm_num)) (Nat.mod_lt _ (by norm_num))]
    have injective : encode width (a / 256) = encode width (b / 256) ↔ a / 256 = b / 256 :=
      ⟨encode_injective high.1 high.2, fun same => by rw [same]⟩
    rw [injective]
    omega

theorem encode_zero : ∀ width : Nat, encode width 0 = List.replicate width 0
  | 0 => rfl
  | width + 1 => by
    rw [encode, Nat.zero_div, encode_zero width, List.replicate_succ']
    rfl

theorem encode_add : ∀ (width extra : Nat) {n : Nat}, n < 256 ^ width →
    encode (width + extra) n = List.replicate extra 0 ++ encode width n
  | 0, extra, n, fits => by
    have zero : n = 0 := by simpa using fits
    rw [zero, Nat.zero_add, encode_zero, encode, List.append_nil]
  | width + 1, extra, n, fits => by
    have high : n / 256 < 256 ^ width := by
      rw [pow_succ] at fits
      exact Nat.div_lt_of_lt_mul (by omega)
    rw [show width + 1 + extra = width + extra + 1 by omega, encode, encode_add width extra high, encode,
      List.append_assoc]

theorem head?_encode : ∀ (width : Nat) {n : Nat}, n < 256 ^ (width + 1) →
    (encode (width + 1) n).head? = some (n / 256 ^ width).toUInt8
  | 0, n, fits => by
    have small : n < 256 := by simpa using fits
    simp [encode, Nat.mod_eq_of_lt small]
  | width + 1, n, fits => by
    have high : n / 256 < 256 ^ (width + 1) := by
      rw [pow_succ] at fits
      exact Nat.div_lt_of_lt_mul (by omega)
    rw [encode, List.head?_append_of_ne_nil _ (by rw [← List.length_pos_iff, length_encode]; omega),
      head?_encode width high, Nat.div_div_eq_div_mul, ← pow_succ']

def width (n : Nat) : Nat := (Nat.digits 256 n).length

theorem lt_pow_width (n : Nat) : n < 256 ^ width n := Nat.lt_base_pow_length_digits (by norm_num)

theorem width_le_iff {n k : Nat} : width n ≤ k ↔ n < 256 ^ k := Nat.digits_length_le_iff (by norm_num) n

theorem lt_width_iff {n k : Nat} : k < width n ↔ 256 ^ k ≤ n := Nat.lt_digits_length_iff (by norm_num) n

theorem width_mono {a b : Nat} (le : a ≤ b) : width a ≤ width b := Nat.le_length_digits_le 256 a b le

theorem lt_of_width_lt {a b : Nat} (narrower : width a < width b) : a < b :=
  lt_of_not_ge fun le => absurd (width_mono le) (Nat.not_le.mpr narrower)

theorem dropWhile_zero_replicate (extra : Nat) (bytes : List UInt8) :
    (List.replicate extra 0 ++ bytes).dropWhile (· == 0) = bytes.dropWhile (· == 0) := by
  induction extra with
  | zero => rfl
  | succ extra ih => rw [List.replicate_succ, List.cons_append, List.dropWhile_cons_of_pos (by decide), ih]

theorem dropWhile_zero_encode {fixed n : Nat} (fits : n < 256 ^ fixed) :
    (encode fixed n).dropWhile (· == 0) = encode (width n) n := by
  have narrow : width n ≤ fixed := width_le_iff.mpr fits
  rw [show fixed = width n + (fixed - width n) by omega, encode_add _ _ (lt_pow_width n), dropWhile_zero_replicate]
  -- the first significant byte is not zero
  cases wide : width n with
  | zero => rw [encode, List.dropWhile_nil]
  | succ w =>
    have top : 256 ^ w ≤ n := lt_width_iff.mp (by omega)
    have below : n < 256 ^ (w + 1) := wide ▸ lt_pow_width n
    obtain ⟨first, rest, split⟩ : ∃ first rest, encode (w + 1) n = first :: rest :=
      List.exists_cons_of_ne_nil (by rw [← List.length_pos_iff, length_encode]; omega)
    have head := head?_encode w below
    rw [split, List.head?_cons, Option.some.injEq] at head
    have nonzero : (n / 256 ^ w).toUInt8 ≠ 0 := by
      have quotient : 1 ≤ n / 256 ^ w ∧ n / 256 ^ w < 256 := by
        constructor
        · exact (Nat.le_div_iff_mul_le (by positivity)).mpr (by omega)
        · rw [pow_succ] at below
          exact Nat.div_lt_of_lt_mul below
      intro zero
      have := Varint.toNat_toUInt8_of_lt quotient.2
      rw [zero] at this
      simp at this
      omega
    rw [split, List.dropWhile_cons_of_neg (by rw [head]; simpa using nonzero)]

end BigEndian
