import Mathlib.Data.List.Basic
import Mathlib.Tactic.NormNum
import Mathlib.Tactic.Ring

/-! Base-128 varints as protocol buffers write them: seven bits a byte, least significant group
first, the high bit set on every byte but the last. `encode` and `decode` follow the Go
functions `proto.EncodeVarint` and `proto.DecodeVarint`. -/

namespace Varint

def encodeFrom : Nat → Nat → List UInt8
  | 0, x => [x.toUInt8]
  | fuel + 1, x =>
      -- buf[n] = 0x80 | uint8(x & 0x7F); x >>= 7
      if x ≤ 127 then [x.toUInt8] else (x % 128 + 128).toUInt8 :: encodeFrom fuel (x / 128)

/-- `EncodeVarint`: a value needs fewer continuation bytes than itself, so `x` is enough fuel. -/
def encode (x : Nat) : List UInt8 := encodeFrom x x

def decodeFrom : Nat → Nat → List UInt8 → Option (Nat × Nat)
  | 0, _, _ => none
  | _ + 1, _, [] => none
  | groups + 1, shift, b :: rest =>
      let digit := b.toNat % 128 * 2 ^ shift % 2 ^ 64
      if b.toNat < 128 then some (digit, 1)
      else (decodeFrom groups (shift + 7) rest).map fun (x, n) => (digit + x, n + 1)

/-- `DecodeVarint`: the value and the number of bytes read, or `(0, 0)` when the bytes end
inside the varint or its value needs more than 64 bits. -/
def decode (buf : List UInt8) : Nat × Nat := (decodeFrom 10 0 buf).getD (0, 0)

theorem encodeFrom_fuel (f g x : Nat) (fHolds : x ≤ f) (gHolds : x ≤ g) :
    encodeFrom f x = encodeFrom g x := by
  induction f generalizing g x with
  | zero =>
      cases g with
      | zero => rfl
      | succ g => simp [encodeFrom, show x = 0 by omega]
  | succ f ih =>
      cases g with
      | zero => simp [encodeFrom, show x = 0 by omega]
      | succ g =>
          simp only [encodeFrom]
          split
          · rfl
          · -- a value above 127 has a quotient below itself, so both fuels still suffice
            rw [ih g (x / 128) (by omega) (by omega)]

theorem encode_eq (x : Nat) :
    encode x = if x ≤ 127 then [x.toUInt8] else (x % 128 + 128).toUInt8 :: encode (x / 128) := by
  unfold encode
  cases x with
  | zero => rfl
  | succ x =>
      simp only [encodeFrom]
      split
      · rfl
      · rw [encodeFrom_fuel x ((x + 1) / 128) ((x + 1) / 128) (by omega) le_rfl]

theorem encode_of_le {x : Nat} (small : x ≤ 127) : encode x = [x.toUInt8] := by
  rw [encode_eq, if_pos small]

theorem encode_of_lt {x : Nat} (large : 127 < x) :
    encode x = (x % 128 + 128).toUInt8 :: encode (x / 128) := by
  rw [encode_eq, if_neg (by omega)]

theorem toNat_toUInt8_of_lt {x : Nat} (xHolds : x < 256) : x.toUInt8.toNat = x := by
  simp [Nat.toUInt8, Nat.mod_eq_of_lt xHolds]

theorem length_encode_pos (x : Nat) : 0 < (encode x).length := by
  rw [encode_eq]
  split <;> simp

theorem length_encode_le {x k : Nat} (kBound : 0 < k) (xHolds : x < 128 ^ k) : (encode x).length ≤ k := by
  induction x using Nat.strong_induction_on generalizing k with
  | _ x ih =>
      by_cases small : x ≤ 127
      · simp [encode_of_le small]
        omega
      · obtain ⟨j, rfl⟩ : ∃ j, k = j + 1 := ⟨k - 1, by omega⟩
        have jBound : 0 < j := by
          rcases Nat.eq_zero_or_pos j with rfl | jBound
          · simp at xHolds
            omega
          · exact jBound
        have quotEq : x / 128 < 128 ^ j := by
          rw [Nat.div_lt_iff_lt_mul (by norm_num), ← pow_succ]
          exact xHolds
        have rest := ih (x / 128) (by omega) jBound quotEq
        simp [encode_of_lt (show 127 < x by omega)]
        omega

theorem decodeFrom_encode_append {x shift groups : Nat} (rest : List UInt8)
    (fits : x * 2 ^ shift < 2 ^ 64) (groupsOk : (encode x).length ≤ groups) :
    decodeFrom groups shift (encode x ++ rest) = some (x * 2 ^ shift, (encode x).length) := by
  induction x using Nat.strong_induction_on generalizing shift groups with
  | _ x ih =>
      obtain ⟨g, rfl⟩ : ∃ g, groups = g + 1 :=
        ⟨groups - 1, by have := length_encode_pos x; omega⟩
      by_cases small : x ≤ 127
      · have byte := toNat_toUInt8_of_lt (show x < 256 by omega)
        simp only [encode_of_le small, List.singleton_append, decodeFrom, byte,
          show x < 128 by omega, if_true, List.length_singleton]
        rw [Nat.mod_eq_of_lt (show x < 128 by omega), Nat.mod_eq_of_lt fits]
      · have byte := toNat_toUInt8_of_lt (show x % 128 + 128 < 256 by omega)
        have low : x % 128 * 2 ^ shift ≤ x * 2 ^ shift :=
          Nat.mul_le_mul_right _ (Nat.mod_le x 128)
        have high : x / 128 * 2 ^ (shift + 7) ≤ x * 2 ^ shift := by
          calc x / 128 * 2 ^ (shift + 7) = x / 128 * 128 * 2 ^ shift := by rw [pow_add]; ring
            _ ≤ x * 2 ^ shift := Nat.mul_le_mul_right _ (Nat.div_mul_le_self x 128)
        have length := (encode_of_lt (show 127 < x by omega)) ▸ groupsOk
        simp only [List.length_cons] at length
        have tail : decodeFrom g (shift + 7) (encode (x / 128) ++ rest) =
            some (x / 128 * 2 ^ (shift + 7), (encode (x / 128)).length) :=
          ih (x / 128) (by omega) (by omega) (by omega)
        have splitAt : x * 2 ^ shift = x % 128 * 2 ^ shift + x / 128 * 2 ^ (shift + 7) := by
          rw [pow_add, show (2 : Nat) ^ 7 = 128 by norm_num]
          calc x * 2 ^ shift = (x % 128 + 128 * (x / 128)) * 2 ^ shift := by rw [Nat.mod_add_div]
            _ = x % 128 * 2 ^ shift + x / 128 * (2 ^ shift * 128) := by ring
        rw [encode_of_lt (show 127 < x by omega)]
        simp only [List.cons_append, decodeFrom, byte, show ¬ x % 128 + 128 < 128 by omega,
          if_false, tail, Option.map_some, List.length_cons]
        rw [Nat.add_mod_right, Nat.mod_mod, Nat.mod_eq_of_lt (by omega), splitAt]

theorem decode_encode_append {x : Nat} (xHolds : x < 2 ^ 64) (rest : List UInt8) :
    decode (encode x ++ rest) = (x, (encode x).length) := by
  have length : (encode x).length ≤ 10 :=
    length_encode_le (by norm_num) (lt_of_lt_of_le xHolds (by norm_num))
  have round : decodeFrom 10 0 (encode x ++ rest) = some (x * 2 ^ 0, (encode x).length) :=
    decodeFrom_encode_append rest (by simpa using xHolds) length
  simp [decode, round]

theorem decodeFrom_torn {x shift groups : Nat} {torn : List UInt8}
    (begins : torn <+: encode x) (short : torn.length < (encode x).length) :
    decodeFrom groups shift torn = none := by
  induction x using Nat.strong_induction_on generalizing shift groups torn with
  | _ x ih =>
      cases groups with
      | zero => rfl
      | succ g =>
          cases torn with
          | nil => rfl
          | cons b tornRest =>
              by_cases small : x ≤ 127
              · simp [encode_of_le small] at short
              · rw [encode_of_lt (show 127 < x by omega)] at begins short
                obtain ⟨bBound, restOk⟩ := List.cons_prefix_cons.mp begins
                subst bBound
                have byte := toNat_toUInt8_of_lt (show x % 128 + 128 < 256 by omega)
                simp only [List.length_cons] at short
                simp only [decodeFrom, byte, show ¬ x % 128 + 128 < 128 by omega, if_false,
                  ih (x / 128) (by omega) restOk (by omega), Option.map_none]

theorem decode_torn {x : Nat} {torn : List UInt8}
    (begins : torn <+: encode x) (short : torn.length < (encode x).length) :
    decode torn = (0, 0) := by
  simp [decode, decodeFrom_torn begins short]

def readFrom : Nat → Nat → List UInt8 → Except String (Nat × Nat)
  | 0, _, _ => .error "proto: integer overflow"
  | _ + 1, _, [] => .error "unexpected EOF"
  | groups + 1, shift, b :: rest =>
      let digit := b.toNat % 128 * 2 ^ shift % 2 ^ 64
      if b.toNat < 128 then .ok (digit, 1)
      else (readFrom groups (shift + 7) rest).map fun (x, n) => (digit + x, n + 1)

theorem readFrom_toOption : ∀ (groups shift : Nat) (buf : List UInt8),
    (readFrom groups shift buf).toOption = decodeFrom groups shift buf
  | 0, _, _ => rfl
  | _ + 1, _, [] => rfl
  | groups + 1, shift, b :: rest => by
    simp only [readFrom, decodeFrom]
    split
    · rfl
    · rw [← readFrom_toOption groups (shift + 7) rest]
      cases readFrom groups (shift + 7) rest <;> rfl

theorem readFrom_encode_append {x : Nat} (xHolds : x < 2 ^ 64) (rest : List UInt8) :
    readFrom 10 0 (encode x ++ rest) = .ok (x, (encode x).length) := by
  have length : (encode x).length ≤ 10 :=
    length_encode_le (by norm_num) (lt_of_lt_of_le xHolds (by norm_num))
  have round : decodeFrom 10 0 (encode x ++ rest) = some (x * 2 ^ 0, (encode x).length) :=
    decodeFrom_encode_append rest (by simpa using xHolds) length
  rw [← readFrom_toOption, pow_zero, mul_one] at round
  cases read : readFrom 10 0 (encode x ++ rest) with
  | error err => simp [read, Except.toOption] at round
  | ok value => simp_all [Except.toOption]

def sizeFrom : Nat → Nat → Nat
  | 0, _ => 1
  | fuel + 1, x => if x / 128 = 0 then 1 else sizeFrom fuel (x / 128) + 1

/-- `SizeVarint`: one byte for every seven bits shifted out before nothing is left. -/
def sizeVarint (x : Nat) : Nat := sizeFrom x x

theorem sizeFrom_eq_length_encodeFrom : ∀ (fuel x : Nat), sizeFrom fuel x = (encodeFrom fuel x).length
  | 0, _ => rfl
  | fuel + 1, x => by
    simp only [sizeFrom, encodeFrom]
    by_cases small : x ≤ 127
    · rw [if_pos (by omega), if_pos small, List.length_singleton]
    · rw [if_neg (by omega), if_neg small, List.length_cons, sizeFrom_eq_length_encodeFrom fuel (x / 128)]

theorem sizeVarint_eq_length_encode (x : Nat) : sizeVarint x = (encode x).length :=
  sizeFrom_eq_length_encodeFrom x x

end Varint
