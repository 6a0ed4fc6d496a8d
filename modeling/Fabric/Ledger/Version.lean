import Fabric.Lib.ByteString
import Fabric.Ledger.StateLeveldb

/-! `core/ledger/kvledger/txmgmt/version` and `common/ledger/util`'s order-preserving encoding:
what order the bytes of numbers and heights take in leveldb keys, and how `Height.Compare`
orders heights. The encoding of a number is its count of significant bytes followed by those
bytes, so that byte order is numeric order and no encoding is a prefix of another.
`Height.Compare` takes the sign of Go's `int(a - b)`, a wrapping uint64 difference read as a
signed integer. -/

namespace Fabric.Historydb

open BigEndian ByteString

attribute [local instance] Stateleveldb.byteOrder

theorem width_toNat_le (number : UInt64) : width number.toNat ≤ 8 :=
  width_le_iff.mpr (by simpa using number.toNat_lt)

theorem encodeOrderPreservingVarUint64_eq_width (number : UInt64) :
    encodeOrderPreservingVarUint64 number =
      (width number.toNat).toUInt8 :: encode (width number.toNat) number.toNat := by
  rw [encodeOrderPreservingVarUint64_eq, dropWhile_zero_encode (by simpa using number.toNat_lt), length_encode]

theorem encodeOrderPreservingVarUint64_injective : Function.Injective encodeOrderPreservingVarUint64 := by
  intro a b same
  have decoded := decodeOrderPreservingVarUint64_encode_append a []
  rw [same, decodeOrderPreservingVarUint64_encode_append] at decoded
  injection decoded with pair
  exact (Prod.mk.inj pair).1.symm

theorem width_toUInt8_lt_iff (a b : UInt64) :
    (width a.toNat).toUInt8 < (width b.toNat).toUInt8 ↔ width a.toNat < width b.toNat :=
  toUInt8_lt_toUInt8_iff (by have := width_toNat_le a; omega) (by have := width_toNat_le b; omega)

theorem width_toUInt8_inj (a b : UInt64) :
    (width a.toNat).toUInt8 = (width b.toNat).toUInt8 ↔ width a.toNat = width b.toNat := by
  constructor
  · intro same
    have := congrArg UInt8.toNat same
    rwa [Varint.toNat_toUInt8_of_lt (by have := width_toNat_le a; omega),
      Varint.toNat_toUInt8_of_lt (by have := width_toNat_le b; omega)] at this
  · intro same
    rw [same]

theorem encode_append_lt_encode_append_iff (a b : UInt64) (rest rest' : Bytes) :
    encodeOrderPreservingVarUint64 a ++ rest < encodeOrderPreservingVarUint64 b ++ rest' ↔
      a < b ∨ a = b ∧ rest < rest' := by
  have aFits : a.toNat < 256 ^ width a.toNat := lt_pow_width _
  have bFits : b.toNat < 256 ^ width b.toNat := lt_pow_width _
  rw [encodeOrderPreservingVarUint64_eq_width, encodeOrderPreservingVarUint64_eq_width, List.cons_append,
    List.cons_append, List.cons_lt_cons_iff, width_toUInt8_lt_iff, width_toUInt8_inj, UInt64.lt_iff_toNat_lt,
    ← UInt64.toNat_inj]
  rcases lt_trichotomy (width a.toNat) (width b.toNat) with narrower | same | wider
  · -- fewer significant bytes: the first byte decides
    simp [narrower, lt_of_width_lt narrower]
  · -- as many: the significant bytes decide, then what follows
    rw [← same] at bFits
    rw [← same, append_lt_append_iff_of_length_eq (by rw [length_encode, length_encode]),
      encode_lt_encode_iff aFits bFits]
    have injective : encode (width a.toNat) a.toNat = encode (width a.toNat) b.toNat ↔ a.toNat = b.toNat :=
      ⟨encode_injective aFits bFits, fun equal => by rw [equal]⟩
    simp [injective]
  · have above := lt_of_width_lt wider
    simp [Nat.not_lt.mpr wider.le, ne_of_gt wider, Nat.not_lt.mpr above.le, ne_of_gt above]

theorem encodeOrderPreservingVarUint64_lt_iff (a b : UInt64) :
    encodeOrderPreservingVarUint64 a < encodeOrderPreservingVarUint64 b ↔ a < b := by
  have compared := encode_append_lt_encode_append_iff a b [] []
  simp only [List.append_nil, List.not_lt_nil, and_false, or_false] at compared
  exact compared

theorem bytesCompare_encodeOrderPreservingVarUint64 (a b : UInt64) :
    bytesCompare (encodeOrderPreservingVarUint64 a) (encodeOrderPreservingVarUint64 b) =
      ((a.toNat : Int) - b.toNat).sign := by
  rw [bytesCompare_eq]
  simp only [encodeOrderPreservingVarUint64_lt_iff, encodeOrderPreservingVarUint64_injective.eq_iff,
    UInt64.lt_iff_toNat_lt, ← UInt64.toNat_inj]
  rcases lt_trichotomy a.toNat b.toNat with below | same | above
  · simp [below, Int.sign_eq_neg_one_of_neg (by omega : (a.toNat : Int) - b.toNat < 0)]
  · simp [same]
  · simp [Nat.not_lt.mpr above.le, ne_of_gt above, Int.sign_eq_one_of_pos (by omega : 0 < (a.toNat : Int) - b.toNat)]

end Fabric.Historydb

namespace Fabric.Statedb

open Historydb ByteString

attribute [local instance] Stateleveldb.byteOrder

def newHeight (blockNum txNum : UInt64) : Height := ⟨blockNum.toNat, txNum.toNat⟩

/-- `Height.Compare`: the sign of `int(h.BlockNum - h1.BlockNum)` when the blocks differ, else
of `int(h.TxNum - h1.TxNum)` when the transactions differ, else zero. -/
def Height.compare (h h1 : Height) : Int :=
  let res : Option Int :=
    if h.blockNum ≠ h1.blockNum then some (h.blockNum.toUInt64 - h1.blockNum.toUInt64).toInt64.toInt
    else if h.txNum ≠ h1.txNum then some (h.txNum.toUInt64 - h1.txNum.toUInt64).toInt64.toInt
    else none
  match res with
  | none => 0
  | some res => if res > 0 then 1 else -1

/-- `AreSame`: both heights absent, or both present and `Compare` finds them equal. -/
def areSame (h1 h2 : Option Height) : Bool :=
  match h1, h2 with
  | none, h2 => h2.isNone
  | some _, none => false
  | some h1, some h2 => h1.compare h2 == 0

def Height.Below (h h1 : Height) : Prop :=
  h.blockNum < h1.blockNum ∨ h.blockNum = h1.blockNum ∧ h.txNum < h1.txNum

instance decidableBelow (h h1 : Height) : Decidable (h.Below h1) :=
  inferInstanceAs (Decidable (h.blockNum < h1.blockNum ∨ h.blockNum = h1.blockNum ∧ h.txNum < h1.txNum))

def Height.lexCompare (h h1 : Height) : Int := if h.Below h1 then -1 else if h = h1 then 0 else 1

theorem toInt64_toInt (x : UInt64) :
    x.toInt64.toInt = if x.toNat < 2 ^ 63 then (x.toNat : Int) else x.toNat - 2 ^ 64 := by
  rw [show x.toInt64.toInt = x.toBitVec.toInt from rfl, BitVec.toInt_eq_toNat_cond]
  simp only [UInt64.toNat_toBitVec]
  split_ifs <;> first | rfl | omega

theorem sub_toInt64_pos_iff {a b : UInt64} (different : a ≠ b) :
    0 < (a - b).toInt64.toInt ↔ (b.toNat < a.toNat ∧ a.toNat < b.toNat + 2 ^ 63) ∨ b.toNat > a.toNat + 2 ^ 63 := by
  have sub := UInt64.toNat_sub a b
  have aBelow := a.toNat_lt
  have bBelow := b.toNat_lt
  have apart : a.toNat ≠ b.toNat := fun same => different (UInt64.toNat_inj.mp same)
  rw [toInt64_toInt]
  split_ifs with small <;> omega

theorem newHeight_toUInt64 (blockNum txNum : UInt64) :
    (newHeight blockNum txNum).blockNum.toUInt64 = blockNum ∧ (newHeight blockNum txNum).txNum.toUInt64 = txNum :=
  ⟨UInt64.ofNat_toNat, UInt64.ofNat_toNat⟩

theorem compare_of_blockNum_ne {h h1 : Height} (different : h.blockNum ≠ h1.blockNum) :
    h.compare h1 = if 0 < (h.blockNum.toUInt64 - h1.blockNum.toUInt64).toInt64.toInt then 1 else -1 := by
  simp only [Height.compare, if_pos different, gt_iff_lt]

theorem compare_of_txNum_ne {h h1 : Height} (same : h.blockNum = h1.blockNum) (different : h.txNum ≠ h1.txNum) :
    h.compare h1 = if 0 < (h.txNum.toUInt64 - h1.txNum.toUInt64).toInt64.toInt then 1 else -1 := by
  simp only [Height.compare, same, ne_eq, not_true_eq_false, if_false, if_pos different, gt_iff_lt]

theorem compare_self (h : Height) : h.compare h = 0 := by
  simp [Height.compare]

theorem newHeight_below_iff (blockNum txNum blockNum' txNum' : UInt64) :
    (newHeight blockNum txNum).Below (newHeight blockNum' txNum') ↔
      blockNum.toNat < blockNum'.toNat ∨ blockNum.toNat = blockNum'.toNat ∧ txNum.toNat < txNum'.toNat := Iff.rfl

theorem newHeight_inj {blockNum txNum blockNum' txNum' : UInt64} :
    newHeight blockNum txNum = newHeight blockNum' txNum' ↔ blockNum = blockNum' ∧ txNum = txNum' := by
  simp [newHeight, UInt64.toNat_inj]

/-- Blocks 2^63 or more apart are compared the wrong way round: `Compare` puts the later height
first, while the lexicographic order puts it last. -/
theorem height_compare_misorders_far_blocks (blockNum blockNum' txNum txNum' : UInt64)
    (far : blockNum'.toNat + 2 ^ 63 ≤ blockNum.toNat) :
    (newHeight blockNum txNum).compare (newHeight blockNum' txNum') = -1 ∧
      (newHeight blockNum' txNum').Below (newHeight blockNum txNum) := by
  have apart : blockNum.toNat ≠ blockNum'.toNat := by omega
  have sign := sub_toInt64_pos_iff (fun same : blockNum = blockNum' => apart (congrArg UInt64.toNat same))
  have aBelow := blockNum.toNat_lt
  obtain ⟨blocks, -⟩ := newHeight_toUInt64 blockNum txNum
  obtain ⟨blocks', -⟩ := newHeight_toUInt64 blockNum' txNum'
  refine ⟨?_, (newHeight_below_iff _ _ _ _).mpr (.inl (by omega))⟩
  rw [compare_of_blockNum_ne (fun same => apart same), blocks, blocks', if_neg (by omega)]

theorem height_compare_misorders_far_blocks_at_half :
    (0 : UInt64).toNat + 2 ^ 63 ≤ (9223372036854775808 : UInt64).toNat ∧
      (newHeight 9223372036854775808 0).compare (newHeight 0 0) = -1 ∧
      (newHeight 0 0).Below (newHeight 9223372036854775808 0) :=
  ⟨by decide, height_compare_misorders_far_blocks 9223372036854775808 0 0 0 (by decide)⟩

theorem newHeight_fits (blockNum txNum : UInt64) : (newHeight blockNum txNum).Fits :=
  ⟨blockNum.toNat_lt, txNum.toNat_lt⟩

theorem newHeight_toBytes (blockNum txNum : UInt64) :
    (newHeight blockNum txNum).toBytes = encodeOrderPreservingVarUint64 blockNum ++ encodeOrderPreservingVarUint64 txNum := by
  obtain ⟨blocks, txs⟩ := newHeight_toUInt64 blockNum txNum
  rw [Height.toBytes, blocks, txs]

theorem toBytes_lt_toBytes_iff (blockNum txNum blockNum' txNum' : UInt64) :
    (newHeight blockNum txNum).toBytes < (newHeight blockNum' txNum').toBytes ↔
      (newHeight blockNum txNum).Below (newHeight blockNum' txNum') := by
  rw [newHeight_toBytes, newHeight_toBytes, encode_append_lt_encode_append_iff, encodeOrderPreservingVarUint64_lt_iff,
    newHeight_below_iff, UInt64.lt_iff_toNat_lt, UInt64.lt_iff_toNat_lt, ← UInt64.toNat_inj]

theorem toBytes_inj {blockNum txNum blockNum' txNum' : UInt64} :
    (newHeight blockNum txNum).toBytes = (newHeight blockNum' txNum').toBytes ↔
      newHeight blockNum txNum = newHeight blockNum' txNum' := by
  constructor
  · intro same
    have decoded := newHeightFromBytes_toBytes_append (newHeight_fits blockNum txNum) []
    rw [same, newHeightFromBytes_toBytes_append (newHeight_fits blockNum' txNum')] at decoded
    injection decoded with pair
    exact (Prod.mk.inj pair).1.symm
  · intro same
    rw [same]

theorem bytesCompare_toBytes (blockNum txNum blockNum' txNum' : UInt64) :
    bytesCompare (newHeight blockNum txNum).toBytes (newHeight blockNum' txNum').toBytes =
      (newHeight blockNum txNum).lexCompare (newHeight blockNum' txNum') := by
  rw [bytesCompare_eq]
  simp only [toBytes_lt_toBytes_iff, toBytes_inj]
  rfl

theorem height_bytes_round_trip_in_order :
    (∀ (number : UInt64) (rest : Bytes),
      decodeOrderPreservingVarUint64 (encodeOrderPreservingVarUint64 number ++ rest) =
        .ok (number, (encodeOrderPreservingVarUint64 number).length)) ∧
    (∀ a b : UInt64, bytesCompare (encodeOrderPreservingVarUint64 a) (encodeOrderPreservingVarUint64 b) =
      ((a.toNat : Int) - b.toNat).sign) ∧
    (∀ (blockNum txNum : UInt64) (rest : Bytes),
      newHeightFromBytes ((newHeight blockNum txNum).toBytes ++ rest) =
        .ok (newHeight blockNum txNum, (newHeight blockNum txNum).toBytes.length)) ∧
    (∀ (value : Bytes) (blockNum txNum : UInt64),
      Stateleveldb.decodeValue (Stateleveldb.encodeValue (some value) (newHeight blockNum txNum)) =
        .ok (value, newHeight blockNum txNum)) ∧
    (∀ blockNum txNum blockNum' txNum' : UInt64,
      bytesCompare (newHeight blockNum txNum).toBytes (newHeight blockNum' txNum').toBytes =
        (newHeight blockNum txNum).lexCompare (newHeight blockNum' txNum')) :=
  ⟨decodeOrderPreservingVarUint64_encode_append, bytesCompare_encodeOrderPreservingVarUint64,
    fun blockNum txNum => newHeightFromBytes_toBytes_append (newHeight_fits blockNum txNum),
    fun value blockNum txNum => Stateleveldb.decodeValue_encodeValue (newHeight_fits blockNum txNum) value,
    bytesCompare_toBytes⟩

end Fabric.Statedb
