import Fabric.Ledger.Version

/-! `core/transientstore/store_helper.go`: the keys of the transient store. A private write set
is stored under three keys of one leveldb database, each starting with the byte of its index and
the separator `0x00`:

* `P 0x00 txid 0x00 uuid 0x00 enc(h)` holds the write set,
* `H 0x00 enc(h) 0x00 txid 0x00 uuid` indexes it by the block height it was received at,
* `T 0x00 txid 0x00 uuid 0x00 enc(h)` indexes it by its transaction,

`enc` being the order-preserving encoding of `common/ledger/util`. A scan of the write sets or of
the txid index for one transaction runs from `_ 0x00 txid 0x00` up to `_ 0x00 txid 0xff`, a scan
of the height index from `H 0x00 enc(0) 0x00` up to `H 0x00 enc(h) 0xff`. Go's slicing panics
are errors here. -/

namespace Fabric.Transientstore

open Historydb (encodeOrderPreservingVarUint64 decodeOrderPreservingVarUint64
  decodeOrderPreservingVarUint64_encode_append splitFirst)

attribute [local instance] Stateleveldb.byteOrder

def prwsetPrefix : UInt8 := 0x50

def purgeIndexByHeightPrefix : UInt8 := 0x48

def purgeIndexByTxidPrefix : UInt8 := 0x54

def compositeKeySep : UInt8 := 0x00

def createCompositeKeyWithoutPrefixForTxid (txid uuid : Bytes) (blockHeight : UInt64) : Bytes :=
  txid ++ [compositeKeySep] ++ uuid ++ [compositeKeySep] ++ encodeOrderPreservingVarUint64 blockHeight

def createCompositeKeyForPvtRWSet (txid uuid : Bytes) (blockHeight : UInt64) : Bytes :=
  [prwsetPrefix, compositeKeySep] ++ createCompositeKeyWithoutPrefixForTxid txid uuid blockHeight

def createCompositeKeyForPurgeIndexByTxid (txid uuid : Bytes) (blockHeight : UInt64) : Bytes :=
  [purgeIndexByTxidPrefix, compositeKeySep] ++ createCompositeKeyWithoutPrefixForTxid txid uuid blockHeight

def createCompositeKeyForPurgeIndexByHeight (blockHeight : UInt64) (txid uuid : Bytes) : Bytes :=
  [purgeIndexByHeightPrefix, compositeKeySep] ++ encodeOrderPreservingVarUint64 blockHeight ++
    [compositeKeySep] ++ txid ++ [compositeKeySep] ++ uuid

def sliceFrom (n : Nat) (s : Bytes) : Except String Bytes :=
  if s.length < n then .error "runtime error: slice bounds out of range" else .ok (s.drop n)

/-- `splitCompositeKeyWithoutPrefixForTxid`: the uuid between the first two separators and the
height after them. Without a first or a second separator Go's `compositeKey[first+1:second]`
has its low bound above its high one. -/
def splitCompositeKeyWithoutPrefixForTxid (compositeKey : Bytes) : Except String (Bytes × UInt64) :=
  match splitFirst [compositeKeySep] compositeKey with
  | none => .error "runtime error: slice bounds out of range"
  | some (_, afterTxid) =>
      match splitFirst [compositeKeySep] afterTxid with
      | none => .error "runtime error: slice bounds out of range"
      | some (uuid, heightBytes) => do
          let (blockHeight, _) ← decodeOrderPreservingVarUint64 heightBytes
          pure (uuid, blockHeight)

def splitCompositeKeyOfPvtRWSet (compositeKey : Bytes) : Except String (Bytes × UInt64) := do
  splitCompositeKeyWithoutPrefixForTxid (← sliceFrom 2 compositeKey)

def splitCompositeKeyOfPurgeIndexByTxid (compositeKey : Bytes) : Except String (Bytes × UInt64) := do
  splitCompositeKeyWithoutPrefixForTxid (← sliceFrom 2 compositeKey)

/-- `splitCompositeKeyOfPurgeIndexByHeight`: the height after the index byte and the separator,
then `bytes.Split` of what follows the next separator; `splits[1]` is out of range when no
separator follows the txid. -/
def splitCompositeKeyOfPurgeIndexByHeight (compositeKey : Bytes) : Except String (Bytes × Bytes × UInt64) := do
  let (blockHeight, n) ← decodeOrderPreservingVarUint64 (← sliceFrom 2 compositeKey)
  match (← sliceFrom (n + 3) compositeKey).splitOn compositeKeySep with
  | txid :: uuid :: _ => pure (txid, uuid, blockHeight)
  | _ => .error "runtime error: index out of range [1] with length 1"

def rangeStartKey (index : UInt8) (part : Bytes) : Bytes := [index, compositeKeySep] ++ part ++ [compositeKeySep]

def rangeEndKey (index : UInt8) (part : Bytes) : Bytes := [index, compositeKeySep] ++ part ++ [0xff]

def createTxidRangeStartKey (txid : Bytes) : Bytes := rangeStartKey prwsetPrefix txid

def createTxidRangeEndKey (txid : Bytes) : Bytes := rangeEndKey prwsetPrefix txid

def createPurgeIndexByHeightRangeStartKey (blockHeight : UInt64) : Bytes :=
  rangeStartKey purgeIndexByHeightPrefix (encodeOrderPreservingVarUint64 blockHeight)

def createPurgeIndexByHeightRangeEndKey (blockHeight : UInt64) : Bytes :=
  rangeEndKey purgeIndexByHeightPrefix (encodeOrderPreservingVarUint64 blockHeight)

def createPurgeIndexByTxidRangeStartKey (txid : Bytes) : Bytes := rangeStartKey purgeIndexByTxidPrefix txid

def createPurgeIndexByTxidRangeEndKey (txid : Bytes) : Bytes := rangeEndKey purgeIndexByTxidPrefix txid

section Split

variable {txid uuid : Bytes}

theorem splitFirst_sep {part : Bytes} (free : compositeKeySep ∉ part) (rest : Bytes) :
    splitFirst [compositeKeySep] (part ++ compositeKeySep :: rest) = some (part, rest) := by
  have split := Stateleveldb.splitFirst_sep_append free rest
  rw [List.append_assoc] at split
  exact split

theorem createCompositeKeyWithoutPrefixForTxid_eq (txid uuid : Bytes) (blockHeight : UInt64) :
    createCompositeKeyWithoutPrefixForTxid txid uuid blockHeight =
      txid ++ compositeKeySep :: (uuid ++ compositeKeySep :: encodeOrderPreservingVarUint64 blockHeight) := by
  simp [createCompositeKeyWithoutPrefixForTxid]

theorem createCompositeKeyForPurgeIndexByHeight_eq (blockHeight : UInt64) (txid uuid : Bytes) :
    createCompositeKeyForPurgeIndexByHeight blockHeight txid uuid =
      purgeIndexByHeightPrefix :: compositeKeySep ::
        (encodeOrderPreservingVarUint64 blockHeight ++ compositeKeySep :: (txid ++ compositeKeySep :: uuid)) := by
  simp [createCompositeKeyForPurgeIndexByHeight]

theorem splitCompositeKeyWithoutPrefixForTxid_create (txidFree : compositeKeySep ∉ txid)
    (uuidFree : compositeKeySep ∉ uuid) (blockHeight : UInt64) :
    splitCompositeKeyWithoutPrefixForTxid (createCompositeKeyWithoutPrefixForTxid txid uuid blockHeight) =
      .ok (uuid, blockHeight) := by
  have decoded := decodeOrderPreservingVarUint64_encode_append blockHeight []
  rw [List.append_nil] at decoded
  simp only [createCompositeKeyWithoutPrefixForTxid_eq, splitCompositeKeyWithoutPrefixForTxid, splitFirst_sep txidFree,
    splitFirst_sep uuidFree, decoded, Except.ok_bind]
  rfl

theorem sliceFrom_two_cons_cons (a b : UInt8) (rest : Bytes) : sliceFrom 2 (a :: b :: rest) = .ok rest := by
  simp [sliceFrom]

theorem splitCompositeKeyOfPvtRWSet_create (txidFree : compositeKeySep ∉ txid) (uuidFree : compositeKeySep ∉ uuid)
    (blockHeight : UInt64) :
    splitCompositeKeyOfPvtRWSet (createCompositeKeyForPvtRWSet txid uuid blockHeight) = .ok (uuid, blockHeight) := by
  rw [splitCompositeKeyOfPvtRWSet, createCompositeKeyForPvtRWSet, List.cons_append, List.cons_append,
    List.nil_append, sliceFrom_two_cons_cons, Except.ok_bind, splitCompositeKeyWithoutPrefixForTxid_create txidFree uuidFree]

theorem splitCompositeKeyOfPurgeIndexByTxid_create (txidFree : compositeKeySep ∉ txid)
    (uuidFree : compositeKeySep ∉ uuid) (blockHeight : UInt64) :
    splitCompositeKeyOfPurgeIndexByTxid (createCompositeKeyForPurgeIndexByTxid txid uuid blockHeight) =
      .ok (uuid, blockHeight) := by
  rw [splitCompositeKeyOfPurgeIndexByTxid, createCompositeKeyForPurgeIndexByTxid, List.cons_append,
    List.cons_append, List.nil_append, sliceFrom_two_cons_cons, Except.ok_bind,
    splitCompositeKeyWithoutPrefixForTxid_create txidFree uuidFree]

theorem splitCompositeKeyOfPurgeIndexByHeight_create (txidFree : compositeKeySep ∉ txid)
    (uuidFree : compositeKeySep ∉ uuid) (blockHeight : UInt64) :
    splitCompositeKeyOfPurgeIndexByHeight (createCompositeKeyForPurgeIndexByHeight blockHeight txid uuid) =
      .ok (txid, uuid, blockHeight) := by
  -- the height is read after the index byte and the separator, the txid after one more separator
  have head : sliceFrom 2 (createCompositeKeyForPurgeIndexByHeight blockHeight txid uuid) =
      .ok (encodeOrderPreservingVarUint64 blockHeight ++ compositeKeySep :: (txid ++ compositeKeySep :: uuid)) := by
    rw [createCompositeKeyForPurgeIndexByHeight_eq, sliceFrom_two_cons_cons]
  have tail : sliceFrom ((encodeOrderPreservingVarUint64 blockHeight).length + 3)
      (createCompositeKeyForPurgeIndexByHeight blockHeight txid uuid) = .ok (txid ++ compositeKeySep :: uuid) := by
    have key : createCompositeKeyForPurgeIndexByHeight blockHeight txid uuid =
        ([purgeIndexByHeightPrefix, compositeKeySep] ++ encodeOrderPreservingVarUint64 blockHeight ++
          [compositeKeySep]) ++ (txid ++ compositeKeySep :: uuid) := by
      simp [createCompositeKeyForPurgeIndexByHeight]
    rw [key, sliceFrom, if_neg (by simp), List.drop_left' (by simp)]
  have split : (txid ++ compositeKeySep :: uuid).splitOn compositeKeySep = [txid, uuid] := by
    rw [List.splitOn_append_cons_self_of_not_mem txidFree, List.splitOn_eq_singleton uuidFree]
  simp only [splitCompositeKeyOfPurgeIndexByHeight, head, Except.ok_bind, decodeOrderPreservingVarUint64_encode_append,
    tail, split]
  rfl

end Split

-- Keys of different indexes are ordered by their index bytes, `H` below `P` below `T`. A scan of one
-- index for a txid holds the keys of that txid among keys whose txids have its length, and a scan
-- of the height index from 0 up to `h` holds the keys of the heights up to `h`.

section Order

theorem index_lt_index_iff (a b : UInt8) (rest rest' : Bytes) :
    a :: compositeKeySep :: rest < b :: compositeKeySep :: rest' ↔ a < b ∨ a = b ∧ rest < rest' := by
  rw [List.cons_lt_cons_iff, List.cons_lt_cons_iff]
  simp

theorem not_between_of_ne {a b : UInt8} (other : a ≠ b) (rest start stop : Bytes) :
    ¬(¬a :: compositeKeySep :: rest < b :: compositeKeySep :: start ∧
      a :: compositeKeySep :: rest < b :: compositeKeySep :: stop) := by
  rw [index_lt_index_iff, index_lt_index_iff]
  rintro ⟨above, less | ⟨same, _⟩⟩
  · exact above (.inl less)
  · exact other same

theorem sep_cons_not_lt_sep (rest : Bytes) : ¬compositeKeySep :: rest < [compositeKeySep] := by
  simp

theorem sep_cons_lt_top (rest : Bytes) : compositeKeySep :: rest < [0xff] :=
  List.cons_lt_cons_iff.mpr (.inl (by decide))

theorem rangeStartKey_eq (index : UInt8) (part : Bytes) :
    rangeStartKey index part = index :: compositeKeySep :: (part ++ [compositeKeySep]) := by
  simp [rangeStartKey]

theorem rangeEndKey_eq (index : UInt8) (part : Bytes) :
    rangeEndKey index part = index :: compositeKeySep :: (part ++ [0xff]) := by
  simp [rangeEndKey]

theorem between_range_iff {a b : UInt8} {part part' : Bytes} (same : part.length = part'.length) (rest : Bytes) :
    (¬a :: compositeKeySep :: (part ++ compositeKeySep :: rest) < rangeStartKey b part' ∧
      a :: compositeKeySep :: (part ++ compositeKeySep :: rest) < rangeEndKey b part') ↔ a = b ∧ part = part' := by
  rw [rangeStartKey_eq, rangeEndKey_eq, index_lt_index_iff, index_lt_index_iff, ByteString.append_lt_append_iff_of_length_eq same,
    ByteString.append_lt_append_iff_of_length_eq same]
  simp only [sep_cons_not_lt_sep, sep_cons_lt_top, and_false, or_false, and_true]
  constructor
  · rintro ⟨above, less | ⟨rfl, less | rfl⟩⟩
    · exact absurd (.inl less) above
    · exact absurd (.inr ⟨rfl, less⟩) above
    · exact ⟨rfl, rfl⟩
  · rintro ⟨rfl, rfl⟩
    refine ⟨?_, .inr ⟨rfl, .inr rfl⟩⟩
    rintro (less | ⟨_, less⟩)
    · exact lt_irrefl _ less
    · exact List.lt_irrefl _ less

theorem createCompositeKeyForPvtRWSet_eq (txid uuid : Bytes) (blockHeight : UInt64) :
    createCompositeKeyForPvtRWSet txid uuid blockHeight =
      prwsetPrefix :: compositeKeySep ::
        (txid ++ compositeKeySep :: (uuid ++ compositeKeySep :: encodeOrderPreservingVarUint64 blockHeight)) := by
  simp [createCompositeKeyForPvtRWSet, createCompositeKeyWithoutPrefixForTxid]

theorem createCompositeKeyForPurgeIndexByTxid_eq (txid uuid : Bytes) (blockHeight : UInt64) :
    createCompositeKeyForPurgeIndexByTxid txid uuid blockHeight =
      purgeIndexByTxidPrefix :: compositeKeySep ::
        (txid ++ compositeKeySep :: (uuid ++ compositeKeySep :: encodeOrderPreservingVarUint64 blockHeight)) := by
  simp [createCompositeKeyForPurgeIndexByTxid, createCompositeKeyWithoutPrefixForTxid]

theorem between_height_range_iff (blockHeight bound : UInt64) (txid uuid : Bytes) :
    (¬createCompositeKeyForPurgeIndexByHeight blockHeight txid uuid < createPurgeIndexByHeightRangeStartKey 0 ∧
      createCompositeKeyForPurgeIndexByHeight blockHeight txid uuid < createPurgeIndexByHeightRangeEndKey bound) ↔
      blockHeight ≤ bound := by
  rw [createCompositeKeyForPurgeIndexByHeight_eq, createPurgeIndexByHeightRangeStartKey, rangeStartKey_eq,
    createPurgeIndexByHeightRangeEndKey, rangeEndKey_eq, index_lt_index_iff, index_lt_index_iff,
    Historydb.encode_append_lt_encode_append_iff, Historydb.encode_append_lt_encode_append_iff]
  simp only [lt_irrefl, UInt64.not_lt_zero, sep_cons_not_lt_sep, sep_cons_lt_top, and_false, or_false, and_true,
    true_and, false_or, not_false_eq_true]
  exact UInt64.le_iff_lt_or_eq.symm

theorem le_of_heightKey_lt {blockHeight blockHeight' : UInt64} {txid uuid txid' uuid' : Bytes}
    (less : createCompositeKeyForPurgeIndexByHeight blockHeight txid uuid <
      createCompositeKeyForPurgeIndexByHeight blockHeight' txid' uuid') : blockHeight ≤ blockHeight' := by
  rw [createCompositeKeyForPurgeIndexByHeight_eq, createCompositeKeyForPurgeIndexByHeight_eq, index_lt_index_iff,
    Historydb.encode_append_lt_encode_append_iff] at less
  rcases less with never | ⟨-, lower | ⟨same, -⟩⟩
  · exact absurd never (lt_irrefl _)
  · exact UInt64.le_of_lt lower
  · exact UInt64.le_of_eq same

theorem createCompositeKeyForPvtRWSet_lt_iff {uuid uuid' : Bytes} (uuidFree : compositeKeySep ∉ uuid)
    (uuidFree' : compositeKeySep ∉ uuid') (txid : Bytes) (blockHeight blockHeight' : UInt64) :
    createCompositeKeyForPvtRWSet txid uuid blockHeight < createCompositeKeyForPvtRWSet txid uuid' blockHeight' ↔
      uuid < uuid' ∨ uuid = uuid' ∧ blockHeight < blockHeight' := by
  have above : ∀ {part : Bytes}, compositeKeySep ∉ part → ∀ b ∈ part, compositeKeySep < b := by
    intro part free b member
    have other : b ≠ compositeKeySep := fun same => free (same ▸ member)
    have positive := UInt8.toNat_inj.not.mpr other
    rw [UInt8.lt_iff_toNat_lt]
    simp only [compositeKeySep, UInt8.toNat_ofNat] at positive ⊢
    omega
  rw [createCompositeKeyForPvtRWSet_eq, createCompositeKeyForPvtRWSet_eq, index_lt_index_iff,
    OrderedStore.append_left_lt_iff, List.cons_lt_cons_iff,
    ByteString.append_sep_lt_append_sep_iff (above uuidFree) (above uuidFree'),
    Historydb.encodeOrderPreservingVarUint64_lt_iff]
  simp

end Order

section Injective

variable {txid uuid txid' uuid' : Bytes} {blockHeight blockHeight' : UInt64}

theorem createCompositeKeyWithoutPrefixForTxid_inj (txidFree : compositeKeySep ∉ txid)
    (txidFree' : compositeKeySep ∉ txid') (uuidFree : compositeKeySep ∉ uuid) (uuidFree' : compositeKeySep ∉ uuid')
    (same : createCompositeKeyWithoutPrefixForTxid txid uuid blockHeight =
      createCompositeKeyWithoutPrefixForTxid txid' uuid' blockHeight') :
    txid = txid' ∧ uuid = uuid' ∧ blockHeight = blockHeight' := by
  rw [createCompositeKeyWithoutPrefixForTxid_eq, createCompositeKeyWithoutPrefixForTxid_eq] at same
  -- the first separator ends the txids, the second the uuids
  have first := splitFirst_sep txidFree (uuid ++ compositeKeySep :: encodeOrderPreservingVarUint64 blockHeight)
  rw [same, splitFirst_sep txidFree'] at first
  obtain ⟨rfl, rests⟩ := Prod.mk.inj (Option.some.inj first)
  have second := splitFirst_sep uuidFree (encodeOrderPreservingVarUint64 blockHeight)
  rw [← rests, splitFirst_sep uuidFree'] at second
  obtain ⟨rfl, heights⟩ := Prod.mk.inj (Option.some.inj second)
  exact ⟨rfl, rfl, Historydb.encodeOrderPreservingVarUint64_injective heights.symm⟩

theorem createCompositeKeyForPurgeIndexByHeight_inj (txidFree : compositeKeySep ∉ txid)
    (txidFree' : compositeKeySep ∉ txid') (uuidFree : compositeKeySep ∉ uuid) (uuidFree' : compositeKeySep ∉ uuid')
    (same : createCompositeKeyForPurgeIndexByHeight blockHeight txid uuid =
      createCompositeKeyForPurgeIndexByHeight blockHeight' txid' uuid') :
    txid = txid' ∧ uuid = uuid' ∧ blockHeight = blockHeight' := by
  have split := splitCompositeKeyOfPurgeIndexByHeight_create txidFree uuidFree blockHeight
  rw [same, splitCompositeKeyOfPurgeIndexByHeight_create txidFree' uuidFree'] at split
  simp only [Except.ok.injEq, Prod.mk.injEq] at split
  obtain ⟨rfl, rfl, rfl⟩ := split
  exact ⟨rfl, rfl, rfl⟩

end Injective

end Fabric.Transientstore
