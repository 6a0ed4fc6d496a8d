import Fabric.Lib.KeyValueStore
import Fabric.Ledger.BlockSerialization
import Fabric.Ledger.Version

/-! The block index (fsblkstorage/blockindex.go): leveldb entries that find a block by its hash
or number, a transaction by its id or by its block and position, the block of a transaction
and its validation code. `indexBlock` writes one block's entries and the index's checkpoint in
one batch. A transaction id already in the index, or seen earlier in the block, is a
duplicate: the indexes by id keep the first transaction that carried it (FAB-8557), while the
index by position takes every transaction. -/

namespace Fabric.Fsblkstorage

open Historydb (encodeOrderPreservingVarUint64 encodeOrderPreservingVarUint64_injective
  decodeOrderPreservingVarUint64_encode_append)
open KeyValueStore (writeAll)

inductive IndexableAttr where
  | blockNum
  | blockHash
  | txID
  | blockNumTranNum
  | blockTxID
  | txValidationCode
  deriving DecidableEq, Repr

def blockNumIdxKeyPrefix : UInt8 := 0x6e
def blockHashIdxKeyPrefix : UInt8 := 0x68
def txIDIdxKeyPrefix : UInt8 := 0x74
def blockNumTranNumIdxKeyPrefix : UInt8 := 0x61
def blockTxIDIdxKeyPrefix : UInt8 := 0x62
def txValidationResultIdxKeyPrefix : UInt8 := 0x76

/-- `indexCheckpointKey`, the bytes of "indexCheckpointKey". -/
def indexCheckpointKey : Bytes :=
  [0x69, 0x6e, 0x64, 0x65, 0x78, 0x43, 0x68, 0x65, 0x63, 0x6b, 0x70, 0x6f, 0x69, 0x6e, 0x74, 0x4b, 0x65, 0x79]

def errIndexEmpty : String := "NoBlockIndexed"
def errNotFoundInIndex : String := "Entry not found in index"
def errAttrNotIndexed : String := "Attribute not indexed"

def constructBlockNumKey (blockNum : UInt64) : Bytes :=
  blockNumIdxKeyPrefix :: encodeOrderPreservingVarUint64 blockNum

def constructBlockHashKey (blockHash : Bytes) : Bytes := blockHashIdxKeyPrefix :: blockHash

def constructTxIDKey (txID : Bytes) : Bytes := txIDIdxKeyPrefix :: txID

def constructBlockTxIDKey (txID : Bytes) : Bytes := blockTxIDIdxKeyPrefix :: txID

def constructTxValidationCodeIDKey (txID : Bytes) : Bytes := txValidationResultIdxKeyPrefix :: txID

def constructBlockNumTranNumKey (blockNum txNum : UInt64) : Bytes :=
  blockNumTranNumIdxKeyPrefix :: (encodeOrderPreservingVarUint64 blockNum ++ encodeOrderPreservingVarUint64 txNum)

def encodeBlockNum (blockNum : UInt64) : Bytes := Varint.encode blockNum.toNat

/-- `decodeBlockNum`: `proto.DecodeVarint`, its count of bytes dropped. -/
def decodeBlockNum (blockNumBytes : Bytes) : UInt64 := (Varint.decode blockNumBytes).1.toUInt64

/-- `fileLocPointer`: a block file and a `locPointer` in it. -/
structure FileLocPointer where
  fileSuffixNum : Nat
  locPointer : LocPointer
  deriving DecidableEq, Repr

def newFileLocationPointer (fileSuffixNum beginningOffset : Nat) (relativeLP : LocPointer) : FileLocPointer :=
  ⟨fileSuffixNum, ⟨beginningOffset + relativeLP.offset, relativeLP.bytesLength⟩⟩

def FileLocPointer.marshal (flp : FileLocPointer) : Bytes :=
  Varint.encode flp.fileSuffixNum ++ Varint.encode flp.locPointer.offset ++
    Varint.encode flp.locPointer.bytesLength

/-- `fileLocPointer.unmarshal` into a fresh pointer: the fields read before an error keep their
values and the others stay zero. Every caller drops the error. -/
def FileLocPointer.unmarshal (b : Bytes) : FileLocPointer :=
  match (ProtoBuffer.mk b 0).decodeVarint with
  | .error _ => ⟨0, ⟨0, 0⟩⟩
  | .ok (fileSuffixNum, buffer) =>
    match buffer.decodeVarint with
    | .error _ => ⟨fileSuffixNum, ⟨0, 0⟩⟩
    | .ok (offset, buffer) =>
      match buffer.decodeVarint with
      | .error _ => ⟨fileSuffixNum, ⟨offset, 0⟩⟩
      | .ok (bytesLength, _) => ⟨fileSuffixNum, ⟨offset, bytesLength⟩⟩

structure BlockIdxInfo where
  blockNum : UInt64
  blockHash : Bytes
  flp : FileLocPointer
  txOffsets : List TxindexInfo
  metadata : BlockMetadata
  deriving DecidableEq, Repr

/-- `blockIndex`: the attributes it indexes and its leveldb. An index by transaction id is kept
whenever the indexes that reuse its duplicate marks are (`newBlockIndex` refuses the others). -/
structure BlockIndex where
  indexItemsMap : List IndexableAttr
  db : Bytes → Option Bytes
  dependent : IndexableAttr.txValidationCode ∈ indexItemsMap ∨ IndexableAttr.blockTxID ∈ indexItemsMap →
    IndexableAttr.txID ∈ indexItemsMap

def newBlockIndex (indexItems : List IndexableAttr) (db : Bytes → Option Bytes) : Except String BlockIndex :=
  if dependent : IndexableAttr.txValidationCode ∈ indexItems ∨ IndexableAttr.blockTxID ∈ indexItems →
      IndexableAttr.txID ∈ indexItems then
    .ok ⟨indexItems, db, dependent⟩
  else .error "dependent index [TxID] is not enabled for [TxValidationCode] or [BlockTxID]"

namespace BlockIndex

variable (index : BlockIndex)

def getLastBlockIndexed : Except String UInt64 :=
  match index.db indexCheckpointKey with
  | none => .error errIndexEmpty
  | some blockNumBytes => .ok (decodeBlockNum blockNumBytes)

def getLoc (attr : IndexableAttr) (key : Bytes) : Except String FileLocPointer :=
  if attr ∉ index.indexItemsMap then .error errAttrNotIndexed
  else
    match index.db key with
    | none => .error errNotFoundInIndex
    | some b => .ok (FileLocPointer.unmarshal b)

def getBlockLocByHash (blockHash : Bytes) : Except String FileLocPointer :=
  index.getLoc .blockHash (constructBlockHashKey blockHash)

def getBlockLocByBlockNum (blockNum : UInt64) : Except String FileLocPointer :=
  index.getLoc .blockNum (constructBlockNumKey blockNum)

def getTxLoc (txID : Bytes) : Except String FileLocPointer :=
  index.getLoc .txID (constructTxIDKey txID)

def getBlockLocByTxID (txID : Bytes) : Except String FileLocPointer :=
  index.getLoc .blockTxID (constructBlockTxIDKey txID)

def getTXLocByBlockNumTranNum (blockNum tranNum : UInt64) : Except String FileLocPointer :=
  index.getLoc .blockNumTranNum (constructBlockNumTranNumKey blockNum tranNum)

/-- `getTxValidationCodeByTxID`: the code's number, stored as one byte. -/
def getTxValidationCodeByTxID (txID : Bytes) : Except String UInt8 :=
  if IndexableAttr.txValidationCode ∉ index.indexItemsMap then .error errAttrNotIndexed
  else
    match index.db (constructTxValidationCodeIDKey txID) with
    | none => .error errNotFoundInIndex
    | some [code] => .ok code
    | some _ => .error "Invalid value in indexItems"

def markDuplicateTxid : List Bytes × List TxindexInfo → TxindexInfo → Except String (List Bytes × List TxindexInfo)
  | (uniqueTxids, marked), txIdxInfo =>
    let txid := txIdxInfo.txID
    if txid ∈ uniqueTxids then .ok (uniqueTxids, marked ++ [{ txIdxInfo with isDuplicate := true }])
    else
      match index.getTxLoc txid with
      | .ok _ => .ok (uniqueTxids, marked ++ [{ txIdxInfo with isDuplicate := true }])
      | .error err =>
        if err = errNotFoundInIndex then .ok (uniqueTxids ++ [txid], marked ++ [txIdxInfo]) else .error err

def markDuplicateTxids (txOffsets : List TxindexInfo) : Except String (List TxindexInfo) := do
  let (_, marked) ← txOffsets.foldlM index.markDuplicateTxid ([], [])
  pure marked

end BlockIndex

def flagAt (txsfltr : Bytes) (idx : Nat) : Except String UInt8 :=
  let length := txsfltr.length
  match txsfltr[idx]? with
  | some flag => .ok flag
  | none => .error s!"runtime error: index out of range [{idx}] with length {length}"

def txLocPointer (block : BlockIdxInfo) (tx : TxindexInfo) : FileLocPointer :=
  newFileLocationPointer block.flp.fileSuffixNum block.flp.locPointer.offset tx.loc

def txIDPuts (blockIdxInfo : BlockIdxInfo) (txOffsets : List TxindexInfo) : List (Bytes × Bytes) :=
  (txOffsets.filter fun tx => !tx.isDuplicate).map fun tx =>
    (constructTxIDKey tx.txID, (txLocPointer blockIdxInfo tx).marshal)

def blockNumTranNumPuts (blockIdxInfo : BlockIdxInfo) (txOffsets : List TxindexInfo) : List (Bytes × Bytes) :=
  txOffsets.zipIdx.map fun (tx, txIterator) =>
    (constructBlockNumTranNumKey blockIdxInfo.blockNum txIterator.toUInt64, (txLocPointer blockIdxInfo tx).marshal)

def blockTxIDPuts (flpBytes : Bytes) (txOffsets : List TxindexInfo) : List (Bytes × Bytes) :=
  (txOffsets.filter fun tx => !tx.isDuplicate).map fun tx => (constructBlockTxIDKey tx.txID, flpBytes)

def txValidationCodePuts (txsfltr : Bytes) (txOffsets : List TxindexInfo) : Except String (List (Bytes × Bytes)) :=
  (txOffsets.zipIdx.filter fun (tx, _) => !tx.isDuplicate).mapM fun (tx, idx) => do
    let flag ← flagAt txsfltr idx
    pure (constructTxValidationCodeIDKey tx.txID, [flag])

namespace BlockIndex

variable (index : BlockIndex)

def indexBlock (blockIdxInfo : BlockIdxInfo) : Except String BlockIndex := do
  -- do not index anything
  if index.indexItemsMap = [] then return index
  let flp := blockIdxInfo.flp
  let count := blockIdxInfo.metadata.metadata.length
  let some txsfltr := blockIdxInfo.metadata.metadata[2]?
    | throw s!"runtime error: index out of range [2] with length {count}"
  let flpBytes := flp.marshal
  let txOffsets ← if IndexableAttr.txID ∈ index.indexItemsMap then
    index.markDuplicateTxids blockIdxInfo.txOffsets else pure blockIdxInfo.txOffsets
  let codePuts ← if IndexableAttr.txValidationCode ∈ index.indexItemsMap then
    txValidationCodePuts txsfltr txOffsets else pure []
  let batch :=
    (if IndexableAttr.blockHash ∈ index.indexItemsMap then
      [(constructBlockHashKey blockIdxInfo.blockHash, flpBytes)] else []) ++
    (if IndexableAttr.blockNum ∈ index.indexItemsMap then
      [(constructBlockNumKey blockIdxInfo.blockNum, flpBytes)] else []) ++
    (if IndexableAttr.txID ∈ index.indexItemsMap then txIDPuts blockIdxInfo txOffsets else []) ++
    (if IndexableAttr.blockNumTranNum ∈ index.indexItemsMap then
      blockNumTranNumPuts blockIdxInfo txOffsets else []) ++
    (if IndexableAttr.blockTxID ∈ index.indexItemsMap then blockTxIDPuts flpBytes txOffsets else []) ++
    codePuts ++ [(indexCheckpointKey, encodeBlockNum blockIdxInfo.blockNum)]
  return { index with db := writeAll index.db batch }

def indexBlocks (blocks : List BlockIdxInfo) : Except String BlockIndex :=
  blocks.foldlM indexBlock index

end BlockIndex

theorem FileLocPointer.unmarshal_marshal {flp : FileLocPointer} (fileSuffixNum : flp.fileSuffixNum < 2 ^ 64)
    (offset : flp.locPointer.offset < 2 ^ 64) (bytesLength : flp.locPointer.bytesLength < 2 ^ 64) :
    FileLocPointer.unmarshal flp.marshal = flp := by
  have atFirst : flp.marshal.drop 0 = Varint.encode flp.fileSuffixNum ++
      (Varint.encode flp.locPointer.offset ++ Varint.encode flp.locPointer.bytesLength) := by
    rw [List.drop_zero, FileLocPointer.marshal, List.append_assoc]
  have atSecond : flp.marshal.drop (0 + (Varint.encode flp.fileSuffixNum).length) =
      Varint.encode flp.locPointer.offset ++ Varint.encode flp.locPointer.bytesLength := by
    rw [Nat.zero_add, FileLocPointer.marshal, List.append_assoc, List.drop_left]
  have atThird : flp.marshal.drop (0 + (Varint.encode flp.fileSuffixNum).length +
      (Varint.encode flp.locPointer.offset).length) = Varint.encode flp.locPointer.bytesLength ++ [] := by
    rw [Nat.zero_add, List.append_nil, FileLocPointer.marshal, ← List.length_append, List.drop_left]
  have first := ProtoBuffer.decodeVarint_encode (p := ⟨flp.marshal, 0⟩) fileSuffixNum atFirst
  have second := ProtoBuffer.decodeVarint_encode (p := ⟨flp.marshal, _⟩) offset atSecond
  have third := ProtoBuffer.decodeVarint_encode (p := ⟨flp.marshal, _⟩) bytesLength atThird
  simp only [FileLocPointer.unmarshal, first, second, third]

def markSeen (held : Bytes → Bool) : List Bytes → List TxindexInfo → List TxindexInfo
  | _, [] => []
  | seen, tx :: txs =>
    (if tx.txID ∈ seen ∨ held tx.txID = true then { tx with isDuplicate := true } else tx) ::
      markSeen held (seen ++ [tx.txID]) txs

namespace BlockIndex

variable {index : BlockIndex}

theorem getTxLoc_eq_error (indexed : IndexableAttr.txID ∈ index.indexItemsMap) {txid : Bytes} {err : String}
    (failed : index.getTxLoc txid = .error err) : err = errNotFoundInIndex := by
  simp only [getTxLoc, getLoc, indexed, not_true_eq_false, if_false] at failed
  split at failed
  · exact (Except.error.inj failed).symm
  · cases failed

theorem unique_of_duplicate {uniqueTxids seen : List Bytes} {held : Bytes → Bool} {txid : Bytes}
    (unique : ∀ t, t ∈ uniqueTxids ↔ t ∈ seen ∧ held t = false) (duplicate : txid ∈ seen ∨ held txid = true) :
    ∀ t, t ∈ uniqueTxids ↔ t ∈ seen ++ [txid] ∧ held t = false := by
  intro t
  rw [unique, List.mem_append, List.mem_singleton]
  constructor
  · exact fun ⟨member, free⟩ => ⟨.inl member, free⟩
  · rintro ⟨member | rfl, free⟩
    · exact ⟨member, free⟩
    · rcases duplicate with member | found
      · exact ⟨member, free⟩
      · rw [found] at free
        cases free

theorem foldlM_markDuplicateTxid (indexed : IndexableAttr.txID ∈ index.indexItemsMap) :
    ∀ (txs : List TxindexInfo) (uniqueTxids seen : List Bytes) (marked : List TxindexInfo),
      (∀ txid, txid ∈ uniqueTxids ↔ txid ∈ seen ∧ (index.getTxLoc txid).isOk = false) →
      ∃ uniqueTxids', txs.foldlM index.markDuplicateTxid (uniqueTxids, marked) =
        .ok (uniqueTxids', marked ++ markSeen (fun txid => (index.getTxLoc txid).isOk) seen txs)
  | [], uniqueTxids, _, marked, _ => ⟨uniqueTxids, by simp [markSeen]; rfl⟩
  | tx :: txs, uniqueTxids, seen, marked, unique => by
    -- the id goes into the unique ones exactly when the transaction is no duplicate
    have duplicateStep : (tx.txID ∈ seen ∨ (index.getTxLoc tx.txID).isOk = true) →
        index.markDuplicateTxid (uniqueTxids, marked) tx =
          .ok (uniqueTxids, marked ++ [{ tx with isDuplicate := true }]) →
        ∃ uniqueTxids', (tx :: txs).foldlM index.markDuplicateTxid (uniqueTxids, marked) =
          .ok (uniqueTxids', marked ++ markSeen (fun txid => (index.getTxLoc txid).isOk) seen (tx :: txs)) := by
      intro duplicate step
      obtain ⟨uniqueTxids', rest⟩ := foldlM_markDuplicateTxid indexed txs uniqueTxids (seen ++ [tx.txID])
        (marked ++ [{ tx with isDuplicate := true }]) (unique_of_duplicate unique duplicate)
      refine ⟨uniqueTxids', ?_⟩
      rw [List.foldlM_cons, step, Except.ok_bind, rest, markSeen, if_pos duplicate]
      simp only [List.append_assoc, List.singleton_append]
    by_cases met : tx.txID ∈ uniqueTxids
    · exact duplicateStep (.inl ((unique _).mp met).1) (by simp only [markDuplicateTxid, met, if_true])
    · cases found : index.getTxLoc tx.txID with
      | ok flp =>
        exact duplicateStep (.inr (by rw [found]; rfl)) (by simp only [markDuplicateTxid, met, if_false, found])
      | error err =>
        have missing := getTxLoc_eq_error indexed found
        have step : index.markDuplicateTxid (uniqueTxids, marked) tx =
            .ok (uniqueTxids ++ [tx.txID], marked ++ [tx]) := by
          simp only [markDuplicateTxid, met, if_false, found, missing, if_true]
        have free : (index.getTxLoc tx.txID).isOk = false := by rw [found]; rfl
        have unseen : tx.txID ∉ seen := fun member => met ((unique _).mpr ⟨member, free⟩)
        have unique' : ∀ txid, txid ∈ uniqueTxids ++ [tx.txID] ↔
            txid ∈ seen ++ [tx.txID] ∧ (index.getTxLoc txid).isOk = false := by
          intro txid
          rw [List.mem_append, List.mem_singleton, unique, List.mem_append, List.mem_singleton]
          constructor
          · rintro (⟨member, free'⟩ | rfl)
            · exact ⟨.inl member, free'⟩
            · exact ⟨.inr rfl, free⟩
          · rintro ⟨member | rfl, free'⟩
            · exact .inl ⟨member, free'⟩
            · exact .inr rfl
        obtain ⟨uniqueTxids', rest⟩ := foldlM_markDuplicateTxid indexed txs (uniqueTxids ++ [tx.txID])
          (seen ++ [tx.txID]) (marked ++ [tx]) unique'
        refine ⟨uniqueTxids', ?_⟩
        rw [List.foldlM_cons, step, Except.ok_bind, rest, markSeen, if_neg (by rw [free]; simp [unseen])]
        simp only [List.append_assoc, List.singleton_append]

theorem markDuplicateTxids_eq (indexed : IndexableAttr.txID ∈ index.indexItemsMap) (txs : List TxindexInfo) :
    index.markDuplicateTxids txs = .ok (markSeen (fun txid => (index.getTxLoc txid).isOk) [] txs) := by
  obtain ⟨uniqueTxids', marked⟩ := foldlM_markDuplicateTxid indexed txs [] [] [] (by simp)
  simp only [markDuplicateTxids, marked, Except.ok_bind, List.nil_append]
  rfl

end BlockIndex

section Marks

variable (held : Bytes → Bool)

theorem markSeen_map_loc : ∀ (seen : List Bytes) (txs : List TxindexInfo),
    (markSeen held seen txs).map TxindexInfo.loc = txs.map TxindexInfo.loc
  | _, [] => rfl
  | seen, tx :: txs => by
    rw [markSeen, List.map_cons, markSeen_map_loc, List.map_cons]
    split <;> rfl

theorem markSeen_filter_zipIdx (txid : Bytes) :
    ∀ (txs : List TxindexInfo) (seen : List Bytes) (k : Nat), (∀ tx ∈ txs, tx.isDuplicate = false) →
      ((markSeen held seen txs).zipIdx k).filter (fun p => !p.1.isDuplicate && p.1.txID == txid) =
        if txid ∈ seen ∨ held txid = true then [] else ((txs.zipIdx k).find? fun p => p.1.txID == txid).toList
  | [], seen, k, _ => by
    simp only [markSeen, List.zipIdx_nil, List.filter_nil, List.find?_nil]
    split <;> rfl
  | tx :: txs, seen, k, fresh => by
    have later := markSeen_filter_zipIdx txid txs (seen ++ [tx.txID]) (k + 1)
      (fun other member => fresh other (List.mem_cons_of_mem tx member))
    have unmarked := fresh tx List.mem_cons_self
    rw [markSeen, List.zipIdx_cons, List.zipIdx_cons, List.filter_cons, List.find?_cons, later]
    by_cases same : tx.txID = txid
    · -- the first transaction with the id decides
      subst same
      by_cases dup : tx.txID ∈ seen ∨ held tx.txID = true
      · simp [dup]
      · simp [dup, unmarked]
    · -- another id: the transaction is passed over and its id met
      have differ : (tx.txID == txid) = false := beq_false_of_ne same
      have apart : txid ≠ tx.txID := Ne.symm same
      split <;> simp [differ, apart]

end Marks

theorem map_filter_nondup {β : Type} (marked : List TxindexInfo) (f : TxindexInfo → β) :
    (marked.filter fun tx => !tx.isDuplicate).map f =
      ((marked.zipIdx 0).filter fun p => !p.1.isDuplicate).map fun p => f p.1 := by
  conv_lhs => rw [← List.zipIdx_map_fst 0 marked]
  rw [List.filter_map, List.map_map]
  rfl

theorem filter_nondup_map (construct : Bytes → Bytes) (inj : ∀ a b, construct a = construct b ↔ a = b)
    (value : TxindexInfo × Nat → Bytes) (marked : List TxindexInfo) (txid : Bytes) :
    (((marked.zipIdx 0).filter fun p => !p.1.isDuplicate).map fun p => (construct p.1.txID, value p)).filter
        (fun put => put.1 == construct txid) =
      ((marked.zipIdx 0).filter fun p => !p.1.isDuplicate && p.1.txID == txid).map fun p =>
        (construct txid, value p) := by
  have key : ∀ p : TxindexInfo × Nat, (construct p.1.txID == construct txid) = (p.1.txID == txid) := by
    intro p
    simp [inj]
  have keep : ∀ p ∈ marked.zipIdx 0, ((construct p.1.txID == construct txid) && !p.1.isDuplicate) =
      (!p.1.isDuplicate && p.1.txID == txid) := by
    intro p _
    rw [key, Bool.and_comm]
  rw [List.filter_map, List.filter_filter]
  simp only [Function.comp_apply]
  rw [List.filter_congr keep]
  apply List.map_congr_left
  intro p member
  have same : p.1.txID = txid := by simpa using ((List.mem_filter.mp member).2 |> Bool.and_eq_true_iff.mp).2
  rw [same]

theorem txValidationCodePuts_eq {txsfltr : Bytes} {marked : List TxindexInfo} (covers : marked.length ≤ txsfltr.length) :
    txValidationCodePuts txsfltr marked =
      .ok (((marked.zipIdx 0).filter fun p => !p.1.isDuplicate).map fun p =>
        (constructTxValidationCodeIDKey p.1.txID, [txsfltr.getD p.2 0])) := by
  apply Except.mapM_eq_ok_map
  intro p member
  have bound := (List.mem_zipIdx (List.mem_of_mem_filter member)).2.1
  have flag : flagAt txsfltr p.2 = .ok (txsfltr.getD p.2 0) := by
    rw [flagAt, List.getElem?_eq_getElem (by omega)]
    simp [List.getD_eq_getElem?_getD, List.getElem?_eq_getElem (show p.2 < txsfltr.length by omega)]
  simp only [flag, Except.ok_bind]
  rfl

theorem constructBlockNumTranNumKey_inj {blockNum txNum blockNum' txNum' : UInt64}
    (same : constructBlockNumTranNumKey blockNum txNum = constructBlockNumTranNumKey blockNum' txNum') :
    blockNum = blockNum' ∧ txNum = txNum' := by
  have encodings := (List.cons.inj same).2
  have decoded := decodeOrderPreservingVarUint64_encode_append blockNum (encodeOrderPreservingVarUint64 txNum)
  rw [encodings, decodeOrderPreservingVarUint64_encode_append] at decoded
  obtain ⟨numbers, lengths⟩ := Prod.mk.inj (Except.ok.inj decoded)
  subst numbers
  exact ⟨rfl, encodeOrderPreservingVarUint64_injective (List.append_cancel_left encodings)⟩

theorem blockNumTranNumPuts_eq (block : BlockIdxInfo) (marked : List TxindexInfo) :
    blockNumTranNumPuts block marked = (marked.zipIdx 0).map fun p =>
      (constructBlockNumTranNumKey block.blockNum p.2.toUInt64, (txLocPointer block p.1).marshal) := rfl

theorem toUInt64_eq_iff {k : Nat} (fits : k < 2 ^ 64) (t : UInt64) : k.toUInt64 = t ↔ k = t.toNat := by
  have back : k.toUInt64.toNat = k := by
    simp only [Nat.toUInt64_eq, UInt64.toNat_ofNat']
    omega
  rw [← UInt64.toNat_inj, back]

theorem filter_zipIdx_toUInt64 {α : Type} (t : UInt64) :
    ∀ (l : List α) (k : Nat), k + l.length ≤ 2 ^ 64 →
      (l.zipIdx k).filter (fun p => p.2.toUInt64 == t) =
        if k ≤ t.toNat then (l[t.toNat - k]?.map fun a => (a, t.toNat)).toList else []
  | [], k, _ => by
    simp only [List.zipIdx_nil, List.filter_nil, List.getElem?_nil, Option.map_none, Option.toList_none]
    split <;> rfl
  | a :: l, k, small => by
    have fits : k < 2 ^ 64 := by simp at small; omega
    have later := filter_zipIdx_toUInt64 t l (k + 1) (by simp at small; omega)
    rw [List.zipIdx_cons, List.filter_cons, later]
    by_cases here : k = t.toNat
    · have hit : (k.toUInt64 == t) = true := beq_iff_eq.mpr ((toUInt64_eq_iff fits t).mpr here)
      rw [if_pos hit, if_neg (by omega), if_pos (by omega), here, Nat.sub_self]
      rfl
    · have miss : (k.toUInt64 == t) = false := beq_false_of_ne fun same => here ((toUInt64_eq_iff fits t).mp same)
      rw [if_neg (by simp only [miss]; decide)]
      -- past the position the rest decides; before it, nothing is kept
      by_cases below : k < t.toNat
      · rw [if_pos (by omega), if_pos (by omega), show t.toNat - k = t.toNat - (k + 1) + 1 by omega,
          List.getElem?_cons_succ]
      · rw [if_neg (by omega), if_neg (by omega)]

def KeysStartWith (b : UInt8) (puts : List (Bytes × Bytes)) : Prop := ∀ put ∈ puts, put.1.head? = some b

theorem KeysStartWith.ite {b : UInt8} {puts : List (Bytes × Bytes)} (start : KeysStartWith b puts)
    (c : Prop) [Decidable c] : KeysStartWith b (if c then puts else []) := by
  split
  · exact start
  · exact fun _ member => absurd member List.not_mem_nil

theorem KeysStartWith.filter_eq_nil {b : UInt8} {puts : List (Bytes × Bytes)} (start : KeysStartWith b puts)
    {key : Bytes} (other : key.head? ≠ some b) : puts.filter (fun put => put.1 == key) = [] := by
  rw [List.filter_eq_nil_iff]
  intro put member same
  exact other (beq_iff_eq.mp same ▸ start put member)

theorem keysStartWith_txIDPuts (block : BlockIdxInfo) (marked : List TxindexInfo) :
    KeysStartWith txIDIdxKeyPrefix (txIDPuts block marked) := by
  intro put member
  obtain ⟨tx, -, rfl⟩ := List.mem_map.mp member
  rfl

theorem keysStartWith_blockNumTranNumPuts (block : BlockIdxInfo) (marked : List TxindexInfo) :
    KeysStartWith blockNumTranNumIdxKeyPrefix (blockNumTranNumPuts block marked) := by
  intro put member
  obtain ⟨p, -, rfl⟩ := List.mem_map.mp member
  rfl

theorem keysStartWith_blockTxIDPuts (flpBytes : Bytes) (marked : List TxindexInfo) :
    KeysStartWith blockTxIDIdxKeyPrefix (blockTxIDPuts flpBytes marked) := by
  intro put member
  obtain ⟨tx, -, rfl⟩ := List.mem_map.mp member
  rfl

theorem keysStartWith_codes (txsfltr : Bytes) (marked : List TxindexInfo) :
    KeysStartWith txValidationResultIdxKeyPrefix (((marked.zipIdx 0).filter fun p => !p.1.isDuplicate).map fun p =>
      (constructTxValidationCodeIDKey p.1.txID, [txsfltr.getD p.2 0])) := by
  intro put member
  obtain ⟨p, -, rfl⟩ := List.mem_map.mp member
  rfl

theorem keysStartWith_singleton (b : UInt8) (rest value : Bytes) : KeysStartWith b [(b :: rest, value)] := by
  intro put member
  rw [List.mem_singleton.mp member]
  rfl

theorem filter_blockHashPut (c : Prop) [Decidable c] (blockHash value : Bytes) {key : Bytes}
    (other : key.head? ≠ some blockHashIdxKeyPrefix) :
    (if c then [(constructBlockHashKey blockHash, value)] else []).filter (fun put => put.1 == key) = [] :=
  ((keysStartWith_singleton _ _ _).ite c).filter_eq_nil other

theorem filter_blockNumPut (c : Prop) [Decidable c] (blockNum : UInt64) (value : Bytes) {key : Bytes}
    (other : key.head? ≠ some blockNumIdxKeyPrefix) :
    (if c then [(constructBlockNumKey blockNum, value)] else []).filter (fun put => put.1 == key) = [] :=
  ((keysStartWith_singleton _ _ _).ite c).filter_eq_nil other

theorem filter_txIDPuts (c : Prop) [Decidable c] (block : BlockIdxInfo) (marked : List TxindexInfo) {key : Bytes}
    (other : key.head? ≠ some txIDIdxKeyPrefix) :
    (if c then txIDPuts block marked else []).filter (fun put => put.1 == key) = [] :=
  ((keysStartWith_txIDPuts block marked).ite c).filter_eq_nil other

theorem filter_blockNumTranNumPuts (c : Prop) [Decidable c] (block : BlockIdxInfo) (marked : List TxindexInfo)
    {key : Bytes} (other : key.head? ≠ some blockNumTranNumIdxKeyPrefix) :
    (if c then blockNumTranNumPuts block marked else []).filter (fun put => put.1 == key) = [] :=
  ((keysStartWith_blockNumTranNumPuts block marked).ite c).filter_eq_nil other

theorem filter_blockTxIDPuts (c : Prop) [Decidable c] (flpBytes : Bytes) (marked : List TxindexInfo) {key : Bytes}
    (other : key.head? ≠ some blockTxIDIdxKeyPrefix) :
    (if c then blockTxIDPuts flpBytes marked else []).filter (fun put => put.1 == key) = [] :=
  ((keysStartWith_blockTxIDPuts flpBytes marked).ite c).filter_eq_nil other

theorem filter_codes (c : Prop) [Decidable c] (txsfltr : Bytes) (marked : List TxindexInfo) {key : Bytes}
    (other : key.head? ≠ some txValidationResultIdxKeyPrefix) :
    (if c then ((marked.zipIdx 0).filter fun p => !p.1.isDuplicate).map fun p =>
        (constructTxValidationCodeIDKey p.1.txID, [txsfltr.getD p.2 0]) else []).filter
      (fun put => put.1 == key) = [] :=
  ((keysStartWith_codes txsfltr marked).ite c).filter_eq_nil other

theorem filter_checkpoint (value : Bytes) {key : Bytes} (other : key.head? ≠ some 0x69) :
    [(indexCheckpointKey, value)].filter (fun put => put.1 == key) = [] :=
  (keysStartWith_singleton 0x69 _ value).filter_eq_nil other

theorem head?_constructBlockHashKey (blockHash : Bytes) :
    (constructBlockHashKey blockHash).head? = some blockHashIdxKeyPrefix := rfl

theorem head?_constructBlockNumKey (blockNum : UInt64) :
    (constructBlockNumKey blockNum).head? = some blockNumIdxKeyPrefix := rfl

theorem head?_constructTxIDKey (txID : Bytes) : (constructTxIDKey txID).head? = some txIDIdxKeyPrefix := rfl

theorem head?_constructBlockNumTranNumKey (blockNum txNum : UInt64) :
    (constructBlockNumTranNumKey blockNum txNum).head? = some blockNumTranNumIdxKeyPrefix := rfl

theorem head?_constructBlockTxIDKey (txID : Bytes) :
    (constructBlockTxIDKey txID).head? = some blockTxIDIdxKeyPrefix := rfl

theorem head?_constructTxValidationCodeIDKey (txID : Bytes) :
    (constructTxValidationCodeIDKey txID).head? = some txValidationResultIdxKeyPrefix := rfl

theorem head?_indexCheckpointKey : indexCheckpointKey.head? = some 0x69 := rfl

def indexedTxs (blocks : List BlockIdxInfo) : List (BlockIdxInfo × TxindexInfo × Nat) :=
  blocks.flatMap fun block => (block.txOffsets.zipIdx 0).map fun p => (block, p.1, p.2)

def firstTx (blocks : List BlockIdxInfo) (txid : Bytes) : Option (BlockIdxInfo × TxindexInfo × Nat) :=
  (indexedTxs blocks).find? fun entry => entry.2.1.txID == txid

def BlockIdxInfo.flag (block : BlockIdxInfo) (i : Nat) : UInt8 :=
  (block.metadata.metadata[2]?.getD []).getD i 0

theorem firstTx_append_singleton (blocks : List BlockIdxInfo) (block : BlockIdxInfo) (txid : Bytes) :
    firstTx (blocks ++ [block]) txid =
      (firstTx blocks txid).or (((block.txOffsets.zipIdx 0).find? fun p => p.1.txID == txid).map fun p =>
        (block, p.1, p.2)) := by
  rw [firstTx, indexedTxs, List.flatMap_append, List.find?_append, ← indexedTxs, ← firstTx,
    List.flatMap_singleton, List.find?_map]
  rfl

structure FileLocPointer.Fits (flp : FileLocPointer) : Prop where
  fileSuffixNum : flp.fileSuffixNum < 2 ^ 64
  offset : flp.locPointer.offset < 2 ^ 64
  bytesLength : flp.locPointer.bytesLength < 2 ^ 64

structure BlockIdxInfo.Valid (block : BlockIdxInfo) : Prop where
  fresh : ∀ tx ∈ block.txOffsets, tx.isDuplicate = false
  filter : ∃ txsfltr, block.metadata.metadata[2]? = some txsfltr ∧ block.txOffsets.length ≤ txsfltr.length
  positions : block.txOffsets.length ≤ 2 ^ 64
  blockLoc : block.flp.Fits
  txLocs : ∀ tx ∈ block.txOffsets, (txLocPointer block tx).Fits

structure Indexed (index : BlockIndex) (blocks : List BlockIdxInfo) : Prop where
  blockHash : ∀ blockHash, index.db (constructBlockHashKey blockHash) =
    if IndexableAttr.blockHash ∈ index.indexItemsMap then
      (blocks.reverse.find? fun block => block.blockHash == blockHash).map fun block => block.flp.marshal
    else none
  blockNum : ∀ blockNum, index.db (constructBlockNumKey blockNum) =
    if IndexableAttr.blockNum ∈ index.indexItemsMap then
      (blocks.reverse.find? fun block => block.blockNum == blockNum).map fun block => block.flp.marshal
    else none
  txID : ∀ txid, index.db (constructTxIDKey txid) =
    if IndexableAttr.txID ∈ index.indexItemsMap then
      (firstTx blocks txid).map fun entry => (txLocPointer entry.1 entry.2.1).marshal
    else none
  blockNumTranNum : ∀ blockNum tranNum, index.db (constructBlockNumTranNumKey blockNum tranNum) =
    if IndexableAttr.blockNumTranNum ∈ index.indexItemsMap then
      (blocks.find? fun block => block.blockNum == blockNum).bind fun block =>
        block.txOffsets[tranNum.toNat]?.map fun tx => (txLocPointer block tx).marshal
    else none
  blockTxID : ∀ txid, index.db (constructBlockTxIDKey txid) =
    if IndexableAttr.blockTxID ∈ index.indexItemsMap then
      (firstTx blocks txid).map fun entry => entry.1.flp.marshal
    else none
  txValidationCode : ∀ txid, index.db (constructTxValidationCodeIDKey txid) =
    if IndexableAttr.txValidationCode ∈ index.indexItemsMap then
      (firstTx blocks txid).map fun entry => [entry.1.flag entry.2.2]
    else none
  checkpoint : index.db indexCheckpointKey =
    if index.indexItemsMap = [] then none else blocks.getLast?.map fun block => encodeBlockNum block.blockNum

theorem indexed_empty (indexItems : List IndexableAttr) (dependent) :
    Indexed ⟨indexItems, fun _ => none, dependent⟩ [] where
  blockHash _ := by split <;> rfl
  blockNum _ := by split <;> rfl
  txID _ := by split <;> rfl
  blockNumTranNum _ _ := by split <;> rfl
  blockTxID _ := by split <;> rfl
  txValidationCode _ := by split <;> rfl
  checkpoint := by split <;> rfl

namespace BlockIndex

def marksOf (index : BlockIndex) (block : BlockIdxInfo) : List TxindexInfo :=
  if IndexableAttr.txID ∈ index.indexItemsMap then
    markSeen (fun txid => (index.getTxLoc txid).isOk) [] block.txOffsets
  else block.txOffsets

def batchOf (index : BlockIndex) (block : BlockIdxInfo) (txsfltr : Bytes) : List (Bytes × Bytes) :=
  (if IndexableAttr.blockHash ∈ index.indexItemsMap then
    [(constructBlockHashKey block.blockHash, block.flp.marshal)] else []) ++
  (if IndexableAttr.blockNum ∈ index.indexItemsMap then
    [(constructBlockNumKey block.blockNum, block.flp.marshal)] else []) ++
  (if IndexableAttr.txID ∈ index.indexItemsMap then txIDPuts block (index.marksOf block) else []) ++
  (if IndexableAttr.blockNumTranNum ∈ index.indexItemsMap then
    blockNumTranNumPuts block (index.marksOf block) else []) ++
  (if IndexableAttr.blockTxID ∈ index.indexItemsMap then
    blockTxIDPuts block.flp.marshal (index.marksOf block) else []) ++
  (if IndexableAttr.txValidationCode ∈ index.indexItemsMap then
    (((index.marksOf block).zipIdx 0).filter fun p => !p.1.isDuplicate).map fun p =>
      (constructTxValidationCodeIDKey p.1.txID, [txsfltr.getD p.2 0]) else []) ++
  [(indexCheckpointKey, encodeBlockNum block.blockNum)]

variable {index : BlockIndex}

theorem marksOf_map_loc (block : BlockIdxInfo) :
    (index.marksOf block).map TxindexInfo.loc = block.txOffsets.map TxindexInfo.loc := by
  unfold marksOf
  split
  · exact markSeen_map_loc _ [] _
  · rfl

theorem length_marksOf (block : BlockIdxInfo) : (index.marksOf block).length = block.txOffsets.length := by
  rw [← List.length_map TxindexInfo.loc, marksOf_map_loc, List.length_map]

theorem map_txLocPointer_marksOf (block : BlockIdxInfo) (i : Nat) :
    (index.marksOf block)[i]?.map (txLocPointer block) = block.txOffsets[i]?.map (txLocPointer block) := by
  have pointer : txLocPointer block =
      newFileLocationPointer block.flp.fileSuffixNum block.flp.locPointer.offset ∘ TxindexInfo.loc := rfl
  rw [pointer, ← Option.map_map, ← Option.map_map]
  congr 1
  rw [← List.getElem?_map, ← List.getElem?_map, marksOf_map_loc]

theorem indexBlock_eq (nonempty : index.indexItemsMap ≠ []) {block : BlockIdxInfo} {txsfltr : Bytes}
    (filter : block.metadata.metadata[2]? = some txsfltr) (covers : block.txOffsets.length ≤ txsfltr.length) :
    index.indexBlock block = .ok { index with db := writeAll index.db (index.batchOf block txsfltr) } := by
  have codes := @txValidationCodePuts_eq txsfltr (index.marksOf block) (by rw [length_marksOf]; exact covers)
  -- the two loops that can fail, marking and reading the codes, are taken or not as the attributes say
  by_cases ids : IndexableAttr.txID ∈ index.indexItemsMap
  · have marked := markDuplicateTxids_eq ids block.txOffsets
    rw [marksOf, if_pos ids] at codes
    by_cases codesOn : IndexableAttr.txValidationCode ∈ index.indexItemsMap
    · simp only [indexBlock, batchOf, marksOf, if_neg nonempty, filter, ids, codesOn, if_true, marked, codes,
        Except.ok_bind]
      rfl
    · simp only [indexBlock, batchOf, marksOf, if_neg nonempty, filter, ids, codesOn, if_true, if_false, marked,
        Except.ok_bind]
      rfl
  · by_cases codesOn : IndexableAttr.txValidationCode ∈ index.indexItemsMap
    · exact absurd (index.dependent (.inl codesOn)) ids
    · simp only [indexBlock, batchOf, marksOf, if_neg nonempty, filter, ids, codesOn, if_false]
      rfl

theorem getTxLoc_isOk (indexed : IndexableAttr.txID ∈ index.indexItemsMap) (txid : Bytes) :
    (index.getTxLoc txid).isOk = (index.db (constructTxIDKey txid)).isSome := by
  simp only [getTxLoc, getLoc, indexed, not_true_eq_false, if_false]
  split <;> simp_all [Except.isOk, Except.toBool]

end BlockIndex

section Step

variable {index : BlockIndex} {blocks : List BlockIdxInfo} {block : BlockIdxInfo} {txsfltr : Bytes}

theorem batchOf_filter_blockHash (blockHash : Bytes) :
    (index.batchOf block txsfltr).filter (fun put => put.1 == constructBlockHashKey blockHash) =
      (if IndexableAttr.blockHash ∈ index.indexItemsMap then
        [(constructBlockHashKey block.blockHash, block.flp.marshal)] else []).filter
        (fun put => put.1 == constructBlockHashKey blockHash) := by
  simp (disch := (rw [head?_constructBlockHashKey]; decide)) only [BlockIndex.batchOf, List.filter_append,
    filter_blockNumPut, filter_txIDPuts, filter_blockNumTranNumPuts, filter_blockTxIDPuts, filter_codes,
    filter_checkpoint, List.append_nil]

theorem batchOf_filter_blockNum (blockNum : UInt64) :
    (index.batchOf block txsfltr).filter (fun put => put.1 == constructBlockNumKey blockNum) =
      (if IndexableAttr.blockNum ∈ index.indexItemsMap then
        [(constructBlockNumKey block.blockNum, block.flp.marshal)] else []).filter
        (fun put => put.1 == constructBlockNumKey blockNum) := by
  simp (disch := (rw [head?_constructBlockNumKey]; decide)) only [BlockIndex.batchOf, List.filter_append,
    filter_blockHashPut, filter_txIDPuts, filter_blockNumTranNumPuts, filter_blockTxIDPuts, filter_codes,
    filter_checkpoint, List.nil_append, List.append_nil]

theorem batchOf_filter_txID (txid : Bytes) :
    (index.batchOf block txsfltr).filter (fun put => put.1 == constructTxIDKey txid) =
      (if IndexableAttr.txID ∈ index.indexItemsMap then txIDPuts block (index.marksOf block) else []).filter
        (fun put => put.1 == constructTxIDKey txid) := by
  simp (disch := (rw [head?_constructTxIDKey]; decide)) only [BlockIndex.batchOf, List.filter_append,
    filter_blockHashPut, filter_blockNumPut, filter_blockNumTranNumPuts, filter_blockTxIDPuts, filter_codes,
    filter_checkpoint, List.nil_append, List.append_nil]

theorem batchOf_filter_blockNumTranNum (blockNum tranNum : UInt64) :
    (index.batchOf block txsfltr).filter (fun put => put.1 == constructBlockNumTranNumKey blockNum tranNum) =
      (if IndexableAttr.blockNumTranNum ∈ index.indexItemsMap then
        blockNumTranNumPuts block (index.marksOf block) else []).filter
        (fun put => put.1 == constructBlockNumTranNumKey blockNum tranNum) := by
  simp (disch := (rw [head?_constructBlockNumTranNumKey]; decide)) only [BlockIndex.batchOf, List.filter_append,
    filter_blockHashPut, filter_blockNumPut, filter_txIDPuts, filter_blockTxIDPuts, filter_codes,
    filter_checkpoint, List.nil_append, List.append_nil]

theorem batchOf_filter_blockTxID (txid : Bytes) :
    (index.batchOf block txsfltr).filter (fun put => put.1 == constructBlockTxIDKey txid) =
      (if IndexableAttr.blockTxID ∈ index.indexItemsMap then
        blockTxIDPuts block.flp.marshal (index.marksOf block) else []).filter
        (fun put => put.1 == constructBlockTxIDKey txid) := by
  simp (disch := (rw [head?_constructBlockTxIDKey]; decide)) only [BlockIndex.batchOf, List.filter_append,
    filter_blockHashPut, filter_blockNumPut, filter_txIDPuts, filter_blockNumTranNumPuts, filter_codes,
    filter_checkpoint, List.nil_append, List.append_nil]

theorem batchOf_filter_txValidationCode (txid : Bytes) :
    (index.batchOf block txsfltr).filter (fun put => put.1 == constructTxValidationCodeIDKey txid) =
      (if IndexableAttr.txValidationCode ∈ index.indexItemsMap then
        (((index.marksOf block).zipIdx 0).filter fun p => !p.1.isDuplicate).map fun p =>
          (constructTxValidationCodeIDKey p.1.txID, [txsfltr.getD p.2 0]) else []).filter
        (fun put => put.1 == constructTxValidationCodeIDKey txid) := by
  simp (disch := (rw [head?_constructTxValidationCodeIDKey]; decide)) only [BlockIndex.batchOf,
    List.filter_append, filter_blockHashPut, filter_blockNumPut, filter_txIDPuts, filter_blockNumTranNumPuts,
    filter_blockTxIDPuts, filter_checkpoint, List.nil_append, List.append_nil]

theorem batchOf_filter_checkpoint :
    (index.batchOf block txsfltr).filter (fun put => put.1 == indexCheckpointKey) =
      [(indexCheckpointKey, encodeBlockNum block.blockNum)] := by
  simp (disch := (rw [head?_indexCheckpointKey]; decide)) only [BlockIndex.batchOf, List.filter_append,
    filter_blockHashPut, filter_blockNumPut, filter_txIDPuts, filter_blockNumTranNumPuts, filter_blockTxIDPuts,
    filter_codes, List.nil_append]
  rfl

theorem constructBlockHashKey_inj (a b : Bytes) : constructBlockHashKey a = constructBlockHashKey b ↔ a = b := by
  simp [constructBlockHashKey]

theorem constructBlockNumKey_inj (a b : UInt64) : constructBlockNumKey a = constructBlockNumKey b ↔ a = b := by
  constructor
  · intro same
    exact encodeOrderPreservingVarUint64_injective (List.cons.inj same).2
  · rintro rfl
    rfl

theorem constructTxIDKey_inj (a b : Bytes) : constructTxIDKey a = constructTxIDKey b ↔ a = b := by
  simp [constructTxIDKey]

theorem constructBlockTxIDKey_inj (a b : Bytes) : constructBlockTxIDKey a = constructBlockTxIDKey b ↔ a = b := by
  simp [constructBlockTxIDKey]

theorem constructTxValidationCodeIDKey_inj (a b : Bytes) :
    constructTxValidationCodeIDKey a = constructTxValidationCodeIDKey b ↔ a = b := by
  simp [constructTxValidationCodeIDKey]

theorem writeAll_lastBlock {β : Type} [BEq β] [LawfulBEq β] (attr : BlockIdxInfo → β) (construct : β → Bytes)
    (inj : ∀ a b, construct a = construct b ↔ a = b) {db : Bytes → Option Bytes} (y : β)
    (before : db (construct y) = (blocks.reverse.find? fun b => attr b == y).map fun b => b.flp.marshal) :
    writeAll db [(construct (attr block), block.flp.marshal)] (construct y) =
      ((blocks ++ [block]).reverse.find? fun b => attr b == y).map fun b => b.flp.marshal := by
  rw [List.reverse_append, List.reverse_singleton, List.singleton_append]
  by_cases same : attr block = y
  · rw [List.find?_cons_of_pos (p := fun b => attr b == y) (beq_iff_eq.mpr same), Option.map_some, same]
    exact KeyValueStore.writeAll_singleton db _ _
  · rw [List.find?_cons_of_neg (p := fun b => attr b == y) (by simpa using same), ← before,
      KeyValueStore.writeAll_cons]
    exact Function.update_of_ne (mt (inj _ _).mp (Ne.symm same)) _ _

theorem writeAll_firstTx (fresh : ∀ tx ∈ block.txOffsets, tx.isDuplicate = false)
    (value : BlockIdxInfo × TxindexInfo × Nat → Bytes) {v : TxindexInfo × Nat → Bytes}
    (written : ∀ p ∈ block.txOffsets.zipIdx 0, value (block, p.1, p.2) = v p) {held : Bytes → Bool}
    {db : Bytes → Option Bytes} {key txid : Bytes} (heldIff : held txid = (firstTx blocks txid).isSome)
    (before : db key = (firstTx blocks txid).map value) :
    writeAll db ((((markSeen held [] block.txOffsets).zipIdx 0).filter
        fun p => !p.1.isDuplicate && p.1.txID == txid).map fun p => (key, v p)) key =
      (firstTx (blocks ++ [block]) txid).map value := by
  rw [markSeen_filter_zipIdx held txid _ [] 0 fresh, firstTx_append_singleton, heldIff]
  simp only [List.not_mem_nil, false_or]
  cases first : firstTx blocks txid with
  | some entry =>
    rw [Option.isSome_some, if_pos rfl, List.map_nil, Option.some_or]
    exact before.trans (by rw [first])
  | none =>
    rw [Option.isSome_none, if_neg Bool.false_ne_true, Option.none_or]
    cases found : (block.txOffsets.zipIdx 0).find? (fun p => p.1.txID == txid) with
    | some p =>
      rw [Option.map_some, Option.map_some, written p (List.mem_of_find?_eq_some found)]
      exact KeyValueStore.writeAll_singleton db key (v p)
    | none => exact before.trans (by rw [first]; rfl)

theorem Indexed.getTxLoc_isOk (indexed : Indexed index blocks) (ids : IndexableAttr.txID ∈ index.indexItemsMap)
    (txid : Bytes) : (index.getTxLoc txid).isOk = (firstTx blocks txid).isSome := by
  rw [BlockIndex.getTxLoc_isOk ids, indexed.txID, if_pos ids, Option.isSome_map]

theorem Indexed.batchOf_blockHash (indexed : Indexed index blocks) (blockHash : Bytes) :
    writeAll index.db (index.batchOf block txsfltr) (constructBlockHashKey blockHash) =
      if IndexableAttr.blockHash ∈ index.indexItemsMap then
        ((blocks ++ [block]).reverse.find? fun b => b.blockHash == blockHash).map fun b => b.flp.marshal
      else none := by
  rw [← KeyValueStore.writeAll_filter, batchOf_filter_blockHash, KeyValueStore.writeAll_filter]
  split
  · next hashes =>
    apply writeAll_lastBlock BlockIdxInfo.blockHash constructBlockHashKey constructBlockHashKey_inj
    rw [indexed.blockHash, if_pos hashes]
  · next hashes =>
    show index.db (constructBlockHashKey blockHash) = none
    rw [indexed.blockHash, if_neg hashes]

theorem Indexed.batchOf_blockNum (indexed : Indexed index blocks) (blockNum : UInt64) :
    writeAll index.db (index.batchOf block txsfltr) (constructBlockNumKey blockNum) =
      if IndexableAttr.blockNum ∈ index.indexItemsMap then
        ((blocks ++ [block]).reverse.find? fun b => b.blockNum == blockNum).map fun b => b.flp.marshal
      else none := by
  rw [← KeyValueStore.writeAll_filter, batchOf_filter_blockNum, KeyValueStore.writeAll_filter]
  split
  · next numbers =>
    apply writeAll_lastBlock BlockIdxInfo.blockNum constructBlockNumKey constructBlockNumKey_inj
    rw [indexed.blockNum, if_pos numbers]
  · next numbers =>
    show index.db (constructBlockNumKey blockNum) = none
    rw [indexed.blockNum, if_neg numbers]

theorem Indexed.batchOf_txID (indexed : Indexed index blocks) (fresh : ∀ tx ∈ block.txOffsets, tx.isDuplicate = false)
    (txid : Bytes) :
    writeAll index.db (index.batchOf block txsfltr) (constructTxIDKey txid) =
      if IndexableAttr.txID ∈ index.indexItemsMap then
        (firstTx (blocks ++ [block]) txid).map fun entry => (txLocPointer entry.1 entry.2.1).marshal
      else none := by
  rw [← KeyValueStore.writeAll_filter, batchOf_filter_txID]
  split
  · next ids =>
    rw [txIDPuts, map_filter_nondup, filter_nondup_map constructTxIDKey constructTxIDKey_inj, BlockIndex.marksOf,
      if_pos ids]
    apply writeAll_firstTx fresh (fun entry => (txLocPointer entry.1 entry.2.1).marshal) (fun _ _ => rfl)
      (indexed.getTxLoc_isOk ids txid)
    rw [indexed.txID, if_pos ids]
  · next ids =>
    show index.db (constructTxIDKey txid) = none
    rw [indexed.txID, if_neg ids]

theorem Indexed.batchOf_blockTxID (indexed : Indexed index blocks)
    (fresh : ∀ tx ∈ block.txOffsets, tx.isDuplicate = false) (txid : Bytes) :
    writeAll index.db (index.batchOf block txsfltr) (constructBlockTxIDKey txid) =
      if IndexableAttr.blockTxID ∈ index.indexItemsMap then
        (firstTx (blocks ++ [block]) txid).map fun entry => entry.1.flp.marshal
      else none := by
  rw [← KeyValueStore.writeAll_filter, batchOf_filter_blockTxID]
  split
  · next blockIds =>
    have ids := index.dependent (.inr blockIds)
    rw [blockTxIDPuts, map_filter_nondup, filter_nondup_map constructBlockTxIDKey constructBlockTxIDKey_inj,
      BlockIndex.marksOf, if_pos ids]
    apply writeAll_firstTx fresh (fun entry => entry.1.flp.marshal) (fun _ _ => rfl) (indexed.getTxLoc_isOk ids txid)
    rw [indexed.blockTxID, if_pos blockIds]
  · next blockIds =>
    show index.db (constructBlockTxIDKey txid) = none
    rw [indexed.blockTxID, if_neg blockIds]

theorem Indexed.batchOf_txValidationCode (indexed : Indexed index blocks)
    (fresh : ∀ tx ∈ block.txOffsets, tx.isDuplicate = false) (filter : block.metadata.metadata[2]? = some txsfltr)
    (txid : Bytes) :
    writeAll index.db (index.batchOf block txsfltr) (constructTxValidationCodeIDKey txid) =
      if IndexableAttr.txValidationCode ∈ index.indexItemsMap then
        (firstTx (blocks ++ [block]) txid).map fun entry => [entry.1.flag entry.2.2]
      else none := by
  rw [← KeyValueStore.writeAll_filter, batchOf_filter_txValidationCode]
  split
  · next codes =>
    have ids := index.dependent (.inl codes)
    have written : ∀ p ∈ block.txOffsets.zipIdx 0, [block.flag p.2] = [txsfltr.getD p.2 0] := by
      intro p _
      rw [BlockIdxInfo.flag, filter, Option.getD_some]
    rw [filter_nondup_map constructTxValidationCodeIDKey constructTxValidationCodeIDKey_inj, BlockIndex.marksOf,
      if_pos ids]
    apply writeAll_firstTx fresh (fun entry => [entry.1.flag entry.2.2]) written (indexed.getTxLoc_isOk ids txid)
    rw [indexed.txValidationCode, if_pos codes]
  · next codes =>
    show index.db (constructTxValidationCodeIDKey txid) = none
    rw [indexed.txValidationCode, if_neg codes]

theorem batchOf_checkpoint :
    writeAll index.db (index.batchOf block txsfltr) indexCheckpointKey =
      (blocks ++ [block]).getLast?.map fun b => encodeBlockNum b.blockNum := by
  rw [← KeyValueStore.writeAll_filter, batchOf_filter_checkpoint, KeyValueStore.writeAll_singleton,
    List.getLast?_concat, Option.map_some]

theorem filter_blockNumTranNumPuts_key (marked : List TxindexInfo) (positions : marked.length ≤ 2 ^ 64)
    (blockNum tranNum : UInt64) :
    (blockNumTranNumPuts block marked).filter (fun put => put.1 == constructBlockNumTranNumKey blockNum tranNum) =
      if block.blockNum = blockNum then
        (marked[tranNum.toNat]?.map fun tx =>
          (constructBlockNumTranNumKey blockNum tranNum, (txLocPointer block tx).marshal)).toList
      else [] := by
  have key : ∀ i : Nat, (constructBlockNumTranNumKey block.blockNum i.toUInt64 ==
      constructBlockNumTranNumKey blockNum tranNum) = (block.blockNum == blockNum && i.toUInt64 == tranNum) := by
    intro i
    by_cases same : constructBlockNumTranNumKey block.blockNum i.toUInt64 = constructBlockNumTranNumKey blockNum tranNum
    · obtain ⟨numbers, positions⟩ := constructBlockNumTranNumKey_inj same
      simp [numbers, positions]
    · rw [beq_false_of_ne same]
      by_cases numbers : block.blockNum = blockNum
      · have other : i.toUInt64 ≠ tranNum := fun positions => same (by rw [numbers, positions])
        simp [numbers, other]
      · simp [numbers]
  rw [blockNumTranNumPuts_eq, List.filter_map]
  simp only [Function.comp_def, key]
  split
  · next same =>
    simp only [same, beq_self_eq_true, Bool.true_and]
    rw [filter_zipIdx_toUInt64 tranNum marked 0 (by omega), if_pos (Nat.zero_le _), Nat.sub_zero]
    cases marked[tranNum.toNat]? with
    | none => rfl
    | some tx => simp only [Option.map_some, Option.toList_some, List.map_cons, List.map_nil, UInt64.ofNat_toNat]
  · next other =>
    simp [other]

theorem Indexed.batchOf_blockNumTranNum (indexed : Indexed index blocks)
    (positions : block.txOffsets.length ≤ 2 ^ 64) (newNum : ∀ b ∈ blocks, b.blockNum ≠ block.blockNum)
    (blockNum tranNum : UInt64) :
    writeAll index.db (index.batchOf block txsfltr) (constructBlockNumTranNumKey blockNum tranNum) =
      if IndexableAttr.blockNumTranNum ∈ index.indexItemsMap then
        ((blocks ++ [block]).find? fun b => b.blockNum == blockNum).bind fun b =>
          b.txOffsets[tranNum.toNat]?.map fun tx => (txLocPointer b tx).marshal
      else none := by
  have before := indexed.blockNumTranNum blockNum tranNum
  rw [← KeyValueStore.writeAll_filter, batchOf_filter_blockNumTranNum]
  split
  · next positionsOn =>
    rw [if_pos positionsOn] at before
    rw [List.find?_append, filter_blockNumTranNumPuts_key _ (by rw [BlockIndex.length_marksOf]; exact positions)]
    by_cases same : block.blockNum = blockNum
    · -- the block is the first with its number, so its positions were free
      have absent : blocks.find? (fun b => b.blockNum == blockNum) = none := by
        rw [List.find?_eq_none]
        intro b member
        simpa [← same] using newNum b member
      rw [absent, Option.bind_none] at before
      rw [if_pos same, absent, Option.none_or, List.find?_singleton, if_pos (beq_iff_eq.mpr same), Option.bind_some]
      have pointers := @BlockIndex.map_txLocPointer_marksOf index block tranNum.toNat
      cases found : block.txOffsets[tranNum.toNat]? with
      | none =>
        rw [found, Option.map_none, Option.map_eq_none_iff] at pointers
        rw [pointers, Option.map_none]
        exact before
      | some tx =>
        rw [found, Option.map_some] at pointers
        obtain ⟨marked, markedFound, markedLoc⟩ := Option.map_eq_some_iff.mp pointers
        rw [markedFound, Option.map_some, Option.toList_some, Option.map_some, ← markedLoc]
        exact KeyValueStore.writeAll_singleton _ _ _
    · -- another number: the key is not written
      rw [if_neg same, List.find?_singleton, if_neg (by simpa using same), Option.or_none]
      exact before
  · next positionsOff =>
    show index.db (constructBlockNumTranNumKey blockNum tranNum) = none
    rw [before, if_neg positionsOff]

theorem Indexed.of_nothing (indexed : Indexed index blocks) (nothing : index.indexItemsMap = [])
    (blocks' : List BlockIdxInfo) : Indexed index blocks' where
  blockHash _ := by simp only [indexed.blockHash, nothing, List.not_mem_nil, if_false]
  blockNum _ := by simp only [indexed.blockNum, nothing, List.not_mem_nil, if_false]
  txID _ := by simp only [indexed.txID, nothing, List.not_mem_nil, if_false]
  blockNumTranNum _ _ := by simp only [indexed.blockNumTranNum, nothing, List.not_mem_nil, if_false]
  blockTxID _ := by simp only [indexed.blockTxID, nothing, List.not_mem_nil, if_false]
  txValidationCode _ := by simp only [indexed.txValidationCode, nothing, List.not_mem_nil, if_false]
  checkpoint := by simp only [indexed.checkpoint, nothing, if_true]

theorem Indexed.indexBlock (indexed : Indexed index blocks) (valid : block.Valid)
    (newNum : ∀ b ∈ blocks, b.blockNum ≠ block.blockNum) :
    ∃ index', index.indexBlock block = .ok index' ∧ index'.indexItemsMap = index.indexItemsMap ∧
      Indexed index' (blocks ++ [block]) := by
  by_cases nothing : index.indexItemsMap = []
  · refine ⟨index, ?_, rfl, indexed.of_nothing nothing _⟩
    simp only [BlockIndex.indexBlock, nothing, if_true]
    rfl
  · obtain ⟨txsfltr, filter, covers⟩ := valid.filter
    refine ⟨_, BlockIndex.indexBlock_eq nothing filter covers, rfl, ?_⟩
    exact {
      blockHash := indexed.batchOf_blockHash
      blockNum := indexed.batchOf_blockNum
      txID := indexed.batchOf_txID valid.fresh
      blockNumTranNum := indexed.batchOf_blockNumTranNum valid.positions newNum
      blockTxID := indexed.batchOf_blockTxID valid.fresh
      txValidationCode := indexed.batchOf_txValidationCode valid.fresh filter
      checkpoint := by
        show writeAll index.db (index.batchOf block txsfltr) indexCheckpointKey = _
        rw [if_neg nothing, batchOf_checkpoint] }

theorem Indexed.indexBlocks (indexed : Indexed index blocks) (more : List BlockIdxInfo)
    (valid : ∀ b ∈ more, b.Valid) (distinct : ((blocks ++ more).map BlockIdxInfo.blockNum).Nodup) :
    ∃ index', index.indexBlocks more = .ok index' ∧ index'.indexItemsMap = index.indexItemsMap ∧
      Indexed index' (blocks ++ more) := by
  induction more generalizing index blocks with
  | nil => exact ⟨index, rfl, rfl, by rw [List.append_nil]; exact indexed⟩
  | cons block more ih =>
    have newNum : ∀ b ∈ blocks, b.blockNum ≠ block.blockNum := by
      intro b member same
      rw [List.map_append, List.nodup_append] at distinct
      exact distinct.2.2 _ (List.mem_map_of_mem member) _ List.mem_cons_self same
    obtain ⟨index₁, step, items₁, indexed₁⟩ := indexed.indexBlock (valid block List.mem_cons_self) newNum
    obtain ⟨index', run, items', indexed'⟩ := ih indexed₁ (fun b member => valid b (List.mem_cons_of_mem _ member))
      (by rw [List.append_assoc, List.singleton_append]; exact distinct)
    refine ⟨index', ?_, items'.trans items₁, ?_⟩
    · rw [BlockIndex.indexBlocks, List.foldlM_cons, step, Except.ok_bind]
      exact run
    · rw [List.append_assoc, List.singleton_append] at indexed'
      exact indexed'

end Step

instance FileLocPointer.decidableFits (flp : FileLocPointer) : Decidable flp.Fits :=
  decidable_of_iff (flp.fileSuffixNum < 2 ^ 64 ∧ flp.locPointer.offset < 2 ^ 64 ∧ flp.locPointer.bytesLength < 2 ^ 64)
    ⟨fun ⟨fileSuffixNum, offset, bytesLength⟩ => ⟨fileSuffixNum, offset, bytesLength⟩,
      fun ⟨fileSuffixNum, offset, bytesLength⟩ => ⟨fileSuffixNum, offset, bytesLength⟩⟩

theorem FileLocPointer.Fits.unmarshal_marshal {flp : FileLocPointer} (fits : flp.Fits) :
    FileLocPointer.unmarshal flp.marshal = flp :=
  FileLocPointer.unmarshal_marshal fits.fileSuffixNum fits.offset fits.bytesLength

section Lookups

variable {index : BlockIndex} {blocks : List BlockIdxInfo}

theorem mem_of_firstTx {txid : Bytes} {entry : BlockIdxInfo × TxindexInfo × Nat}
    (first : firstTx blocks txid = some entry) : entry.1 ∈ blocks ∧ entry.2.1 ∈ entry.1.txOffsets := by
  obtain ⟨block, inBlocks, inBlock⟩ := List.mem_flatMap.mp (List.mem_of_find?_eq_some first)
  obtain ⟨p, inTxs, rfl⟩ := List.mem_map.mp inBlock
  exact ⟨inBlocks, List.fst_mem_of_mem_zipIdx inTxs⟩

theorem Indexed.getTxLoc (indexed : Indexed index blocks) (valid : ∀ b ∈ blocks, b.Valid)
    (ids : IndexableAttr.txID ∈ index.indexItemsMap) (txid : Bytes) :
    index.getTxLoc txid = (firstTx blocks txid).elim (.error errNotFoundInIndex) fun entry =>
      .ok (txLocPointer entry.1 entry.2.1) := by
  rw [BlockIndex.getTxLoc, BlockIndex.getLoc, if_neg (not_not.mpr ids), indexed.txID, if_pos ids]
  cases first : firstTx blocks txid with
  | none => rfl
  | some entry =>
    obtain ⟨inBlocks, inBlock⟩ := mem_of_firstTx first
    simp only [Option.map_some, Option.elim_some]
    rw [((valid _ inBlocks).txLocs _ inBlock).unmarshal_marshal]

theorem Indexed.getBlockLocByTxID (indexed : Indexed index blocks) (valid : ∀ b ∈ blocks, b.Valid)
    (blockIds : IndexableAttr.blockTxID ∈ index.indexItemsMap) (txid : Bytes) :
    index.getBlockLocByTxID txid = (firstTx blocks txid).elim (.error errNotFoundInIndex) fun entry =>
      .ok entry.1.flp := by
  rw [BlockIndex.getBlockLocByTxID, BlockIndex.getLoc, if_neg (not_not.mpr blockIds), indexed.blockTxID,
    if_pos blockIds]
  cases first : firstTx blocks txid with
  | none => rfl
  | some entry =>
    simp only [Option.map_some, Option.elim_some]
    rw [(valid _ (mem_of_firstTx first).1).blockLoc.unmarshal_marshal]

theorem Indexed.getTxValidationCodeByTxID (indexed : Indexed index blocks)
    (codes : IndexableAttr.txValidationCode ∈ index.indexItemsMap) (txid : Bytes) :
    index.getTxValidationCodeByTxID txid = (firstTx blocks txid).elim (.error errNotFoundInIndex) fun entry =>
      .ok (entry.1.flag entry.2.2) := by
  rw [BlockIndex.getTxValidationCodeByTxID, if_neg (not_not.mpr codes), indexed.txValidationCode, if_pos codes]
  cases firstTx blocks txid <;> rfl

theorem Indexed.getTXLocByBlockNumTranNum (indexed : Indexed index blocks) (valid : ∀ b ∈ blocks, b.Valid)
    (positions : IndexableAttr.blockNumTranNum ∈ index.indexItemsMap) (blockNum tranNum : UInt64) :
    index.getTXLocByBlockNumTranNum blockNum tranNum =
      (((blocks.find? fun b => b.blockNum == blockNum).bind fun b =>
        b.txOffsets[tranNum.toNat]?.map (txLocPointer b)).elim (.error errNotFoundInIndex) .ok) := by
  rw [BlockIndex.getTXLocByBlockNumTranNum, BlockIndex.getLoc, if_neg (not_not.mpr positions),
    indexed.blockNumTranNum, if_pos positions]
  cases found : blocks.find? fun b => b.blockNum == blockNum with
  | none => rfl
  | some block =>
    cases tx : block.txOffsets[tranNum.toNat]? with
    | none => simp only [Option.bind_some, tx, Option.map_none, Option.elim_none]
    | some tx' =>
      have fits := (valid block (List.mem_of_find?_eq_some found)).txLocs tx' (List.mem_of_getElem? tx)
      simp only [Option.bind_some, tx, Option.map_some, Option.elim_some]
      rw [fits.unmarshal_marshal]

end Lookups

section Run

/-- From an empty index, blocks indexed one after the other: every lookup by id answers with the
first transaction that carried the id, and the lookup by position with the block's own
transaction, duplicate or not. -/
theorem txid_lookups_resolve_to_first_occurrence (indexItems : List IndexableAttr) (blocks : List BlockIdxInfo)
    (ids : IndexableAttr.txID ∈ indexItems) (blockIds : IndexableAttr.blockTxID ∈ indexItems)
    (codes : IndexableAttr.txValidationCode ∈ indexItems) (positions : IndexableAttr.blockNumTranNum ∈ indexItems)
    (valid : ∀ b ∈ blocks, b.Valid) (distinct : (blocks.map BlockIdxInfo.blockNum).Nodup) :
    ∃ index, (BlockIndex.mk indexItems (fun _ => none) fun _ => ids).indexBlocks blocks = .ok index ∧
      (∀ txid, index.getTxLoc txid =
          (firstTx blocks txid).elim (.error errNotFoundInIndex) (fun entry => .ok (txLocPointer entry.1 entry.2.1)) ∧
        index.getBlockLocByTxID txid =
          (firstTx blocks txid).elim (.error errNotFoundInIndex) (fun entry => .ok entry.1.flp) ∧
        index.getTxValidationCodeByTxID txid =
          (firstTx blocks txid).elim (.error errNotFoundInIndex) (fun entry => .ok (entry.1.flag entry.2.2))) ∧
      ∀ blockNum tranNum, index.getTXLocByBlockNumTranNum blockNum tranNum =
        ((blocks.find? fun b => b.blockNum == blockNum).bind fun b =>
          b.txOffsets[tranNum.toNat]?.map (txLocPointer b)).elim (.error errNotFoundInIndex) .ok := by
  obtain ⟨index, run, items, indexed⟩ :=
    (indexed_empty indexItems fun _ => ids).indexBlocks blocks valid (by rwa [List.nil_append])
  rw [List.nil_append] at indexed
  have kept : ∀ {attr}, attr ∈ indexItems → attr ∈ index.indexItemsMap := fun member => items ▸ member
  refine ⟨index, run, fun txid => ⟨?_, ?_, ?_⟩, fun blockNum tranNum => ?_⟩
  · exact indexed.getTxLoc valid (kept ids) txid
  · exact indexed.getBlockLocByTxID valid (kept blockIds) txid
  · exact indexed.getTxValidationCodeByTxID (kept codes) txid
  · exact indexed.getTXLocByBlockNumTranNum valid (kept positions) blockNum tranNum

theorem txid_lookups_resolve_to_first_occurrence_of_duplicates :
    let blocks : List BlockIdxInfo :=
      [⟨0, [0x01], ⟨0, ⟨0, 40⟩⟩, [⟨[0x61], ⟨2, 10⟩, false⟩, ⟨[0x61], ⟨12, 10⟩, false⟩], ⟨[[], [], [0, 11]]⟩⟩,
       ⟨1, [0x02], ⟨0, ⟨40, 30⟩⟩, [⟨[0x61], ⟨2, 10⟩, false⟩, ⟨[0x62], ⟨12, 10⟩, false⟩], ⟨[[], [], [11, 0]]⟩⟩]
    ∃ index, (BlockIndex.mk [.txID, .blockTxID, .txValidationCode, .blockNumTranNum] (fun _ => none)
        fun _ => List.mem_cons_self).indexBlocks blocks = .ok index ∧
      index.getTxLoc [0x61] = .ok ⟨0, ⟨2, 10⟩⟩ ∧ index.getBlockLocByTxID [0x61] = .ok ⟨0, ⟨0, 40⟩⟩ ∧
      index.getTxValidationCodeByTxID [0x61] = .ok 0 ∧ index.getTXLocByBlockNumTranNum 0 1 = .ok ⟨0, ⟨12, 10⟩⟩ := by
  intro blocks
  have valid : ∀ b ∈ blocks, b.Valid := by
    intro b member
    simp only [blocks, List.mem_cons, List.not_mem_nil, or_false] at member
    rcases member with rfl | rfl
    · exact ⟨by decide, ⟨_, rfl, by decide⟩, by decide, by decide, by decide⟩
    · exact ⟨by decide, ⟨_, rfl, by decide⟩, by decide, by decide, by decide⟩
  obtain ⟨index, run, byId, byPosition⟩ := txid_lookups_resolve_to_first_occurrence
    [.txID, .blockTxID, .txValidationCode, .blockNumTranNum] blocks (by decide)
    (by decide) (by decide) (by decide) valid (by decide)
  obtain ⟨loc, blockLoc, code⟩ := byId [0x61]
  exact ⟨index, run, loc.trans rfl, blockLoc.trans rfl, code.trans rfl, (byPosition 0 1).trans rfl⟩

end Run

end Fabric.Fsblkstorage
