import Fabric.Lib.Basic
import Fabric.Lib.BigEndian
import Fabric.Lib.OrderedStore
import Fabric.Lib.Varint
import Fabric.Ledger.Rwset

/-! `core/ledger/kvledger/history`: the history database of a channel and its key queries.

`historyDB.Commit` writes, for each write of each valid endorser transaction, an empty record
under the key `ns 0x00 key 0x00 enc(blockNum) enc(tranNum)` (`enc` being
`util.EncodeOrderPreservingVarUint64`). `GetHistoryForKey` scans the keys from
`ns 0x00 key 0x00` up to `ns 0x00 key 0x00 0xff`, cuts the partial key off each, decodes the
block and transaction numbers and reads the write of the key from that transaction in the block
store. Keys and namespaces are byte strings (Go strings); the envelope decoding the code does
on the way is not modelled: a block holds its transactions decoded. -/

namespace Fabric.Historydb

open Rwset

/-- `EncodeOrderPreservingVarUint64`: the number of significant bytes, then the big-endian
bytes of the number without its leading zero bytes. The count is at most 8, so its varint is
the one byte the code keeps. -/
def encodeOrderPreservingVarUint64 (number : UInt64) : Bytes :=
  let trimmed := (BigEndian.encode 8 number.toNat).dropWhile (· == 0)
  trimmed.length.toUInt8 :: trimmed

/-- `DecodeOrderPreservingVarUint64`: the number and the bytes consumed. The count is read
as a varint; Go panics when it exceeds 8 (a negative slice start) or when the bytes end before
the number does. The slices here end at their capacity. -/
def decodeOrderPreservingVarUint64 (bytes : Bytes) : Except String (UInt64 × Nat) :=
  let size := (Varint.decode bytes).1
  if 8 < size ∨ bytes.length < size + 1 then .error "runtime error: slice bounds out of range"
  else .ok ((BigEndian.decode ((bytes.drop 1).take size)).toUInt64, size + 1)

theorem encodeOrderPreservingVarUint64_eq (number : UInt64) :
    encodeOrderPreservingVarUint64 number =
      ((BigEndian.encode 8 number.toNat).dropWhile (· == 0)).length.toUInt8 ::
        (BigEndian.encode 8 number.toNat).dropWhile (· == 0) := rfl

theorem decodeOrderPreservingVarUint64_encode_append (number : UInt64) (rest : Bytes) :
    decodeOrderPreservingVarUint64 (encodeOrderPreservingVarUint64 number ++ rest) =
      .ok (number, (encodeOrderPreservingVarUint64 number).length) := by
  rw [encodeOrderPreservingVarUint64_eq]
  generalize trimmedOk : (BigEndian.encode 8 number.toNat).dropWhile (· == 0) = trimmed
  have short : trimmed.length ≤ 8 := by
    rw [← trimmedOk]
    exact (List.dropWhile_suffix _).length_le.trans (BigEndian.length_encode 8 _).le
  -- the count is a one-byte varint
  have size : Varint.decode (trimmed.length.toUInt8 :: (trimmed ++ rest)) = (trimmed.length, 1) := by
    have round := @Varint.decode_encode_append trimmed.length (by omega) (trimmed ++ rest)
    rwa [Varint.encode_of_le (by omega)] at round
  have valueOk : BigEndian.decode trimmed = number.toNat := by
    rw [← trimmedOk, BigEndian.decode_dropWhile_zero, BigEndian.decode_encode,
      Nat.mod_eq_of_lt (by simpa using number.toNat_lt)]
  have fits : ¬(8 < trimmed.length ∨ (trimmed ++ rest).length + 1 < trimmed.length + 1) := by
    rw [List.length_append]
    omega
  simp only [decodeOrderPreservingVarUint64, List.cons_append, size, List.drop_one,
    List.tail_cons, List.take_left, valueOk, UInt64.ofNat_toNat, List.length_cons]
  rw [if_neg fits]

def compositeKeySep : Bytes := [0]

def constructCompositeHistoryKey (ns key : Bytes) (blocknum trannum : UInt64) : Bytes :=
  ns ++ compositeKeySep ++ key ++ compositeKeySep ++ encodeOrderPreservingVarUint64 blocknum ++
    encodeOrderPreservingVarUint64 trannum

def constructPartialCompositeHistoryKey (ns key : Bytes) (endkey : Bool) : Bytes :=
  ns ++ compositeKeySep ++ key ++ compositeKeySep ++ (if endkey then [0xff] else [])

def splitFirst (separator : Bytes) : Bytes → Option (Bytes × Bytes)
  | [] => if separator = [] then some ([], []) else none
  | b :: rest =>
      if separator.isPrefixOf (b :: rest) then some ([], (b :: rest).drop separator.length)
      else (splitFirst separator rest).map fun (before, after) => (b :: before, after)

/-- `SplitCompositeHistoryKey`: `bytes.SplitN(bytesToSplit, separator, 2)`; without an
occurrence of the separator, `split[1]` is out of range. -/
def splitCompositeHistoryKey (bytesToSplit separator : Bytes) : Except String (Bytes × Bytes) :=
  match splitFirst separator bytesToSplit with
  | some parts => .ok parts
  | none => .error "runtime error: index out of range"

theorem splitFirst_append {separator : Bytes} (ne : separator ≠ []) (rest : Bytes) :
    splitFirst separator (separator ++ rest) = some ([], rest) := by
  cases separator with
  | nil => exact absurd rfl ne
  | cons s ss =>
      have prefixOk : (s :: ss).isPrefixOf (s :: ss ++ rest) = true :=
        List.isPrefixOf_iff_prefix.mpr (List.prefix_append _ _)
      rw [List.cons_append, splitFirst, ← List.cons_append, if_pos prefixOk, List.drop_left]

/-- The record of a key that extends `key` by the separator lies in the range that the query
for `key` scans, unless what follows the separator starts with `0xff`. -/
theorem extension_in_history_range (ns key suffix : Bytes) (blocknum trannum : UInt64)
    (belowTop : ∀ b, suffix.head? = some b → b < 0xff) :
    ¬constructCompositeHistoryKey ns (key ++ compositeKeySep ++ suffix) blocknum trannum <
        constructPartialCompositeHistoryKey ns key false ∧
      constructCompositeHistoryKey ns (key ++ compositeKeySep ++ suffix) blocknum trannum <
        constructPartialCompositeHistoryKey ns key true := by
  have layout : constructCompositeHistoryKey ns (key ++ compositeKeySep ++ suffix) blocknum trannum =
      (ns ++ compositeKeySep ++ key ++ compositeKeySep) ++ (suffix ++ compositeKeySep ++
        encodeOrderPreservingVarUint64 blocknum ++ encodeOrderPreservingVarUint64 trannum) := by
    simp [constructCompositeHistoryKey]
  rw [layout]
  constructor
  · rw [List.not_lt, constructPartialCompositeHistoryKey, if_neg Bool.false_ne_true, List.append_nil]
    exact OrderedStore.le_append _ _
  · rw [constructPartialCompositeHistoryKey, if_pos rfl]
    apply OrderedStore.append_lt_append_top
    -- the rest starts with the suffix, or with the separator after an empty suffix
    intro b first
    cases suffix with
    | nil =>
        simp only [compositeKeySep, List.nil_append, List.cons_append, List.head?_cons,
          Option.some.injEq] at first
        subst first
        decide
    | cons c suffix =>
        simp only [List.cons_append, List.head?_cons, Option.some.injEq] at first
        exact first ▸ belowTop c rfl

theorem extension_in_history_range_of_a_x00_b :
    (∀ b, ([0x62] : Bytes).head? = some b → b < 0xff) ∧
      ¬constructCompositeHistoryKey [0x6e] ([0x61] ++ compositeKeySep ++ [0x62]) 1 0 <
          constructPartialCompositeHistoryKey [0x6e] [0x61] false ∧
        constructCompositeHistoryKey [0x6e] ([0x61] ++ compositeKeySep ++ [0x62]) 1 0 <
          constructPartialCompositeHistoryKey [0x6e] [0x61] true := by
  have belowTop : ∀ b, ([0x62] : Bytes).head? = some b → b < 0xff := by
    intro b first
    cases first
    decide
  exact ⟨belowTop, extension_in_history_range [0x6e] [0x61] [0x62] 1 0 belowTop⟩

structure Transaction where
  headerType : HeaderType
  txId : String
  timestamp : Nat
  rwSet : TxRwSet Bytes

structure Block where
  number : UInt64
  transactions : List Transaction
  txsFilter : List TxValidationCode

def nsBytes (ns : String) : Bytes := ns.toUTF8.toList

def historyKeys (blockNo : UInt64) (txsFilter : List TxValidationCode) : Nat → List Transaction → List Bytes
  | _, [] => []
  | tranNo, tx :: txs =>
      (if txsFilter[tranNo]? ≠ some .valid ∨ tx.headerType ≠ .endorserTransaction then []
       else tx.rwSet.nsRwSets.flatMap fun nsRWSet => nsRWSet.writes.map fun kvWrite =>
         constructCompositeHistoryKey (nsBytes nsRWSet.nameSpace) kvWrite.key blockNo tranNo.toUInt64) ++
        historyKeys blockNo txsFilter (tranNo + 1) txs

def emptyValue : Bytes := []

structure HistoryDB where
  records : List (Bytes × Bytes)
  savepoint : Option (UInt64 × Nat)

/-- `historyDB.Commit`: the block's records and its savepoint, written as one batch. -/
def HistoryDB.commit (db : HistoryDB) (block : Block) : HistoryDB :=
  ⟨(historyKeys block.number block.txsFilter 0 block.transactions).foldl
      (fun records key => OrderedStore.put key emptyValue records) db.records,
    some (block.number, block.transactions.length)⟩

structure KeyModification where
  txId : String
  value : Bytes
  timestamp : Nat
  isDelete : Bool
  deriving DecidableEq, Repr

/-- `RetrieveTxByBlockNumTranNum` of the block store. -/
def retrieveTxByBlockNumTranNum (blocks : List Block) (blockNum tranNum : UInt64) :
    Except String Transaction :=
  match (blocks.find? fun block => block.number = blockNum).bind
      fun block => block.transactions[tranNum.toNat]? with
  | some tx => .ok tx
  | none => .error "Entry not found in index"

/-- `getKeyModificationFromTran`: the first write of `key` in the first read-write set of
`namespace`. -/
def getKeyModificationFromTran (tranEnvelope : Transaction) (namespace_ : String) (key : Bytes) :
    Except String KeyModification :=
  match tranEnvelope.rwSet.nsRwSets.find? fun nsRWSet => nsRWSet.nameSpace = namespace_ with
  | none => .error "Namespace not found in transaction\x27s ReadWriteSets"
  | some nsRWSet =>
      match nsRWSet.writes.find? fun kvWrite => kvWrite.key = key with
      | none => .error "Key not found in namespace\x27s writeset"
      | some kvWrite =>
          .ok ⟨tranEnvelope.txId, kvWrite.value, tranEnvelope.timestamp, kvWrite.isDelete⟩

def nextResult (blocks : List Block) (compositePartialKey : Bytes) (namespace_ : String) (key : Bytes)
    (historyKey : Bytes) : Except String KeyModification := do
  let (_, blockNumTranNumBytes) ← splitCompositeHistoryKey historyKey compositePartialKey
  let (blockNum, bytesConsumed) ← decodeOrderPreservingVarUint64 blockNumTranNumBytes
  let (tranNum, _) ← decodeOrderPreservingVarUint64 (blockNumTranNumBytes.drop bytesConsumed)
  let tranEnvelope ← retrieveTxByBlockNumTranNum blocks blockNum tranNum
  getKeyModificationFromTran tranEnvelope namespace_ key

def getHistoryForKey (historyDatabase : Bool) (db : HistoryDB) (blocks : List Block)
    (namespace_ : String) (key : Bytes) : Except String (List KeyModification) :=
  if !historyDatabase then .error "History tracking not enabled - historyDatabase is false"
  else
    let compositeStartKey := constructPartialCompositeHistoryKey (nsBytes namespace_) key false
    let compositeEndKey := constructPartialCompositeHistoryKey (nsBytes namespace_) key true
    (OrderedStore.scan compositeStartKey (some compositeEndKey) db.records).mapM fun record =>
      nextResult blocks compositeStartKey namespace_ key record.1

def extensionWrites : Transaction :=
  ⟨.endorserTransaction, "tx0", 7, ⟨[⟨"mycc", [], [], [⟨[97], false, [1]⟩, ⟨[97, 0], false, [2]⟩], []⟩]⟩⟩

def extensionBlock : Block := ⟨0, [extensionWrites], [.valid]⟩

/-- The history of `a` reports the one write of `a` twice: the record of `a 0x00` lies in
the range of `a` and decodes to the same block and transaction. -/
theorem getHistoryForKey_reports_extension_twice :
    getHistoryForKey true ((⟨[], none⟩ : HistoryDB).commit extensionBlock) [extensionBlock] "mycc" [97] =
      .ok [⟨"tx0", [1], 7, false⟩, ⟨"tx0", [1], 7, false⟩] := by
  decide +kernel

end Fabric.Historydb
