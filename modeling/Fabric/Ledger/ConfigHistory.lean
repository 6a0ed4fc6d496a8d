import Fabric.Lib.Basic
import Fabric.Lib.BigEndian
import Fabric.Lib.OrderedStore
import Fabric.Ledger.Rwset

/-! `core/ledger/confighistory`: the history of the collection configurations of a ledger's
chaincodes. Each write to a collection-config key of `lscc` is kept under
`s ns 0x00 key bigEndian(MaxUint64 - blockNum)`, so that a forward scan from the entry of
block `b - 1` meets the newest entry below `b` first. Each ledger has its own handle on the
shared database, whose iterators stay within the ledger's keys; a ledger's entries are modelled
as a store of their own. -/

namespace Fabric.Confighistory

open Rwset

def keyPrefix : Bytes := [0x73]

def separatorByte : UInt8 := 0

structure CompositeKey where
  ns : Bytes
  key : Bytes
  blockNum : UInt64
  deriving DecidableEq, Repr

structure CompositeKV where
  compositeKey : CompositeKey
  value : Bytes
  deriving DecidableEq, Repr

/-- `encodeBlockNum`: the big-endian bytes of `MaxUint64 - blockNum`. -/
def encodeBlockNum (blockNum : UInt64) : Bytes := BigEndian.encode 8 (UInt64.size - 1 - blockNum.toNat)

def decodeBlockNum (blockNumBytes : Bytes) : UInt64 :=
  (UInt64.size - 1 - BigEndian.decode blockNumBytes).toUInt64

def encodeCompositeKey (ns key : Bytes) (blockNum : UInt64) : Bytes :=
  keyPrefix ++ ns ++ [separatorByte] ++ key ++ encodeBlockNum blockNum

/-- `decodeCompositeKey`: the prefix byte dropped, the last 8 bytes the block number, and the
namespace and key split at the first separator. Go panics on a key too short to slice or
without a separator. -/
def decodeCompositeKey (b : Bytes) : Except String CompositeKey :=
  if b.length < 9 then .error "runtime error: slice bounds out of range"
  else
    let nsKeyBytes := (b.take (b.length - 8)).drop 1
    match nsKeyBytes.idxOf? separatorByte with
    | none => .error "runtime error: slice bounds out of range"
    | some separatorIndex =>
        .ok ⟨nsKeyBytes.take separatorIndex, nsKeyBytes.drop (separatorIndex + 1),
          decodeBlockNum (b.drop (b.length - 8))⟩

/-- `db`: the entries of one ledger, in key order. -/
structure DB where
  entries : List (Bytes × Bytes)

/-- `db.mostRecentEntryBelow`: the first entry at or after the key of `(ns, key)` at
`blockNum - 1`, the iterator having no upper bound. -/
def DB.mostRecentEntryBelow (d : DB) (blockNum : UInt64) (ns key : Bytes) : Except String (Option CompositeKV) :=
  if blockNum = 0 then .error "blockNum should be greater than 0"
  else
    match OrderedStore.scan (encodeCompositeKey ns key (blockNum - 1)) none d.entries with
    | [] => .ok none
    | (k, v) :: _ => (decodeCompositeKey k).map fun k => some ⟨k, v⟩

/-- `db.entryAt`: the entry of `(ns, key)` at exactly `blockNum`. -/
def DB.entryAt (d : DB) (blockNum : UInt64) (ns key : Bytes) : Except String (Option CompositeKV) :=
  match OrderedStore.get (encodeCompositeKey ns key blockNum) d.entries with
  | none => .ok none
  | some valBytes => (decodeCompositeKey (encodeCompositeKey ns key blockNum)).map fun k => some ⟨k, valBytes⟩

def lsccNamespace : Bytes := [0x6c, 0x73, 0x63, 0x63]

/-- `privdata.IsCollectionConfigKey`: the key holds the separator `~`. -/
def isCollectionConfigKey (key : Bytes) : Bool := key.contains 0x7e

def constructCollectionConfigKey (chaincodeName : Bytes) : Bytes :=
  chaincodeName ++ [0x7e, 0x63, 0x6f, 0x6c, 0x6c, 0x65, 0x63, 0x74, 0x69, 0x6f, 0x6e]

def prepareDBBatch (lsccWrites : List (KVWrite Bytes)) (committingBlock : UInt64) : List (Bytes × Bytes) :=
  (lsccWrites.filter fun kv => isCollectionConfigKey kv.key).map fun kv =>
    (encodeCompositeKey lsccNamespace kv.key committingBlock, kv.value)

def DB.handleStateUpdates (d : DB) (lsccWrites : List (KVWrite Bytes)) (commitHeight : UInt64) : DB :=
  ⟨(prepareDBBatch lsccWrites commitHeight).foldl (fun entries entry => OrderedStore.put entry.1 entry.2 entries)
    d.entries⟩

structure CollectionConfigInfo (α : Type) where
  collectionConfig : α
  committingBlockNum : UInt64
  deriving DecidableEq, Repr

section Unmarshal

-- `proto.Unmarshal` into a `CollectionConfigPackage`, with its errors
variable {α : Type} (unmarshal : Bytes → Except String α)

def compositeKVToCollectionConfig (compositeKV : CompositeKV) : Except String (CollectionConfigInfo α) := do
  let conf ← unmarshal compositeKV.value
  return ⟨conf, compositeKV.compositeKey.blockNum⟩

def DB.mostRecentCollectionConfigBelow (d : DB) (blockNum : UInt64) (chaincodeName : Bytes) :
    Except String (Option (CollectionConfigInfo α)) := do
  match ← d.mostRecentEntryBelow blockNum lsccNamespace (constructCollectionConfigKey chaincodeName) with
  | none => return none
  | some compositeKV => some <$> compositeKVToCollectionConfig unmarshal compositeKV

def DB.collectionConfigAt (d : DB) (height : UInt64) (blockNum : UInt64) (chaincodeName : Bytes) :
    Except String (Option (CollectionConfigInfo α)) :=
  let maxCommittedBlockNum := height - 1
  if maxCommittedBlockNum < blockNum then
    .error s!"The maximum block number committed [{maxCommittedBlockNum}] is less than the requested block number [{blockNum}]"
  else do
    match ← d.entryAt blockNum lsccNamespace (constructCollectionConfigKey chaincodeName) with
    | none => return none
    | some compositeKV => some <$> compositeKVToCollectionConfig unmarshal compositeKV

variable {unmarshal}

theorem mostRecentCollectionConfigBelow_of_entry {d : DB} {blockNum : UInt64} {chaincodeName : Bytes}
    {compositeKV : CompositeKV}
    (met : d.mostRecentEntryBelow blockNum lsccNamespace (constructCollectionConfigKey chaincodeName) =
      .ok (some compositeKV))
    {package : α} (decoded : unmarshal compositeKV.value = .ok package) :
    d.mostRecentCollectionConfigBelow unmarshal blockNum chaincodeName =
      .ok (some ⟨package, compositeKV.compositeKey.blockNum⟩) := by
  simp only [DB.mostRecentCollectionConfigBelow, met, compositeKVToCollectionConfig, decoded, bind, Except.bind,
    pure, Except.pure]
  rfl

theorem mostRecentCollectionConfigBelow_of_none {d : DB} {blockNum : UInt64} {chaincodeName : Bytes}
    (absent : d.mostRecentEntryBelow blockNum lsccNamespace (constructCollectionConfigKey chaincodeName) = .ok none) :
    d.mostRecentCollectionConfigBelow unmarshal blockNum chaincodeName = .ok none := by
  simp only [DB.mostRecentCollectionConfigBelow, absent, bind, Except.bind, pure, Except.pure]

end Unmarshal

def onePackageBytes : Bytes := [0x0a, 0x00]

def otherChaincodeHistory : DB :=
  (⟨[]⟩ : DB).handleStateUpdates [⟨constructCollectionConfigKey [0x62], false, onePackageBytes⟩] 5

/-- Asked for the configuration of chaincode `a` below block 10, the retriever returns the one of
`b`, whatever the package decodes to: the scan from the key of `a` at block 9 has no upper bound
and meets the entry of `b`. -/
theorem mostRecentCollectionConfigBelow_returns_other_chaincode {α : Type} (unmarshal : Bytes → Except String α)
    {package : α} (decoded : unmarshal onePackageBytes = .ok package) :
    otherChaincodeHistory.mostRecentCollectionConfigBelow unmarshal 10 [0x61] = .ok (some ⟨package, 5⟩) := by
  have met : otherChaincodeHistory.mostRecentEntryBelow 10 lsccNamespace (constructCollectionConfigKey [0x61]) =
      .ok (some ⟨⟨lsccNamespace, constructCollectionConfigKey [0x62], 5⟩, onePackageBytes⟩) := by
    decide +kernel
  exact mostRecentCollectionConfigBelow_of_entry met decoded

theorem mostRecentCollectionConfigBelow_returns_other_chaincode_bytes :
    (Except.ok onePackageBytes : Except String Bytes) = .ok onePackageBytes ∧
      otherChaincodeHistory.mostRecentCollectionConfigBelow (fun b => (.ok b : Except String Bytes)) 10 [0x61] =
        .ok (some ⟨onePackageBytes, 5⟩) :=
  ⟨rfl, mostRecentCollectionConfigBelow_returns_other_chaincode (fun b => .ok b) rfl⟩

end Fabric.Confighistory
