import Fabric.Ledger.PvtdataStore

/-! `kvledger/txmgmt/pvtstatepurgemgmt`: how private values and the hashes of private keys leave
the state when their block-to-live runs out. Each commit records, for the private keys and key
hashes it writes, the block at which they expire (`buildExpirySchedule`, kept by the expiry
keeper). Before that block is committed, the purge manager picks the scheduled keys that no later
block rewrote (`prepareWorkingsetFor`), and the commit of the block deletes them unless it writes
them itself (`DeleteExpiredAndUpdateBookkeeping`). `LockBasedTxMgr.Commit` drives the calls. -/

namespace Fabric.Pvtstatepurgemgmt

open Rwset Statedb Historydb Privacyenabledstate Pvtdatapolicy

/-- `KeyAndHash`; the key is empty for a key hash written without its private value. -/
structure KeyAndHash where
  key : Bytes
  hash : Bytes
  deriving DecidableEq, Repr

/-- `PvtdataKeys`, flattened to the namespace, collection, key and key hash of each entry. -/
abbrev PvtdataKeys := List (String × String × KeyAndHash)

structure ExpiryInfoKey where
  committingBlk : Nat
  expiryBlk : Nat
  deriving DecidableEq, Repr

abbrev ExpiryInfo := ExpiryInfoKey × PvtdataKeys

def isDelete (versionedValue : VersionedValue) : Bool := versionedValue.value.isNone

def neverExpires (expiryBlk : Nat) : Bool := Pvtdatastorage.neverExpires expiryBlk

def add (btlPolicy : BTLPolicy) (scheduleEntries : List ExpiryInfo) (ns coll : String)
    (key keyHash : Bytes) (versionedValue : VersionedValue) : Except String (List ExpiryInfo) := do
  let committingBlk := versionedValue.version.blockNum
  let expiryBlk ← btlPolicy.getExpiringBlock ns coll committingBlk
  if isDelete versionedValue || neverExpires expiryBlk then pure scheduleEntries
  else
    let expinfoKey : ExpiryInfoKey := ⟨committingBlk, expiryBlk⟩
    pure (scheduleEntries.setKey expinfoKey
      ((scheduleEntries.lookup expinfoKey).getD [] ++ [(ns, coll, ⟨key, keyHash⟩)]))

/-- `buildExpirySchedule`: the private keys, each with its key hash, then the key hashes that no
private key of the batch accounts for. -/
def buildExpirySchedule (btlPolicy : BTLPolicy) (hashing : Hashing)
    (pvtUpdates hashedUpdates : List (CollKey × VersionedValue)) :
    Except String (List ExpiryInfo) := do
  let (builder, hashedUpdateKeys) ← pvtUpdates.foldlM
    (fun (acc : List ExpiryInfo × List (CollKey × VersionedValue)) pvtUpdate => do
      let keyHash := hashing.computeStringHash pvtUpdate.1.2.2
      let builder ← add btlPolicy acc.1 pvtUpdate.1.1 pvtUpdate.1.2.1 pvtUpdate.1.2.2 keyHash
        pvtUpdate.2
      pure (builder, acc.2.filter fun hashedUpdate =>
        hashedUpdate.1 ≠ (pvtUpdate.1.1, pvtUpdate.1.2.1, keyHash)))
    ([], hashedUpdates)
  hashedUpdateKeys.foldlM (fun builder hashedUpdate =>
    add btlPolicy builder hashedUpdate.1.1 hashedUpdate.1.2.1 [] hashedUpdate.1.2.2 hashedUpdate.2)
    builder

abbrev ExpiryKeeper := List ExpiryInfo

/-- `updateBookkeeping`: one batch that puts the new entries, then deletes the cleared ones. -/
def updateBookkeeping (expKeeper : ExpiryKeeper) (toTrack : List ExpiryInfo)
    (toClear : List ExpiryInfoKey) : ExpiryKeeper :=
  (toTrack.foldl (fun keeper expinfo => keeper.setKey expinfo.1 expinfo.2) expKeeper).filter
    fun entry => !toClear.contains entry.1

/-- `retrieve`: the entries of the keys expiring at the block. -/
def retrieve (expKeeper : ExpiryKeeper) (expiringAtBlkNum : Nat) : List ExpiryInfo :=
  expKeeper.filter fun entry => entry.1.expiryBlk = expiringAtBlkNum

structure KeyAndVersion where
  key : Bytes
  committingBlock : Nat
  purgeKeyOnly : Bool
  deriving DecidableEq, Repr

/-- `workingset`; its map of the keys to purge is a list keyed by hashed composite key. -/
structure Workingset where
  toPurge : List (CollKey × KeyAndVersion)
  toClearFromSchedule : List ExpiryInfoKey
  expiringBlk : Nat

def transformToExpiryInfoMap (expiryInfo : List ExpiryInfo) : List (CollKey × KeyAndVersion) :=
  expiryInfo.flatMap fun expinfo => expinfo.2.map fun pvtdataKey =>
    ((pvtdataKey.1, pvtdataKey.2.1, pvtdataKey.2.2.hash),
      ⟨pvtdataKey.2.2.key, expinfo.1.committingBlk, false⟩)

def sameVersion (version : Option Height) (blockNum : Nat) : Bool :=
  match version with
  | some version => version.blockNum = blockNum
  | none => false

def sameVersionFromVal (vv : Option VersionedValue) (blockNum : Nat) : Bool :=
  match vv with
  | some vv => sameVersion (some vv.version) blockNum
  | none => false

def evaluate (db : DB) (entry : CollKey × KeyAndVersion) : Option (CollKey × KeyAndVersion) :=
  if sameVersion (db.getKeyHashVersion entry.1.1 entry.1.2.1 entry.1.2.2) entry.2.committingBlock then
    some entry
  else if !entry.2.key.isEmpty &&
      sameVersionFromVal (db.getPrivateData entry.1.1 entry.1.2.1 entry.2.key)
        entry.2.committingBlock then
    some (entry.1, { entry.2 with purgeKeyOnly := true })
  else none

def prepareWorkingsetFor (db : DB) (expKeeper : ExpiryKeeper) (expiringAtBlk : Nat) : Workingset :=
  let toPurge := transformToExpiryInfoMap (retrieve expKeeper expiringAtBlk)
  ⟨toPurge.filterMap (evaluate db),
    toPurge.map fun entry => ⟨entry.2.committingBlock, expiringAtBlk⟩, expiringAtBlk⟩

def addPurge (expiringTxVersion : Height) (batch : UpdateBatch) (entry : CollKey × KeyAndVersion) :
    UpdateBatch :=
  let ns := entry.1.1
  let coll := entry.1.2.1
  let hashUpdated := batch.hashUpdates.any fun update => update.1 = entry.1
  let pvtKeyUpdated := batch.pvtUpdates.any fun update => update.1 = (ns, coll, entry.2.key)
  let batch :=
    if !hashUpdated && !entry.2.purgeKeyOnly then
      { batch with hashUpdates := batch.hashUpdates.setKey entry.1 ⟨none, expiringTxVersion⟩ }
    else batch
  if !entry.2.key.isEmpty && !pvtKeyUpdated then
    { batch with pvtUpdates := batch.pvtUpdates.setKey (ns, coll, entry.2.key) ⟨none, expiringTxVersion⟩ }
  else batch

def deleteExpiredAndUpdateBookkeeping (btlPolicy : BTLPolicy) (hashing : Hashing)
    (workingset : Workingset) (expKeeper : ExpiryKeeper) (batch : UpdateBatch) :
    Except String (UpdateBatch × ExpiryKeeper) := do
  let listExpiryInfo ← buildExpirySchedule btlPolicy hashing batch.pvtUpdates batch.hashUpdates
  let batch := workingset.toPurge.foldl (addPurge ⟨workingset.expiringBlk, maxUint64⟩) batch
  pure (batch, updateBookkeeping expKeeper listExpiryInfo [])

def blockCommitDone (workingset : Workingset) (expKeeper : ExpiryKeeper) : ExpiryKeeper :=
  updateBookkeeping expKeeper [] workingset.toClearFromSchedule

end Fabric.Pvtstatepurgemgmt

namespace Fabric.Lockbasedtxmgr

open Rwset Statedb Historydb Privacyenabledstate Pvtdatapolicy Pvtstatepurgemgmt

structure TxMgr where
  db : DB
  expKeeper : ExpiryKeeper
  workingset : Option Workingset

def TxMgr.empty : TxMgr := ⟨⟨[], []⟩, [], none⟩

def TxMgr.commit (btlPolicy : BTLPolicy) (hashing : Hashing) (txmgr : TxMgr) (blockNum : Nat)
    (batch : UpdateBatch) : Except String TxMgr := do
  let workingset := txmgr.workingset.getD (prepareWorkingsetFor txmgr.db txmgr.expKeeper blockNum)
  let (batch, expKeeper) ←
    deleteExpiredAndUpdateBookkeeping btlPolicy hashing workingset txmgr.expKeeper batch
  let db := txmgr.db.applyPrivacyAwareUpdates batch
  let expKeeper := blockCommitDone workingset expKeeper
  pure ⟨db, expKeeper, some (prepareWorkingsetFor db expKeeper (blockNum + 1))⟩

inductive CommitError where
  | pvtdataHashMismatch (err : ErrPvtdataHashMissmatch)
  | btlPolicy (msg : String)
  deriving DecidableEq, Repr

def TxMgr.validateAndCommit (btlPolicy : BTLPolicy) (hashing : Hashing) (txmgr : TxMgr)
    (block : Block) (pvtdata : List TxPvtData) : Except CommitError TxMgr := do
  let batch ← (prepareBlock hashing block pvtdata).mapError .pvtdataHashMismatch
  (txmgr.commit btlPolicy hashing block.number.toNat batch).mapError .btlPolicy

def TxMgr.commitBlocks (btlPolicy : BTLPolicy) (hashing : Hashing) (txmgr : TxMgr)
    (blocks : List (Block × List TxPvtData)) : Except CommitError TxMgr :=
  blocks.foldlM (fun txmgr block => txmgr.validateAndCommit btlPolicy hashing block.1 block.2) txmgr

def secretDelete : CollPvtRwSet := ⟨"secret", [⟨[0x6b], true, []⟩]⟩

def secretDeleteTx : Transaction :=
  ⟨.endorserTransaction, "tx0", 0, ⟨[⟨"mycc", [], [], [],
    [⟨"secret", [], [⟨sampleHashing.computeStringHash [0x6b], true, []⟩],
      sampleHashing.computeHash secretDelete⟩]⟩]⟩⟩

def oneBlockToLive : BTLPolicy := lsccBasedBTLPolicy fun _ _ => .ok 1

def emptyBlock (number : UInt64) : Block := ⟨number, [], []⟩

def expiryRun (block1 : List Transaction) (pvtdata : List TxPvtData) : Except CommitError TxMgr :=
  TxMgr.empty.commitBlocks oneBlockToLive sampleHashing
    [(emptyBlock 0, []), (⟨1, block1, block1.map fun _ => .valid⟩, pvtdata), (emptyBlock 2, []),
      (emptyBlock 3, [])]

/-- Block 1 holds a transaction that deletes `k`, whose private data this peer has, and then one
that writes `k`, whose private data it misses. The key hash the second writes expires at block 3,
but it is still in the state after block 3: the private delete took the key hash out of the
expiry schedule. Without the delete the key hash is purged at block 3. -/
theorem deleted_then_rewritten_hash_never_expires :
    oneBlockToLive.getExpiringBlock "mycc" "secret" 1 = .ok 3 ∧
      (expiryRun [secretDeleteTx, secretWriteTx [5]] [⟨0, [⟨"mycc", [secretDelete]⟩]⟩]).map
          (fun txmgr => txmgr.db.getKeyHashVersion "mycc" "secret"
            (sampleHashing.computeStringHash [0x6b])) =
        .ok (some ⟨1, 1⟩) ∧
      (expiryRun [secretWriteTx [5]] []).map
          (fun txmgr => txmgr.db.getKeyHashVersion "mycc" "secret"
            (sampleHashing.computeStringHash [0x6b])) =
        .ok none :=
  ⟨by decide, by decide +kernel, by decide +kernel⟩

end Fabric.Lockbasedtxmgr
