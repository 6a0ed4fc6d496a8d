import Fabric.Ledger.PvtState
import Fabric.Lib.OrderedStore

/-! `core/ledger/pvtdatastorage`, the store of the private write sets of committed blocks, and
`core/ledger/ledgerstorage`, which commits a block to the block store and its private data to
this store in two phases: `Prepare` the private data, add the block, `Commit`. A crash between
these writes leaves the two stores at different heights, and `init` reconciles them when the
ledger is opened again.

The store's database is a sorted key-value store (`OrderedStore`). The purger, which the source
runs on a goroutine of its own after some commits, is an operation of its own here. -/

namespace Fabric.Pvtdatapolicy

def maxUint64 : Nat := 2 ^ 64 - 1

def defaultBTL : Nat := maxUint64

/-- `BTLPolicy`, by the block at which the private data of a collection committed at a block
expires. -/
structure BTLPolicy where
  getExpiringBlock : String → String → Nat → Except String Nat

/-- `LSCCBasedBTLPolicy.GetExpiringBlock` for a block-to-live `btl`, in uint64 arithmetic. -/
def expiringBlock (btl committingBlock : Nat) : Nat :=
  let expiryBlk := (committingBlock + btl + 1) % 2 ^ 64
  -- `committingBlk + btl` overflows uint64-max
  if expiryBlk ≤ committingBlock then maxUint64 else expiryBlk

/-- `LSCCBasedBTLPolicy`, from the `BlockToLive` of each collection's configuration. -/
def lsccBasedBTLPolicy (blockToLive : String → String → Except String Nat) : BTLPolicy where
  getExpiringBlock ns coll committingBlock := do
    let btlConfigured ← blockToLive ns coll
    let btl := if btlConfigured > 0 then btlConfigured else defaultBTL
    pure (expiringBlock btl committingBlock)

end Fabric.Pvtdatapolicy

namespace Fabric.Pvtdatastorage

open Privacyenabledstate Pvtdatapolicy

/-- `dataKey`. Its encoding sorts by block, transaction, namespace and collection. -/
structure DataKey where
  blkNum : Nat
  txNum : Nat
  ns : String
  coll : String
  deriving DecidableEq, Repr

@[reducible] def DataKey.lt (a b : DataKey) : Prop :=
  a.blkNum < b.blkNum ∨ a.blkNum = b.blkNum ∧ (a.txNum < b.txNum ∨ a.txNum = b.txNum ∧
    (a.ns < b.ns ∨ a.ns = b.ns ∧ a.coll < b.coll))

instance instLTDataKey : LT DataKey := ⟨DataKey.lt⟩

instance instDecidableLtDataKey : DecidableRel (fun a b : DataKey => a < b) :=
  fun a b => inferInstanceAs (Decidable (DataKey.lt a b))

/-- `expiryKey`, sorted by the expiring block first. -/
structure ExpiryKey where
  expiringBlk : Nat
  committingBlk : Nat
  deriving DecidableEq, Repr

@[reducible] def ExpiryKey.lt (a b : ExpiryKey) : Prop :=
  a.expiringBlk < b.expiringBlk ∨ a.expiringBlk = b.expiringBlk ∧ a.committingBlk < b.committingBlk

instance instLTExpiryKey : LT ExpiryKey := ⟨ExpiryKey.lt⟩

instance instDecidableLtExpiryKey : DecidableRel (fun a b : ExpiryKey => a < b) :=
  fun a b => inferInstanceAs (Decidable (ExpiryKey.lt a b))

/-- `ExpiryData`: the namespace, collection and transaction of each data key that an expiry entry
schedules for purging. -/
abbrev ExpiryData := List (String × String × Nat)

abbrev PvtNsCollFilter := List (String × String)

structure Disk where
  data : List (DataKey × CollPvtRwSet)
  expiry : List (ExpiryKey × ExpiryData)
  pendingCommit : Bool
  lastCommittedBlk : Option Nat

def emptyDisk : Disk := ⟨[], [], false, none⟩

inductive StoreError where
  | illegalCall (msg : String)
  | illegalArgs (msg : String)
  | outOfRange (msg : String)
  | btlPolicy (msg : String)
  deriving DecidableEq, Repr

structure Store where
  disk : Disk
  btlPolicy : BTLPolicy
  isEmpty : Bool
  lastCommittedBlock : Nat
  batchPending : Bool

def Disk.getLastCommittedBlockNum (disk : Disk) : Bool × Nat :=
  match disk.lastCommittedBlk with
  | none => (true, 0)
  | some blockNum => (false, blockNum)

def openStore (disk : Disk) (btlPolicy : BTLPolicy) : Store :=
  ⟨disk, btlPolicy, disk.getLastCommittedBlockNum.1, disk.getLastCommittedBlockNum.2,
    disk.pendingCommit⟩

def Store.nextBlockNum (s : Store) : Nat :=
  if s.isEmpty then 0 else s.lastCommittedBlock + 1

def Store.lastCommittedBlockHeight (s : Store) : Nat :=
  if s.isEmpty then 0 else s.lastCommittedBlock + 1

def prepareDataEntries (blockNum : Nat) (pvtData : List TxPvtData) :
    List (DataKey × CollPvtRwSet) :=
  pvtData.flatMap fun txPvtdata => txPvtdata.writeSet.flatMap fun nsPvtdata =>
    nsPvtdata.collPvtRwSets.map fun collPvtdata =>
      (⟨blockNum, txPvtdata.seqInBlock, nsPvtdata.nameSpace, collPvtdata.collectionName⟩,
        collPvtdata)

def neverExpires (expiringBlkNum : Nat) : Bool := expiringBlkNum = maxUint64

def prepareExpiryEntries (committingBlk : Nat) (dataEntries : List (DataKey × CollPvtRwSet))
    (btlPolicy : BTLPolicy) : Except String (List (ExpiryKey × ExpiryData)) := do
  let mapByExpiringBlk ← dataEntries.foldlM (fun (mapByExpiringBlk : List (Nat × ExpiryData))
      dataEntry => do
    let key := dataEntry.1
    let expiringBlk ← btlPolicy.getExpiringBlock key.ns key.coll key.blkNum
    if neverExpires expiringBlk then pure mapByExpiringBlk
    else
      pure (mapByExpiringBlk.setKey expiringBlk
        ((mapByExpiringBlk.lookup expiringBlk).getD [] ++ [(key.ns, key.coll, key.txNum)]))) []
  pure (mapByExpiringBlk.map fun entry => (⟨entry.1, committingBlk⟩, entry.2))

def prepareStoreEntries (blockNum : Nat) (pvtData : List TxPvtData) (btlPolicy : BTLPolicy) :
    Except String (List (DataKey × CollPvtRwSet) × List (ExpiryKey × ExpiryData)) := do
  let dataEntries := prepareDataEntries blockNum pvtData
  let expiryEntries ← prepareExpiryEntries blockNum dataEntries btlPolicy
  pure (dataEntries, expiryEntries)

def Disk.writePrepared (disk : Disk) (dataEntries : List (DataKey × CollPvtRwSet))
    (expiryEntries : List (ExpiryKey × ExpiryData)) : Disk :=
  { disk with
    data := dataEntries.foldl (fun data entry => OrderedStore.put entry.1 entry.2 data) disk.data
    expiry := expiryEntries.foldl (fun expiry entry => OrderedStore.put entry.1 entry.2 expiry)
      disk.expiry
    pendingCommit := true }

def pendingBatchExists : String :=
  "A pending batch exists as as result of last invoke to \"Prepare\" call.\n\t\t\t Invoke \"Commit\" or \"Rollback\" on the pending batch before invoking \"Prepare\" function"

def Store.prepare (s : Store) (blockNum : Nat) (pvtData : List TxPvtData) :
    Except StoreError Store := do
  if s.batchPending then throw (.illegalCall pendingBatchExists)
  let expectedBlockNum := s.nextBlockNum
  if expectedBlockNum ≠ blockNum then
    throw (.illegalArgs s!"Expected block number={expectedBlockNum}, recived block number={blockNum}")
  let (dataEntries, expiryEntries) ←
    (prepareStoreEntries blockNum pvtData s.btlPolicy).mapError .btlPolicy
  pure { s with disk := s.disk.writePrepared dataEntries expiryEntries, batchPending := true }

def Store.commit (s : Store) : Except StoreError Store :=
  if !s.batchPending then .error (.illegalCall "No pending batch to commit")
  else
    let committingBlockNum := s.nextBlockNum
    .ok { s with
      disk := { s.disk with pendingCommit := false, lastCommittedBlk := some committingBlockNum }
      batchPending := false
      isEmpty := false
      lastCommittedBlock := committingBlockNum }

def Store.rollback (s : Store) : Except StoreError Store :=
  if !s.batchPending then .error (.illegalCall "No pending batch to rollback")
  else .ok { s with batchPending := false }

def Store.initLastCommittedBlock (s : Store) (blockNum : Nat) : Except StoreError Store :=
  if !(s.isEmpty && !s.batchPending) then
    .error (.illegalCall
      "The private data store is not empty. InitLastCommittedBlock() function call is not allowed")
  else
    .ok { s with
      disk := { s.disk with lastCommittedBlk := some blockNum }
      isEmpty := false
      lastCommittedBlock := blockNum }

def getDataKeysForRangeScanByBlockNum (blockNum : Nat) : DataKey × DataKey :=
  (⟨blockNum, 0, "", ""⟩, ⟨blockNum + 1, 0, "", ""⟩)

def isExpired (key : DataKey) (btl : BTLPolicy) (latestBlkNum : Nat) : Except String Bool := do
  let expiringBlk ← btl.getExpiringBlock key.ns key.coll key.blkNum
  pure (decide (latestBlkNum ≥ expiringBlk))

def passesFilter (key : DataKey) (filter : Option PvtNsCollFilter) : Bool :=
  match filter with
  | none => true
  | some filter => filter.contains (key.ns, key.coll)

structure TxPvtdataAssembler where
  txNum : Nat
  txWset : List NsPvtRwSet
  currentNsWSet : Option NsPvtRwSet

def TxPvtdataAssembler.new (txNum : Nat) : TxPvtdataAssembler := ⟨txNum, [], none⟩

def TxPvtdataAssembler.add (a : TxPvtdataAssembler) (ns : String) (collPvtWset : CollPvtRwSet) :
    TxPvtdataAssembler :=
  match a.currentNsWSet with
  | none => { a with currentNsWSet := some ⟨ns, [collPvtWset]⟩ }
  | some current =>
      if current.nameSpace ≠ ns then
        { a with txWset := a.txWset ++ [current], currentNsWSet := some ⟨ns, [collPvtWset]⟩ }
      else
        { a with currentNsWSet := some { current with
            collPvtRwSets := current.collPvtRwSets ++ [collPvtWset] } }

def TxPvtdataAssembler.getTxPvtdata (a : TxPvtdataAssembler) : TxPvtData :=
  ⟨a.txNum, a.txWset ++ a.currentNsWSet.toList⟩

def assembleBlockPvtdata (blockPvtdata : List TxPvtData) :
    Option TxPvtdataAssembler → List (DataKey × CollPvtRwSet) → List TxPvtData
  | none, [] => blockPvtdata
  | some assembler, [] => blockPvtdata ++ [assembler.getTxPvtdata]
  | current, (key, value) :: entries =>
      let (blockPvtdata, assembler) :=
        match current with
        | none => (blockPvtdata, TxPvtdataAssembler.new key.txNum)
        | some assembler =>
            if key.txNum ≠ assembler.txNum then
              (blockPvtdata ++ [assembler.getTxPvtdata], TxPvtdataAssembler.new key.txNum)
            else (blockPvtdata, assembler)
      assembleBlockPvtdata blockPvtdata (some (assembler.add key.ns value)) entries

def Store.getPvtDataByBlockNum (s : Store) (blockNum : Nat) (filter : Option PvtNsCollFilter) :
    Except StoreError (List TxPvtData) := do
  if s.isEmpty then throw (.outOfRange "The store is empty")
  let lastCommittedBlock := s.lastCommittedBlock
  if blockNum > lastCommittedBlock then
    throw (.outOfRange s!"Last committed block={lastCommittedBlock}, block requested={blockNum}")
  let (startKey, endKey) := getDataKeysForRangeScanByBlockNum blockNum
  let kept ← (OrderedStore.scan startKey (some endKey) s.disk.data).filterM fun entry => do
    let expired ← (isExpired entry.1 s.btlPolicy lastCommittedBlock).mapError .btlPolicy
    pure (!expired && passesFilter entry.1 filter)
  pure (assembleBlockPvtdata [] none kept)

def deriveDataKeys (entry : ExpiryKey × ExpiryData) : List DataKey :=
  entry.2.map fun scheduled => ⟨entry.1.committingBlk, scheduled.2.2, scheduled.1, scheduled.2.1⟩

def getExpiryKeysForRangeScan (minBlkNum maxBlkNum : Nat) : ExpiryKey × ExpiryKey :=
  (⟨minBlkNum, 0⟩, ⟨maxBlkNum + 1, 0⟩)

def Disk.purgeExpiredData (disk : Disk) (minBlkNum maxBlkNum : Nat) : Disk :=
  let (startKey, endKey) := getExpiryKeysForRangeScan minBlkNum maxBlkNum
  let expiryEntries := OrderedStore.scan startKey (some endKey) disk.expiry
  let dataKeys := expiryEntries.flatMap deriveDataKeys
  { disk with
    data := disk.data.filter fun entry => !dataKeys.contains entry.1
    expiry := disk.expiry.filter fun entry => !(expiryEntries.map Prod.fst).contains entry.1 }

def Disk.height (disk : Disk) : Nat :=
  match disk.lastCommittedBlk with
  | none => 0
  | some blockNum => blockNum + 1

def Store.Mirrors (s : Store) : Prop :=
  (s.isEmpty, s.lastCommittedBlock) = s.disk.getLastCommittedBlockNum

theorem openStore_mirrors (disk : Disk) (btlPolicy : BTLPolicy) :
    (openStore disk btlPolicy).Mirrors := rfl

theorem nextBlockNum_eq_lastCommittedBlockHeight (s : Store) :
    s.nextBlockNum = s.lastCommittedBlockHeight := rfl

theorem lastCommittedBlockHeight_of_mirrors {s : Store} (mirrors : s.Mirrors) :
    s.lastCommittedBlockHeight = s.disk.height := by
  unfold Store.Mirrors Disk.getLastCommittedBlockNum at mirrors
  unfold Store.lastCommittedBlockHeight Disk.height
  split at mirrors
  · simp_all
  · simp_all

@[simp] theorem writePrepared_lastCommittedBlk (disk : Disk) dataEntries expiryEntries :
    (disk.writePrepared dataEntries expiryEntries).lastCommittedBlk = disk.lastCommittedBlk := rfl

@[simp] theorem writePrepared_pendingCommit (disk : Disk) dataEntries expiryEntries :
    (disk.writePrepared dataEntries expiryEntries).pendingCommit = true := rfl

theorem prepare_eq_ok {s s' : Store} {blockNum : Nat} {pvtData : List TxPvtData}
    (prepared : s.prepare blockNum pvtData = .ok s') :
    s.batchPending = false ∧ s.nextBlockNum = blockNum ∧
      ∃ dataEntries expiryEntries,
        prepareStoreEntries blockNum pvtData s.btlPolicy = .ok (dataEntries, expiryEntries) ∧
        s' = { s with disk := s.disk.writePrepared dataEntries expiryEntries, batchPending := true } := by
  unfold Store.prepare at prepared
  cases pending : s.batchPending
  · simp only [pending] at prepared
    by_cases expected : s.nextBlockNum = blockNum
    · simp only [expected] at prepared
      cases entries : prepareStoreEntries blockNum pvtData s.btlPolicy with
      | error err => simp [entries, Except.mapError] at prepared
      | ok entries' =>
          simp only [entries, Except.mapError] at prepared
          refine ⟨rfl, expected, entries'.1, entries'.2, rfl, ?_⟩
          simpa using prepared.symm
    · simp [expected] at prepared
  · simp [pending] at prepared

theorem prepare_mirrors {s s' : Store} {blockNum : Nat} {pvtData : List TxPvtData}
    (mirrors : s.Mirrors) (prepared : s.prepare blockNum pvtData = .ok s') : s'.Mirrors := by
  obtain ⟨-, -, dataEntries, expiryEntries, -, rfl⟩ := prepare_eq_ok prepared
  exact mirrors

theorem commit_eq_ok {s s' : Store} :
    s.commit = .ok s' ↔ s.batchPending = true ∧
      s' = { s with
        disk := { s.disk with pendingCommit := false, lastCommittedBlk := some s.nextBlockNum }
        batchPending := false
        isEmpty := false
        lastCommittedBlock := s.nextBlockNum } := by
  unfold Store.commit
  cases s.batchPending
  · simp
  · simp [eq_comm]

theorem commit_mirrors {s s' : Store} (committed : s.commit = .ok s') : s'.Mirrors := by
  obtain ⟨-, rfl⟩ := commit_eq_ok.mp committed
  rfl

theorem rollback_eq_ok {s s' : Store} :
    s.rollback = .ok s' ↔ s.batchPending = true ∧ s' = { s with batchPending := false } := by
  unfold Store.rollback
  cases s.batchPending
  · simp
  · simp [eq_comm]

theorem rollback_disk {s s' : Store} (rolledBack : s.rollback = .ok s') : s'.disk = s.disk := by
  obtain ⟨-, rfl⟩ := rollback_eq_ok.mp rolledBack
  rfl

theorem initLastCommittedBlock_eq_error {s : Store} {blockNum : Nat}
    (pending : s.batchPending = true) :
    s.initLastCommittedBlock blockNum = .error (.illegalCall
      "The private data store is not empty. InitLastCommittedBlock() function call is not allowed") := by
  simp [Store.initLastCommittedBlock, pending]

section Writes

variable {κ ν : Type} [LT κ] [DecidableRel (fun a b : κ => a < b)] [DecidableEq κ]

theorem mem_foldl_put_of_key_not_mem {entry : κ × ν} :
    ∀ {entries written : List (κ × ν)}, entry ∈ entries → entry.1 ∉ written.map Prod.fst →
      entry ∈ written.foldl (fun entries write => OrderedStore.put write.1 write.2 entries) entries
  | _, [], member, _ => member
  | _, write :: rest, member, notWritten => by
      simp only [List.map_cons, List.mem_cons, not_or] at notWritten
      rw [List.foldl_cons]
      exact mem_foldl_put_of_key_not_mem (OrderedStore.mem_put_of_ne member notWritten.1)
        notWritten.2

theorem key_mem_foldl_put {key : κ} :
    ∀ {entries written : List (κ × ν)},
      ((∃ value, (key, value) ∈ entries) ∨ key ∈ written.map Prod.fst) →
      ∃ value, (key, value) ∈
        written.foldl (fun entries write => OrderedStore.put write.1 write.2 entries) entries
  | _, [], present => by simpa using present
  | _, write :: rest, present => by
      rw [List.foldl_cons]
      apply key_mem_foldl_put
      by_cases same : key = write.1
      · subst same
        exact .inl ⟨write.2, OrderedStore.mem_put_self _ _ _⟩
      · simp only [List.map_cons, List.mem_cons, same, false_or] at present
        rcases present with ⟨value, member⟩ | later
        · exact .inl ⟨value, OrderedStore.mem_put_of_ne member same⟩
        · exact .inr later

end Writes

theorem prepare_data {s s' : Store} {blockNum : Nat} {pvtData : List TxPvtData}
    (prepared : s.prepare blockNum pvtData = .ok s') :
    s'.disk.data = (prepareDataEntries blockNum pvtData).foldl
      (fun data entry => OrderedStore.put entry.1 entry.2 data) s.disk.data := by
  obtain ⟨-, -, dataEntries, expiryEntries, entries, rfl⟩ := prepare_eq_ok prepared
  simp only [prepareStoreEntries, Except.bind_eq_ok_iff, Except.pure_eq_ok_iff] at entries
  obtain ⟨_, -, same⟩ := entries
  rw [← (Prod.mk.inj same).1]
  rfl

/-- After `Prepare`, `Rollback`, a second `Prepare` of the same block and `Commit`, every key
the rolled-back batch wrote is still on disk unless the second batch writes it too. -/
theorem retry_keeps_rolled_back_keys {s s₁ s₂ s₃ s₄ : Store} {blockNum : Nat}
    {first second : List TxPvtData} (prepared : s.prepare blockNum first = .ok s₁)
    (rolledBack : s₁.rollback = .ok s₂) (retried : s₂.prepare blockNum second = .ok s₃)
    (committed : s₃.commit = .ok s₄) {key : DataKey}
    (written : key ∈ (prepareDataEntries blockNum first).map Prod.fst)
    (notRewritten : key ∉ (prepareDataEntries blockNum second).map Prod.fst) :
    ∃ value, (key, value) ∈ s₄.disk.data := by
  obtain ⟨value, member⟩ : ∃ value, (key, value) ∈ s₁.disk.data := by
    rw [prepare_data prepared]
    exact key_mem_foldl_put (.inr written)
  have kept : (key, value) ∈ s₃.disk.data := by
    rw [prepare_data retried, rollback_disk rolledBack]
    exact mem_foldl_put_of_key_not_mem member notRewritten
  obtain ⟨-, rfl⟩ := commit_eq_ok.mp committed
  exact ⟨value, kept⟩

end Fabric.Pvtdatastorage

namespace Fabric.Ledgerstorage

open Historydb Privacyenabledstate Pvtdatapolicy Pvtdatastorage

structure BlockAndPvtData where
  block : Block
  blockPvtData : List TxPvtData

inductive Error where
  | pvtdataStore (err : StoreError)
  | blockStore (msg : String)
  | notExpected (msg : String)
  deriving DecidableEq, Repr

structure Store where
  blocks : List Block
  pvtdataStore : Pvtdatastorage.Store

structure Durable where
  blocks : List Block
  pvtdata : Disk

def Store.durable (s : Store) : Durable := ⟨s.blocks, s.pvtdataStore.disk⟩

def Store.addBlock (s : Store) (block : Block) : Except Error Store :=
  let height := s.blocks.length
  let number := block.number
  if block.number.toNat ≠ height then
    .error (.blockStore s!"Block number should have been {height} but was {number}")
  else .ok { s with blocks := s.blocks ++ [block] }

def Store.withPvtdataStore (s : Store) :
    Except StoreError Pvtdatastorage.Store → Store × Except Error Unit
  | .ok pvtdataStore => ({ s with pvtdataStore }, .ok ())
  | .error err => (s, .error (.pvtdataStore err))

inductive CommitStep where
  | prepare
  | addBlock
  | commit
  deriving DecidableEq, Repr

def commitSteps (writtenToPvtStore : Bool) : List CommitStep :=
  if writtenToPvtStore then [.prepare, .addBlock, .commit] else [.addBlock]

def Store.commitStep (blockAndPvtdata : BlockAndPvtData) (s : Store) :
    CommitStep → Store × Except Error Unit
  | .prepare =>
      s.withPvtdataStore
        (s.pvtdataStore.prepare blockAndPvtdata.block.number.toNat blockAndPvtdata.blockPvtData)
  | .addBlock =>
      match s.addBlock blockAndPvtdata.block with
      | .ok s => (s, .ok ())
      -- the error of `Rollback` is dropped
      | .error err =>
          ({ s with pvtdataStore := (s.pvtdataStore.rollback).toOption.getD s.pvtdataStore },
            .error err)
  | .commit => s.withPvtdataStore s.pvtdataStore.commit

def Store.runSteps (blockAndPvtdata : BlockAndPvtData) :
    Store → List CommitStep → Store × Except Error Unit
  | s, [] => (s, .ok ())
  | s, step :: steps =>
      match s.commitStep blockAndPvtdata step with
      | (s, .ok ()) => s.runSteps blockAndPvtdata steps
      | (s, .error err) => (s, .error err)

def Store.writesToPvtStore (s : Store) (blockAndPvtdata : BlockAndPvtData) : Bool :=
  decide (s.pvtdataStore.lastCommittedBlockHeight < blockAndPvtdata.block.number.toNat + 1)

def Store.commitWithPvtData (s : Store) (blockAndPvtdata : BlockAndPvtData) :
    Store × Except Error Unit :=
  s.runSteps blockAndPvtdata (commitSteps (s.writesToPvtStore blockAndPvtdata))

def Store.crashDuringCommit (s : Store) (blockAndPvtdata : BlockAndPvtData) (done : Nat) :
    Durable :=
  (s.runSteps blockAndPvtdata ((commitSteps (s.writesToPvtStore blockAndPvtdata)).take done)).1.durable

def Store.commitAll (s : Store) : List BlockAndPvtData → Store × Except Error Unit
  | [] => (s, .ok ())
  | blockAndPvtdata :: rest =>
      match s.commitWithPvtData blockAndPvtdata with
      | (s, .ok ()) => s.commitAll rest
      | (s, .error err) => (s, .error err)

def Store.initPvtdataStoreFromExistingBlockchain (s : Store) : Except Error (Store × Bool) :=
  if s.pvtdataStore.isEmpty && decide (s.blocks.length > 0) then
    match s.pvtdataStore.initLastCommittedBlock (s.blocks.length - 1) with
    | .ok pvtdataStore => .ok ({ s with pvtdataStore }, true)
    | .error err => .error (.pvtdataStore err)
  else .ok (s, false)

def Store.syncPvtdataStoreWithBlockStore (s : Store) : Except Error Store :=
  if !s.pvtdataStore.batchPending then .ok s
  else
    let blockStoreHeight := s.blocks.length
    let pvtdataStoreHeight := s.pvtdataStore.lastCommittedBlockHeight
    if blockStoreHeight = pvtdataStoreHeight then
      (s.pvtdataStore.rollback.map fun pvtdataStore => { s with pvtdataStore }).mapError .pvtdataStore
    else if blockStoreHeight = pvtdataStoreHeight + 1 then
      (s.pvtdataStore.commit.map fun pvtdataStore => { s with pvtdataStore }).mapError .pvtdataStore
    else
      .error (.notExpected
        s!"This is not expected. blockStoreHeight={blockStoreHeight}, pvtdataStoreHeight={pvtdataStoreHeight}")

def Store.init (s : Store) : Except Error Store := do
  let (s, initialized) ← s.initPvtdataStoreFromExistingBlockchain
  if initialized then pure s else s.syncPvtdataStoreWithBlockStore

def Provider.open (durable : Durable) (btlPolicy : BTLPolicy) : Except Error Store :=
  Store.init ⟨durable.blocks, openStore durable.pvtdata btlPolicy⟩

structure Synced (s : Store) : Prop where
  mirrors : s.pvtdataStore.Mirrors
  notPending : s.pvtdataStore.batchPending = false
  level : s.pvtdataStore.disk.height = s.blocks.length

structure Prepared (s : Store) : Prop where
  mirrors : s.pvtdataStore.Mirrors
  pending : s.pvtdataStore.batchPending = true
  marked : s.pvtdataStore.disk.pendingCommit = true
  level : s.pvtdataStore.disk.height = s.blocks.length

structure Added (s : Store) : Prop where
  mirrors : s.pvtdataStore.Mirrors
  pending : s.pvtdataStore.batchPending = true
  marked : s.pvtdataStore.disk.pendingCommit = true
  ahead : s.blocks.length = s.pvtdataStore.disk.height + 1

def Consistent (durable : Durable) : Prop :=
  durable.pvtdata.height = durable.blocks.length ∨
    durable.pvtdata.pendingCommit = true ∧ durable.blocks.length = durable.pvtdata.height + 1

theorem Synced.consistent {s : Store} (synced : Synced s) : Consistent s.durable := .inl synced.level

theorem Prepared.consistent {s : Store} (prepared : Prepared s) : Consistent s.durable :=
  .inl prepared.level

theorem Added.consistent {s : Store} (added : Added s) : Consistent s.durable :=
  .inr ⟨added.marked, added.ahead⟩

section Steps

variable {blockAndPvtdata : BlockAndPvtData} {s s' : Store}

theorem runSteps_cons_ok {step : CommitStep} (steps : List CommitStep)
    (stepped : s.commitStep blockAndPvtdata step = (s', .ok ())) :
    s.runSteps blockAndPvtdata (step :: steps) = s'.runSteps blockAndPvtdata steps := by
  simp [Store.runSteps, stepped]

theorem runSteps_cons_error {step : CommitStep} {err : Error} (steps : List CommitStep)
    (stepped : s.commitStep blockAndPvtdata step = (s', .error err)) :
    s.runSteps blockAndPvtdata (step :: steps) = (s', .error err) := by
  simp [Store.runSteps, stepped]

variable (number : blockAndPvtdata.block.number.toNat = s.blocks.length)
include number

theorem Synced.writesToPvtStore (synced : Synced s) : s.writesToPvtStore blockAndPvtdata = true := by
  simp [Store.writesToPvtStore, lastCommittedBlockHeight_of_mirrors synced.mirrors, synced.level,
    number]

theorem Prepared.addBlock (prepared : Prepared s) :
    ∃ s', s.commitStep blockAndPvtdata .addBlock = (s', .ok ()) ∧ Added s' ∧
      s'.blocks = s.blocks ++ [blockAndPvtdata.block] := by
  have added : s.addBlock blockAndPvtdata.block =
      .ok { s with blocks := s.blocks ++ [blockAndPvtdata.block] } := by
    simp [Store.addBlock, number]
  refine ⟨{ s with blocks := s.blocks ++ [blockAndPvtdata.block] },
    by simp [Store.commitStep, added], ?_, rfl⟩
  exact ⟨prepared.mirrors, prepared.pending, prepared.marked, by simp [prepared.level]⟩

end Steps

theorem Added.commit {s : Store} (added : Added s) (blockAndPvtdata : BlockAndPvtData) :
    ∃ s', s.commitStep blockAndPvtdata .commit = (s', .ok ()) ∧ Synced s' ∧ s'.blocks = s.blocks := by
  obtain ⟨pvtdataStore, committed⟩ : ∃ p, s.pvtdataStore.commit = .ok p :=
    ⟨_, commit_eq_ok.mpr ⟨added.pending, rfl⟩⟩
  refine ⟨{ s with pvtdataStore }, by simp [Store.commitStep, committed, Store.withPvtdataStore],
    ⟨commit_mirrors committed, ?_, ?_⟩, rfl⟩
  all_goals obtain ⟨-, rfl⟩ := commit_eq_ok.mp committed
  · rfl
  · simp [Disk.height, nextBlockNum_eq_lastCommittedBlockHeight,
    lastCommittedBlockHeight_of_mirrors added.mirrors, added.ahead]

theorem Synced.prepare {s : Store} (synced : Synced s) (blockAndPvtdata : BlockAndPvtData) :
    (∃ err, s.commitStep blockAndPvtdata .prepare = (s, .error err)) ∨
      ∃ s', s.commitStep blockAndPvtdata .prepare = (s', .ok ()) ∧ Prepared s' ∧
        s'.blocks = s.blocks := by
  unfold Store.commitStep
  cases prepared : s.pvtdataStore.prepare blockAndPvtdata.block.number.toNat
      blockAndPvtdata.blockPvtData with
  | error err => exact .inl ⟨.pvtdataStore err, rfl⟩
  | ok pvtdataStore =>
      have mirrors := prepare_mirrors synced.mirrors prepared
      obtain ⟨-, -, dataEntries, expiryEntries, -, rfl⟩ := prepare_eq_ok prepared
      refine .inr ⟨_, rfl, ⟨mirrors, rfl, rfl, ?_⟩, rfl⟩
      simpa [Disk.height] using synced.level

theorem crashDuringCommit_consistent {blockAndPvtdata : BlockAndPvtData} {s : Store}
    (synced : Synced s) (number : blockAndPvtdata.block.number.toNat = s.blocks.length)
    (done : Nat) : Consistent (s.crashDuringCommit blockAndPvtdata done) := by
  unfold Store.crashDuringCommit
  rw [synced.writesToPvtStore number]
  rcases synced.prepare blockAndPvtdata with ⟨err, refused⟩ | ⟨s₁, prepared, stage₁, blocks₁⟩
  · -- the private data store refused the batch and nothing was written
    match done with
    | 0 => exact synced.consistent
    | done + 1 =>
        simp only [commitSteps, if_true, List.take_succ_cons, runSteps_cons_error _ refused]
        exact synced.consistent
  · obtain ⟨s₂, added, stage₂, -⟩ := stage₁.addBlock (blocks₁ ▸ number)
    obtain ⟨s₃, committed, stage₃, -⟩ := stage₂.commit blockAndPvtdata
    match done with
    | 0 => exact synced.consistent
    | 1 =>
        simp only [commitSteps, if_true, List.take_succ_cons, List.take_zero]
        rw [runSteps_cons_ok _ prepared]
        exact stage₁.consistent
    | 2 =>
        simp only [commitSteps, if_true, List.take_succ_cons, List.take_zero]
        rw [runSteps_cons_ok _ prepared, runSteps_cons_ok _ added]
        exact stage₂.consistent
    | done + 3 =>
        simp only [commitSteps, if_true, List.take_succ_cons, List.take_nil]
        rw [runSteps_cons_ok _ prepared, runSteps_cons_ok _ added, runSteps_cons_ok _ committed]
        exact stage₃.consistent

theorem commitWithPvtData_synced {blockAndPvtdata : BlockAndPvtData} {s : Store}
    (synced : Synced s) (number : blockAndPvtdata.block.number.toNat = s.blocks.length) :
    Synced (s.commitWithPvtData blockAndPvtdata).1 ∧
      ((s.commitWithPvtData blockAndPvtdata).2 = .ok () →
        (s.commitWithPvtData blockAndPvtdata).1.blocks.length = s.blocks.length + 1) := by
  unfold Store.commitWithPvtData
  rw [synced.writesToPvtStore number]
  rcases synced.prepare blockAndPvtdata with ⟨err, refused⟩ | ⟨s₁, prepared, stage₁, blocks₁⟩
  · simp only [commitSteps, if_true, runSteps_cons_error _ refused, reduceCtorEq, false_imp_iff,
      and_true]
    exact synced
  · obtain ⟨s₂, added, stage₂, blocks₂⟩ := stage₁.addBlock (blocks₁ ▸ number)
    obtain ⟨s₃, committed, stage₃, blocks₃⟩ := stage₂.commit blockAndPvtdata
    simp only [commitSteps, if_true]
    rw [runSteps_cons_ok _ prepared, runSteps_cons_ok _ added, runSteps_cons_ok _ committed]
    refine ⟨stage₃, fun _ => ?_⟩
    show s₃.blocks.length = s.blocks.length + 1
    rw [blocks₃, blocks₂, blocks₁, List.length_append, List.length_singleton]

def Numbered (start : Nat) (blocks : List BlockAndPvtData) : Prop :=
  blocks.map (fun blockAndPvtdata => blockAndPvtdata.block.number.toNat) =
    List.range' start blocks.length

theorem numbered_append {start : Nat} {first second : List BlockAndPvtData}
    (numbered : Numbered start (first ++ second)) :
    Numbered start first ∧ Numbered (start + first.length) second := by
  unfold Numbered at *
  rw [List.map_append, List.length_append, ← List.range'_append, Nat.one_mul] at numbered
  exact List.append_inj numbered (by simp)

theorem numbered_cons {start : Nat} {blockAndPvtdata : BlockAndPvtData}
    {rest : List BlockAndPvtData} (numbered : Numbered start (blockAndPvtdata :: rest)) :
    blockAndPvtdata.block.number.toNat = start ∧ Numbered (start + 1) rest := by
  unfold Numbered at *
  simpa only [List.map_cons, List.length_cons, List.range'_succ, List.cons.injEq] using numbered

theorem commitAll_synced {s : Store} (synced : Synced s) :
    ∀ {blocks : List BlockAndPvtData}, Numbered s.blocks.length blocks →
      Synced (s.commitAll blocks).1 ∧
        ((s.commitAll blocks).2 = .ok () →
          (s.commitAll blocks).1.blocks.length = s.blocks.length + blocks.length)
  | [], _ => ⟨synced, fun _ => rfl⟩
  | blockAndPvtdata :: rest, numbered => by
      obtain ⟨number, numberedRest⟩ := numbered_cons numbered
      obtain ⟨synced', grown⟩ := commitWithPvtData_synced synced number
      unfold Store.commitAll
      cases result : s.commitWithPvtData blockAndPvtdata with
      | mk s' outcome =>
          rw [result] at synced' grown
          cases outcome with
          | error err => exact ⟨synced', fun failed => by cases failed⟩
          | ok u =>
              have length : s'.blocks.length = s.blocks.length + 1 := grown rfl
              obtain ⟨syncedRun, grownRun⟩ := commitAll_synced synced' (length ▸ numberedRest)
              refine ⟨syncedRun, fun ran => ?_⟩
              rw [grownRun ran, length, List.length_cons]
              omega

theorem commitAll_crash_consistent {s : Store} {committed rest : List BlockAndPvtData}
    {blockAndPvtdata : BlockAndPvtData} (synced : Synced s)
    (numbered : Numbered s.blocks.length (committed ++ blockAndPvtdata :: rest))
    (ran : (s.commitAll committed).2 = .ok ()) (done : Nat) :
    Consistent ((s.commitAll committed).1.crashDuringCommit blockAndPvtdata done) := by
  obtain ⟨numberedCommitted, numberedNext⟩ := numbered_append numbered
  obtain ⟨syncedRun, grownRun⟩ := commitAll_synced synced numberedCommitted
  have number : blockAndPvtdata.block.number.toNat = (s.commitAll committed).1.blocks.length := by
    rw [grownRun ran]
    exact (numbered_cons numberedNext).1
  exact crashDuringCommit_consistent syncedRun number done

def notEmptyMessage : String :=
  "The private data store is not empty. InitLastCommittedBlock() function call is not allowed"

theorem open_first_block_pending {durable : Durable} (btlPolicy : BTLPolicy)
    (empty : durable.pvtdata.lastCommittedBlk = none)
    (pending : durable.pvtdata.pendingCommit = true) (blocks : 0 < durable.blocks.length) :
    Provider.open durable btlPolicy = .error (.pvtdataStore (.illegalCall notEmptyMessage)) := by
  have isEmpty : (openStore durable.pvtdata btlPolicy).isEmpty = true := by
    simp [openStore, Disk.getLastCommittedBlockNum, empty]
  have refused : (openStore durable.pvtdata btlPolicy).initLastCommittedBlock
      (durable.blocks.length - 1) = .error (.illegalCall notEmptyMessage) :=
    initLastCommittedBlock_eq_error pending
  simp [Provider.open, Store.init, Store.initPvtdataStoreFromExistingBlockchain, isEmpty, blocks,
    refused]

theorem open_synced {durable : Durable} (btlPolicy : BTLPolicy) (consistent : Consistent durable)
    (started : durable.pvtdata.lastCommittedBlk.isSome ∨ durable.blocks = []) :
    ∃ s, Provider.open durable btlPolicy = .ok s ∧ Synced s := by
  obtain ⟨s₀, opened⟩ : ∃ s₀ : Store, s₀ = ⟨durable.blocks, openStore durable.pvtdata btlPolicy⟩ :=
    ⟨_, rfl⟩
  have blocks : s₀.blocks = durable.blocks := by rw [opened]
  have disk : s₀.pvtdataStore.disk = durable.pvtdata := by rw [opened]; rfl
  have pendingFlag : s₀.pvtdataStore.batchPending = durable.pvtdata.pendingCommit := by
    rw [opened]; rfl
  have isEmpty : s₀.pvtdataStore.isEmpty = durable.pvtdata.lastCommittedBlk.isNone := by
    rw [opened]
    cases last : durable.pvtdata.lastCommittedBlk <;>
      simp [openStore, Disk.getLastCommittedBlockNum, last]
  have mirrors : s₀.pvtdataStore.Mirrors := by rw [opened]; exact openStore_mirrors _ _
  have height : s₀.pvtdataStore.lastCommittedBlockHeight = durable.pvtdata.height := by
    rw [lastCommittedBlockHeight_of_mirrors mirrors, disk]
  -- the private data store is not taken for one to initialise from the blockchain
  have fresh : s₀.initPvtdataStoreFromExistingBlockchain = .ok (s₀, false) := by
    unfold Store.initPvtdataStoreFromExistingBlockchain
    rcases started with committedBefore | noBlocks
    · simp [isEmpty, Option.isNone_iff_eq_none, Option.isSome_iff_ne_none.mp committedBefore]
    · simp [blocks, noBlocks]
  have reopened : Provider.open durable btlPolicy = s₀.syncPvtdataStoreWithBlockStore := by
    rw [Provider.open, ← opened, Store.init, fresh]
    rfl
  rw [reopened]
  unfold Store.syncPvtdataStoreWithBlockStore
  rw [pendingFlag, blocks, height]
  cases pending : durable.pvtdata.pendingCommit
  · -- no batch was pending: the stores are level
    refine ⟨s₀, rfl, mirrors, pendingFlag.trans pending, ?_⟩
    rcases consistent with level | ⟨marked, -⟩
    · rw [disk, blocks]; exact level
    · simp [pending] at marked
  · have isPending : s₀.pvtdataStore.batchPending = true := pendingFlag.trans pending
    by_cases level : durable.blocks.length = durable.pvtdata.height
    · -- the block never reached the block store: the batch is rolled back
      have rolledBack := rollback_eq_ok.mpr ⟨isPending, rfl⟩
      refine ⟨{ s₀ with pvtdataStore := { s₀.pvtdataStore with batchPending := false } }, ?_,
        mirrors, rfl, ?_⟩
      · simp [level, rolledBack, blocks, Except.map, Except.mapError]
      · show s₀.pvtdataStore.disk.height = s₀.blocks.length
        rw [disk, blocks, level]
    · -- the block reached the block store: the batch is committed
      have ahead : durable.blocks.length = durable.pvtdata.height + 1 := by
        rcases consistent with level' | ⟨-, ahead⟩
        · exact absurd level'.symm level
        · exact ahead
      obtain ⟨p, committed⟩ : ∃ p, s₀.pvtdataStore.commit = .ok p :=
        ⟨_, commit_eq_ok.mpr ⟨isPending, rfl⟩⟩
      refine ⟨{ s₀ with pvtdataStore := p }, ?_, commit_mirrors committed, ?_, ?_⟩
      · simp [ahead, committed, blocks, Except.map, Except.mapError]
      all_goals obtain ⟨-, rfl⟩ := commit_eq_ok.mp committed
      · rfl
      · show s₀.pvtdataStore.nextBlockNum + 1 = s₀.blocks.length
        rw [nextBlockNum_eq_lastCommittedBlockHeight, height, blocks, ahead]

/-- Opening the stores after a crash at any point of a run of commits brings them back in sync,
unless the crash came between the block store taking the store's first block and the private
data store committing it, and then `Provider.Open` fails. -/
theorem reopen_after_crash (btlPolicy : BTLPolicy) {s : Store}
    {committed rest : List BlockAndPvtData} {blockAndPvtdata : BlockAndPvtData}
    (synced : Synced s) (numbered : Numbered s.blocks.length (committed ++ blockAndPvtdata :: rest))
    (ran : (s.commitAll committed).2 = .ok ()) (done : Nat) :
    let crashed := (s.commitAll committed).1.crashDuringCommit blockAndPvtdata done
    (∃ s', Provider.open crashed btlPolicy = .ok s' ∧ Synced s') ∨
      crashed.pvtdata.lastCommittedBlk = none ∧ crashed.blocks.length = 1 ∧
        Provider.open crashed btlPolicy = .error (.pvtdataStore (.illegalCall notEmptyMessage)) := by
  intro crashed
  have consistent : Consistent crashed := commitAll_crash_consistent synced numbered ran done
  cases last : crashed.pvtdata.lastCommittedBlk with
  | some blockNum => exact .inl (open_synced btlPolicy consistent (.inl (by simp [last])))
  | none =>
      have emptyHeight : crashed.pvtdata.height = 0 := by simp [Disk.height, last]
      rcases consistent with level | ⟨pending, ahead⟩
      · refine .inl (open_synced btlPolicy (.inl level) (.inr ?_))
        rw [← List.length_eq_zero_iff, ← level, emptyHeight]
      · rw [emptyHeight] at ahead
        exact .inr ⟨rfl, ahead, open_first_block_pending btlPolicy last pending (by omega)⟩

def neverExpiring : BTLPolicy := lsccBasedBTLPolicy fun _ _ => .ok 0

def genesisBlock (blockPvtData : List TxPvtData) : BlockAndPvtData :=
  ⟨⟨0, [], []⟩, blockPvtData⟩

def newStore (btlPolicy : BTLPolicy) : Store := ⟨[], openStore emptyDisk btlPolicy⟩

/-- The peer crashes while committing the genesis block, after the block store has taken it and
before the private data store commits its (empty) batch. The ledger cannot be opened again. -/
theorem reopen_fails_after_genesis_block_added :
    let crashed : Durable := (newStore neverExpiring).crashDuringCommit (genesisBlock []) 2
    crashed.blocks.length = 1 ∧ crashed.pvtdata.pendingCommit = true ∧
      crashed.pvtdata.lastCommittedBlk = none ∧
      Provider.open crashed neverExpiring = .error (.pvtdataStore (.illegalCall
        "The private data store is not empty. InitLastCommittedBlock() function call is not allowed")) :=
  ⟨by decide, by decide, by decide, rfl⟩

theorem newStore_synced (btlPolicy : BTLPolicy) : Synced (newStore btlPolicy) :=
  ⟨openStore_mirrors _ _, rfl, rfl⟩

theorem reopen_after_crash_during_genesis :
    Synced (newStore neverExpiring) ∧
      Numbered (newStore neverExpiring).blocks.length ([] ++ genesisBlock [] :: []) ∧
      ((newStore neverExpiring).commitAll []).2 = .ok () ∧
      let crashed := ((newStore neverExpiring).commitAll []).1.crashDuringCommit (genesisBlock []) 2
      ((∃ s', Provider.open crashed neverExpiring = .ok s' ∧ Synced s') ∨
        crashed.pvtdata.lastCommittedBlk = none ∧ crashed.blocks.length = 1 ∧
          Provider.open crashed neverExpiring = .error (.pvtdataStore (.illegalCall notEmptyMessage))) :=
  ⟨newStore_synced _, rfl, rfl, @reopen_after_crash neverExpiring (newStore neverExpiring) [] [] (genesisBlock [])
    (newStore_synced _) rfl rfl 2⟩

def secretWrite (collectionName : String) (value : Bytes) : CollPvtRwSet :=
  ⟨collectionName, [⟨[0x6b], false, value⟩]⟩

def bothCollections : List TxPvtData :=
  [⟨0, [⟨"mycc", [secretWrite "c1" [1], secretWrite "c2" [2]]⟩]⟩]

def firstCollection : List TxPvtData :=
  [⟨0, [⟨"mycc", [secretWrite "c1" [1]]⟩]⟩]

def twoBlocksToLive : BTLPolicy := lsccBasedBTLPolicy fun _ _ => .ok 2

def retriedStore : Except StoreError Pvtdatastorage.Store := do
  let prepared ← (openStore emptyDisk twoBlocksToLive).prepare 0 bothCollections
  let rolledBack ← prepared.rollback
  let retried ← rolledBack.prepare 0 firstCollection
  retried.commit

def reopenedAndRecommitted : Except Error Store := do
  let crashed := (newStore twoBlocksToLive).crashDuringCommit (genesisBlock bothCollections) 1
  let reopened ← Provider.open crashed twoBlocksToLive
  match reopened.commitWithPvtData (genesisBlock firstCollection) with
  | (committed, .ok ()) => pure committed
  | (_, .error err) => .error err

/-- The rolled-back write set of collection `c2` is returned with block 0's private data, both
after an explicit `Rollback` and after the one `init` makes on reopening; and the purge at the
block the data expires at leaves it on disk, since the retry overwrote the expiry entry that
scheduled it. -/
theorem rolled_back_pvtdata_returned :
    (retriedStore >>= fun s => s.getPvtDataByBlockNum 0 none) =
        .ok [⟨0, [⟨"mycc", [secretWrite "c1" [1], secretWrite "c2" [2]]⟩]⟩] ∧
      (retriedStore.map fun s => ((s.disk.purgeExpiredData 0 3).data.map Prod.fst)) =
        .ok [⟨0, 0, "mycc", "c2"⟩] ∧
      (reopenedAndRecommitted >>= fun s =>
          (s.pvtdataStore.getPvtDataByBlockNum 0 none).mapError .pvtdataStore) =
        .ok [⟨0, [⟨"mycc", [secretWrite "c1" [1], secretWrite "c2" [2]]⟩]⟩] :=
  ⟨by decide +kernel, by decide +kernel, by decide +kernel⟩

theorem retry_keeps_rolled_back_keys_of_c2 :
    ∃ s₁ s₂ s₃ s₄, (openStore emptyDisk twoBlocksToLive).prepare 0 bothCollections = .ok s₁ ∧
      s₁.rollback = .ok s₂ ∧ s₂.prepare 0 firstCollection = .ok s₃ ∧ s₃.commit = .ok s₄ ∧
      (⟨0, 0, "mycc", "c2"⟩ : DataKey) ∈ (prepareDataEntries 0 bothCollections).map Prod.fst ∧
      (⟨0, 0, "mycc", "c2"⟩ : DataKey) ∉ (prepareDataEntries 0 firstCollection).map Prod.fst ∧
      ∃ value, ((⟨0, 0, "mycc", "c2"⟩ : DataKey), value) ∈ s₄.disk.data := by
  refine ⟨_, _, _, _, rfl, rfl, rfl, rfl, by decide, by decide, ?_⟩
  exact @Pvtdatastorage.retry_keeps_rolled_back_keys (openStore emptyDisk twoBlocksToLive) _ _ _ _ 0
    bothCollections firstCollection rfl rfl rfl rfl ⟨0, 0, "mycc", "c2"⟩ (by decide) (by decide)

end Fabric.Ledgerstorage
