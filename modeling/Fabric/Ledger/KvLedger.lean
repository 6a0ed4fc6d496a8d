import Fabric.Ledger.HistoryDb
import Fabric.Ledger.ConfigHistory

/-! `core/ledger/kvledger`: how a peer ledger commits a block into its four stores, each
persisted on its own (the config history, the block store, the state database and the history
database), and how `newKVLedger` recovers the state and history databases from the block store
after a crash (`recoverDBs`).

Blocks carry the validation flags the committer settled on: the first validation writes them into
the block's metadata before the block is stored, and recovery reads them back. Private data and
the purge bookkeeping are not modelled. -/

namespace Fabric.Kvledger

open Rwset Statedb Historydb Confighistory

abbrev Batch := List ((String × Bytes) × VersionedValue)

/-- `ApplyWriteSet` of one transaction at its height. -/
def applyWriteSet (txHeight : Height) (batch : Batch) (txRWSet : TxRwSet Bytes) : Batch :=
  txRWSet.nsRwSets.foldl (fun batch nsRWSet =>
    nsRWSet.writes.foldl (fun batch kvWrite =>
      batch.setKey (nsRWSet.nameSpace, kvWrite.key)
        ⟨if kvWrite.isDelete then none else some kvWrite.value, txHeight⟩) batch) batch

def prepareBatch (blockNum : Nat) (txsFilter : List TxValidationCode) :
    Nat → Batch → List Transaction → Batch
  | _, batch, [] => batch
  | txNum, batch, tx :: txs =>
      let batch :=
        if txsFilter[txNum]? = some .valid then applyWriteSet ⟨blockNum, txNum⟩ batch tx.rwSet
        else batch
      prepareBatch blockNum txsFilter (txNum + 1) batch txs

def blockBatch (block : Block) : Batch :=
  prepareBatch block.number.toNat block.txsFilter 0 [] block.transactions

/-- `extractStateUpdates` for the namespace `lscc`, the one the config history listens to. -/
def lsccStateUpdates (batch : Batch) : List (KVWrite Bytes) :=
  batch.filterMap fun update =>
    if update.1.1 = "lscc" then
      some ⟨update.1.2, update.2.value.isNone, update.2.value.getD []⟩
    else none

structure StateDB where
  entries : List ((String × Bytes) × VersionedValue)
  savepoint : Option Height

/-- `ApplyPrivacyAwareUpdates`: the puts and deletes of the batch and the savepoint, written at
once. -/
def StateDB.applyUpdates (db : StateDB) (batch : Batch) (height : Height) : StateDB :=
  ⟨batch.foldl (fun entries update =>
      match update.2.value with
      | none => entries.filter fun entry => entry.1 ≠ update.1
      | some _ => entries.setKey update.1 update.2) db.entries,
    some height⟩

structure KVLedger where
  blockStore : List Block
  stateDB : StateDB
  historyDB : HistoryDB
  configHistory : DB

def KVLedger.empty : KVLedger := ⟨[], ⟨[], none⟩, ⟨[], none⟩, ⟨[]⟩⟩

inductive CommitStep where
  | stateListeners
  | blockStore
  | stateDB
  | historyDB
  deriving DecidableEq, Repr

def commitSteps (historyDatabase : Bool) : List CommitStep :=
  [.stateListeners, .blockStore, .stateDB] ++ if historyDatabase then [.historyDB] else []

/-- `invokeNamespaceListeners`: the config history writes the collection configurations of
`lscc`'s updates at the block's number, unless there are none. -/
def KVLedger.invokeNamespaceListeners (l : KVLedger) (block : Block) : KVLedger :=
  match lsccStateUpdates (blockBatch block) with
  | [] => l
  | lsccWrites => { l with configHistory := l.configHistory.handleStateUpdates lsccWrites block.number }

/-- `txmgr.Commit`: the batch at the height of the block's last transaction. -/
def KVLedger.commitState (l : KVLedger) (block : Block) : KVLedger :=
  { l with
    stateDB := l.stateDB.applyUpdates (blockBatch block)
      ⟨block.number.toNat, block.transactions.length - 1⟩ }

def KVLedger.commitStep (block : Block) (l : KVLedger) : CommitStep → KVLedger
  | .stateListeners => l.invokeNamespaceListeners block
  | .blockStore => { l with blockStore := l.blockStore ++ [block] }
  | .stateDB => l.commitState block
  | .historyDB => { l with historyDB := l.historyDB.commit block }

def KVLedger.commitWithPvtData (historyDatabase : Bool) (l : KVLedger) (block : Block) : KVLedger :=
  (commitSteps historyDatabase).foldl (KVLedger.commitStep block) l

def KVLedger.crashDuringCommit (historyDatabase : Bool) (l : KVLedger) (block : Block)
    (done : Nat) : KVLedger :=
  ((commitSteps historyDatabase).take done).foldl (KVLedger.commitStep block) l

def commitAll (historyDatabase : Bool) (blocks : List Block) : KVLedger :=
  blocks.foldl (KVLedger.commitWithPvtData historyDatabase) KVLedger.empty

inductive Recoverable where
  | txmgr
  | historyDB
  deriving DecidableEq, Repr

/-- `ShouldRecover` of either store, from the block number of its savepoint: whether blocks are
missing, and the first of them. -/
def shouldRecover (savepointBlockNum : Option Nat) (lastAvailableBlock : Nat) : Bool × Nat :=
  match savepointBlockNum with
  | none => (true, 0)
  | some blockNum => (blockNum ≠ lastAvailableBlock, blockNum + 1)

def KVLedger.commitLostBlock (block : Block) (l : KVLedger) : Recoverable → KVLedger
  | .txmgr => (l.invokeNamespaceListeners block).commitState block
  | .historyDB => { l with historyDB := l.historyDB.commit block }

def KVLedger.getBlockByNum (l : KVLedger) (blockNum : Nat) : Except String Block :=
  match l.blockStore[blockNum]? with
  | some block => .ok block
  | none => .error "Entry not found in index"

def KVLedger.recommitLostBlocks (l : KVLedger) (firstBlockNum lastBlockNum : Nat)
    (recoverables : List Recoverable) : Except String KVLedger :=
  (List.range' firstBlockNum (lastBlockNum + 1 - firstBlockNum)).foldlM (fun l blockNumber => do
    let block ← l.getBlockByNum blockNumber
    pure (recoverables.foldl (KVLedger.commitLostBlock block) l)) l

def KVLedger.recoverDBs (historyDatabase : Bool) (l : KVLedger) : Except String KVLedger :=
  if l.blockStore.length = 0 then .ok l
  else
    let lastAvailableBlockNum := l.blockStore.length - 1
    let stateRecover := shouldRecover (l.stateDB.savepoint.map Height.blockNum) lastAvailableBlockNum
    let historyRecover :=
      if historyDatabase then
        shouldRecover (l.historyDB.savepoint.map fun savepoint => savepoint.1.toNat)
          lastAvailableBlockNum
      else (false, 0)
    match stateRecover, historyRecover with
    | (false, _), (false, _) => .ok l
    | (true, first), (false, _) => l.recommitLostBlocks first lastAvailableBlockNum [.txmgr]
    | (false, _), (true, first) => l.recommitLostBlocks first lastAvailableBlockNum [.historyDB]
    | (true, stateFirst), (true, historyFirst) => do
        -- the store that lags is recovered alone up to the other, then both together
        let (lagger, laggerFirst, other, otherFirst) :=
          if stateFirst > historyFirst then (Recoverable.historyDB, historyFirst, Recoverable.txmgr, stateFirst)
          else (Recoverable.txmgr, stateFirst, Recoverable.historyDB, historyFirst)
        let l ←
          if laggerFirst ≠ otherFirst then l.recommitLostBlocks laggerFirst (otherFirst - 1) [lagger]
          else pure l
        l.recommitLostBlocks otherFirst lastAvailableBlockNum [lagger, other]

def myccCollectionKey : Bytes := constructCollectionConfigKey [0x6d, 0x79, 0x63, 0x63]

def genesisBlock : Block := ⟨0, [⟨.config, "config", 0, ⟨[]⟩⟩], [.valid]⟩

def deployBlock : Block :=
  ⟨1, [⟨.endorserTransaction, "deploy", 0,
    ⟨[⟨"lscc", [], [], [⟨myccCollectionKey, false, onePackageBytes⟩], []⟩]⟩⟩], [.valid]⟩

/-- The peer crashes while committing block 1, after `ValidateAndPrepare` and before the block
store commit. The reopened ledger has block 0 only, but its config history still holds the
configuration block 1 wrote, which a peer that committed block 0 alone does not have. -/
theorem reopened_ledger_keeps_uncommitted_config {α : Type} (unmarshal : Bytes → Except String α)
    {package : α} (decoded : unmarshal onePackageBytes = .ok package) :
    let crashed : KVLedger := (commitAll true [genesisBlock]).crashDuringCommit true deployBlock 1
    crashed.blockStore.length = 1 ∧
      (∃ reopened, crashed.recoverDBs true = .ok reopened ∧ reopened.blockStore.length = 1 ∧
        reopened.configHistory.mostRecentCollectionConfigBelow unmarshal 2 [0x6d, 0x79, 0x63, 0x63] =
          .ok (some ⟨package, 1⟩)) ∧
      (commitAll true [genesisBlock]).configHistory.mostRecentCollectionConfigBelow unmarshal 2
        [0x6d, 0x79, 0x63, 0x63] = .ok none := by
  dsimp only
  -- the stores are run on the fixed blocks; only the decoding of the package is left open
  have raw : (((commitAll true [genesisBlock]).crashDuringCommit true deployBlock 1).recoverDBs true).map
      (fun reopened => (reopened.blockStore.length,
        reopened.configHistory.mostRecentEntryBelow 2 lsccNamespace
          (constructCollectionConfigKey [0x6d, 0x79, 0x63, 0x63]))) =
      .ok (1, .ok (some ⟨⟨lsccNamespace, myccCollectionKey, 1⟩, onePackageBytes⟩)) := by
    decide +kernel
  have before : (commitAll true [genesisBlock]).configHistory.mostRecentEntryBelow 2 lsccNamespace
      (constructCollectionConfigKey [0x6d, 0x79, 0x63, 0x63]) = .ok none := by
    decide +kernel
  refine ⟨by decide +kernel, ?_, mostRecentCollectionConfigBelow_of_none before⟩
  cases recovered : ((commitAll true [genesisBlock]).crashDuringCommit true deployBlock 1).recoverDBs true with
  | error e =>
    rw [recovered] at raw
    cases raw
  | ok reopened =>
    rw [recovered] at raw
    obtain ⟨length, met⟩ := Prod.mk.inj (Except.ok.inj raw)
    exact ⟨reopened, rfl, length, mostRecentCollectionConfigBelow_of_entry met decoded⟩

theorem reopened_ledger_keeps_uncommitted_config_bytes :
    (Except.ok onePackageBytes : Except String Bytes) = .ok onePackageBytes ∧
      let crashed : KVLedger := (commitAll true [genesisBlock]).crashDuringCommit true deployBlock 1
      crashed.blockStore.length = 1 ∧
        (∃ reopened, crashed.recoverDBs true = .ok reopened ∧ reopened.blockStore.length = 1 ∧
          reopened.configHistory.mostRecentCollectionConfigBelow (fun b => (.ok b : Except String Bytes)) 2
            [0x6d, 0x79, 0x63, 0x63] = .ok (some ⟨onePackageBytes, 1⟩)) ∧
        (commitAll true [genesisBlock]).configHistory.mostRecentCollectionConfigBelow
          (fun b => (.ok b : Except String Bytes)) 2 [0x6d, 0x79, 0x63, 0x63] = .ok none :=
  ⟨rfl, reopened_ledger_keeps_uncommitted_config (fun b => .ok b) rfl⟩

end Fabric.Kvledger
