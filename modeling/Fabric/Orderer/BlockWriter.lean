import Mathlib.Data.List.Chain
import Fabric.Protos.Common

/-! `orderer/common/multichannel/blockwriter.go`: the consenter thread creates each block and
hands it to `WriteBlock` or `WriteConfigBlock`; `WriteBlock` takes the committing lock and leaves
the block to a goroutine, which sets the block's metadata, its signatures and its LAST_CONFIG
index, appends it to the ledger and releases the lock.

A run is a schedule: the list of the threads that make a step, the consenter or the goroutine
that holds the lock. The steps are those between which the two threads can observe each other:
the consenter creates the next block (and, for a config transaction, installs the new config,
which raises `support.Sequence()`), then writes it under the lock; the goroutine annotates the
block, then appends it. Signing is not modelled. -/

namespace Fabric.Multichannel

structure Header where
  number : Nat
  previousHash : Bytes
  dataHash : Bytes
  deriving DecidableEq, Repr

structure Block where
  header : Header
  data : List Bytes
  ordererMetadata : Option Bytes
  lastConfig : Option Nat
  deriving DecidableEq, Repr

structure Hashing where
  headerHash : Header → Bytes
  dataHash : List Bytes → Bytes

/-- `GetLastConfigIndexFromBlock`: an unset value reads as index 0. -/
def getLastConfigIndexFromBlock (block : Block) : Nat := block.lastConfig.getD 0

inductive ConfigTxType where
  | ordererTransaction
  | config
  deriving DecidableEq, Repr

inductive Call where
  | writeBlock (messages : List Bytes) (encodedMetadataValue : Option Bytes)
  | writeConfigBlock (txType : ConfigTxType) (messages : List Bytes)
      (encodedMetadataValue : Option Bytes)
  deriving DecidableEq, Repr

def Call.messages : Call → List Bytes
  | .writeBlock messages _ => messages
  | .writeConfigBlock _ messages _ => messages

def Call.encodedMetadataValue : Call → Option Bytes
  | .writeBlock _ encodedMetadataValue => encodedMetadataValue
  | .writeConfigBlock _ _ encodedMetadataValue => encodedMetadataValue

def Call.updatesConfig : Call → Bool
  | .writeConfigBlock .config _ _ => true
  | _ => false

structure Committer where
  encodedMetadataValue : Option Bytes
  annotated : Bool
  deriving DecidableEq, Repr

structure State where
  sequence : Nat
  lastConfigBlockNum : Nat
  lastConfigSeq : Nat
  lastBlock : Block
  committingBlock : Option Committer
  appended : List Block
  calls : List Call
  nextBlock : Option Block

def newBlockWriter (lastBlock : Block) (sequence : Nat) (calls : List Call) : State :=
  -- the last config block of the genesis block is necessarily block 0
  let lastConfigBlockNum :=
    if lastBlock.header.number ≠ 0 then getLastConfigIndexFromBlock lastBlock else 0
  ⟨sequence, lastConfigBlockNum, sequence, lastBlock, none, [], calls, none⟩

def createNextBlock (hashing : Hashing) (lastBlock : Block) (messages : List Bytes) : Block :=
  ⟨⟨lastBlock.header.number + 1, hashing.headerHash lastBlock.header, hashing.dataHash messages⟩,
    messages, none, none⟩

def addLastConfigSignature (s : State) : State :=
  let configSeq := s.sequence
  let s :=
    if configSeq > s.lastConfigSeq then
      { s with lastConfigBlockNum := s.lastBlock.header.number, lastConfigSeq := configSeq }
    else s
  { s with lastBlock := { s.lastBlock with lastConfig := some s.lastConfigBlockNum } }

def annotate (s : State) (encodedMetadataValue : Option Bytes) : State :=
  let s :=
    match encodedMetadataValue with
    | some value => { s with lastBlock := { s.lastBlock with ordererMetadata := some value } }
    | none => s
  addLastConfigSignature s

inductive Thread where
  | consenter
  | committer
  deriving DecidableEq, Repr

def step (hashing : Hashing) (s : State) : Thread → State
  | .consenter =>
      match s.nextBlock, s.calls with
      | none, call :: _ =>
          -- `CreateNextBlock`, then for a config transaction `Validate`, `CreateBundle` and `Update`
          { s with
            nextBlock := some (createNextBlock hashing s.lastBlock call.messages)
            sequence := if call.updatesConfig then s.sequence + 1 else s.sequence }
      | some block, call :: calls =>
          -- `WriteBlock` waits for the committing lock
          match s.committingBlock with
          | none =>
              { s with
                lastBlock := block
                committingBlock := some ⟨call.encodedMetadataValue, false⟩
                calls
                nextBlock := none }
          | some _ => s
      | _, [] => s
  | .committer =>
      match s.committingBlock with
      | some ⟨encodedMetadataValue, false⟩ =>
          { annotate s encodedMetadataValue with committingBlock := some ⟨encodedMetadataValue, true⟩ }
      | some ⟨_, true⟩ => { s with appended := s.appended ++ [s.lastBlock], committingBlock := none }
      | none => s

def run (hashing : Hashing) (s : State) (schedule : List Thread) : State :=
  schedule.foldl (step hashing) s

def expectedBlocks (hashing : Hashing) (previous : Header) (lastConfig : Nat) : List Call → List Block
  | [] => []
  | call :: calls =>
      let header : Header :=
        ⟨previous.number + 1, hashing.headerHash previous, hashing.dataHash call.messages⟩
      let lastConfig := if call.updatesConfig then header.number else lastConfig
      ⟨header, call.messages, call.encodedMetadataValue, some lastConfig⟩ ::
        expectedBlocks hashing header lastConfig calls

def Block.content (block : Block) : Header × List Bytes × Option Bytes :=
  (block.header, block.data, block.ordererMetadata)

def sequentialSchedule : List Call → List Thread
  | [] => []
  | _ :: calls => [.consenter, .consenter, .committer, .committer] ++ sequentialSchedule calls

section Runs

variable (hashing : Hashing)

def inFlight (s : State) : List (Header × List Bytes × Option Bytes) :=
  match s.committingBlock with
  | some committer => [(s.lastBlock.header, s.lastBlock.data, committer.encodedMetadataValue)]
  | none => []

structure Inv (expected : List (Header × List Bytes × Option Bytes)) (s : State) : Prop where
  blocks : s.appended.map Block.content ++ inFlight s ++
    (expectedBlocks hashing s.lastBlock.header 0 s.calls).map Block.content = expected
  metadata : ∀ committer, s.committingBlock = some committer →
    s.lastBlock.ordererMetadata = if committer.annotated then committer.encodedMetadataValue else none
  next : ∀ block, s.nextBlock = some block →
    ∃ call, s.calls.head? = some call ∧ block = createNextBlock hashing s.lastBlock call.messages

theorem expectedBlocks_content (previous : Header) (lastConfig lastConfig' : Nat) (calls : List Call) :
    (expectedBlocks hashing previous lastConfig calls).map Block.content =
      (expectedBlocks hashing previous lastConfig' calls).map Block.content := by
  induction calls generalizing previous lastConfig lastConfig' with
  | nil => rfl
  | cons call calls ih =>
      simp only [expectedBlocks, List.map_cons]
      rw [ih]
      rfl

theorem expectedBlocks_cons_content (previous : Header) (call : Call) (calls : List Call) :
    (expectedBlocks hashing previous 0 (call :: calls)).map Block.content =
      ((createNextBlock hashing ⟨previous, [], none, none⟩ call.messages).header, call.messages,
          call.encodedMetadataValue) ::
        (expectedBlocks hashing
          (createNextBlock hashing ⟨previous, [], none, none⟩ call.messages).header 0 calls).map
          Block.content := by
  simp only [expectedBlocks, List.map_cons]
  rw [expectedBlocks_content hashing _ _ 0]
  rfl

@[simp] theorem createNextBlock_data (lastBlock : Block) (messages : List Bytes) :
    (createNextBlock hashing lastBlock messages).data = messages := rfl

theorem createNextBlock_header (lastBlock : Block) (messages : List Bytes) :
    createNextBlock hashing lastBlock messages =
      createNextBlock hashing ⟨lastBlock.header, [], none, none⟩ messages := rfl

theorem inv_newBlockWriter (lastBlock : Block) (sequence : Nat) (calls : List Call) :
    Inv hashing ((expectedBlocks hashing lastBlock.header 0 calls).map Block.content)
      (newBlockWriter lastBlock sequence calls) :=
  ⟨by simp [newBlockWriter, inFlight], by simp [newBlockWriter], by simp [newBlockWriter]⟩

section Steps

variable {s : State}

theorem step_create {call : Call} {calls : List Call} (idle : s.nextBlock = none)
    (pending : s.calls = call :: calls) :
    step hashing s .consenter =
      { s with
        nextBlock := some (createNextBlock hashing s.lastBlock call.messages)
        sequence := if call.updatesConfig then s.sequence + 1 else s.sequence } := by
  simp only [step, idle, pending]

theorem step_write {block : Block} {call : Call} {calls : List Call}
    (created : s.nextBlock = some block) (pending : s.calls = call :: calls)
    (free : s.committingBlock = none) :
    step hashing s .consenter =
      { s with
        lastBlock := block
        committingBlock := some ⟨call.encodedMetadataValue, false⟩
        calls
        nextBlock := none } := by
  simp only [step, created, pending, free]

theorem step_wait {block : Block} {committer : Committer} (created : s.nextBlock = some block)
    (held : s.committingBlock = some committer) : step hashing s .consenter = s := by
  cases pending : s.calls <;> simp only [step, created, pending, held]

theorem step_done (done : s.calls = []) : step hashing s .consenter = s := by
  cases created : s.nextBlock <;> simp only [step, created, done]

theorem step_annotate {encodedMetadataValue : Option Bytes}
    (held : s.committingBlock = some ⟨encodedMetadataValue, false⟩) :
    step hashing s .committer =
      { annotate s encodedMetadataValue with committingBlock := some ⟨encodedMetadataValue, true⟩ } := by
  simp only [step, held]

theorem step_append {encodedMetadataValue : Option Bytes}
    (held : s.committingBlock = some ⟨encodedMetadataValue, true⟩) :
    step hashing s .committer =
      { s with appended := s.appended ++ [s.lastBlock], committingBlock := none } := by
  simp only [step, held]

theorem step_unlocked (free : s.committingBlock = none) : step hashing s .committer = s := by
  simp only [step, free]

@[simp] theorem annotate_header (encodedMetadataValue : Option Bytes) :
    (annotate s encodedMetadataValue).lastBlock.header = s.lastBlock.header := by
  cases encodedMetadataValue <;> simp only [annotate, addLastConfigSignature] <;> split <;> rfl

@[simp] theorem annotate_data (encodedMetadataValue : Option Bytes) :
    (annotate s encodedMetadataValue).lastBlock.data = s.lastBlock.data := by
  cases encodedMetadataValue <;> simp only [annotate, addLastConfigSignature] <;> split <;> rfl

theorem annotate_ordererMetadata (encodedMetadataValue : Option Bytes)
    (unset : s.lastBlock.ordererMetadata = none) :
    (annotate s encodedMetadataValue).lastBlock.ordererMetadata = encodedMetadataValue := by
  cases encodedMetadataValue <;> simp only [annotate, addLastConfigSignature] <;> split <;>
    simp [unset]

@[simp] theorem annotate_appended (encodedMetadataValue : Option Bytes) :
    (annotate s encodedMetadataValue).appended = s.appended := by
  cases encodedMetadataValue <;> simp only [annotate, addLastConfigSignature] <;> split <;> rfl

@[simp] theorem annotate_calls (encodedMetadataValue : Option Bytes) :
    (annotate s encodedMetadataValue).calls = s.calls := by
  cases encodedMetadataValue <;> simp only [annotate, addLastConfigSignature] <;> split <;> rfl

@[simp] theorem annotate_nextBlock (encodedMetadataValue : Option Bytes) :
    (annotate s encodedMetadataValue).nextBlock = s.nextBlock := by
  cases encodedMetadataValue <;> simp only [annotate, addLastConfigSignature] <;> split <;> rfl

end Steps

theorem inv_step {expected : List (Header × List Bytes × Option Bytes)} {s : State}
    (inv : Inv hashing expected s) (thread : Thread) : Inv hashing expected (step hashing s thread) := by
  cases thread with
  | consenter =>
      cases pending : s.calls with
      | nil => rwa [step_done hashing pending]
      | cons call calls =>
          cases created : s.nextBlock with
          | none =>
              -- the consenter creates the next block
              rw [step_create hashing created pending]
              refine ⟨inv.blocks, inv.metadata, fun block next => ⟨call, by simp [pending], ?_⟩⟩
              simp only [Option.some.injEq] at next
              exact next.symm
          | some block =>
              cases held : s.committingBlock with
              | some committer => rwa [step_wait hashing created held]
              | none =>
                  -- `WriteBlock` of the created block, the lock being free
                  rw [step_write hashing created pending held]
                  obtain ⟨call', head, rfl⟩ := inv.next block created
                  simp only [pending, List.head?_cons, Option.some.injEq] at head
                  subst head
                  have before := inv.blocks
                  simp only [pending, held, inFlight, List.append_nil] at before
                  rw [expectedBlocks_cons_content, ← createNextBlock_header] at before
                  refine ⟨?_, fun committer holding => ?_, (fun block unset => nomatch unset)⟩
                  · simpa [inFlight, Block.content, List.append_assoc] using before
                  · simp only [Option.some.injEq] at holding
                    subst holding
                    rfl
  | committer =>
      cases held : s.committingBlock with
      | none => rwa [step_unlocked hashing held]
      | some committer =>
          obtain ⟨encodedMetadataValue, annotated⟩ := committer
          have before := inv.blocks
          have metadata := inv.metadata _ held
          cases annotated with
          | false =>
              -- the goroutine annotates the block
              rw [step_annotate hashing held]
              refine ⟨?_, fun committer holding => ?_, fun block created => ?_⟩
              · simpa [inFlight, held] using before
              · simp only [Option.some.injEq] at holding
                subst holding
                exact annotate_ordererMetadata encodedMetadataValue metadata
              · obtain ⟨call, head, rfl⟩ := inv.next block (by simpa using created)
                exact ⟨call, by simpa using head, by simp [createNextBlock]⟩
          | true =>
              -- the goroutine appends the block and releases the lock
              rw [step_append hashing held]
              refine ⟨?_, (fun committer unset => nomatch unset), inv.next⟩
              simp only [inFlight, held] at before
              simp only [if_true] at metadata
              simpa [inFlight, Block.content, metadata] using before

theorem inv_run {expected : List (Header × List Bytes × Option Bytes)} :
    ∀ {s : State} (schedule : List Thread), Inv hashing expected s →
      Inv hashing expected (run hashing s schedule)
  | _, [], inv => inv
  | _, thread :: schedule, inv => inv_run schedule (inv_step hashing inv thread)

theorem run_appended_prefix (lastBlock : Block) (sequence : Nat) (calls : List Call)
    (schedule : List Thread) :
    let s := run hashing (newBlockWriter lastBlock sequence calls) schedule
    s.appended.map Block.content <+:
        (expectedBlocks hashing lastBlock.header (getLastConfigIndexFromBlock lastBlock) calls).map
          Block.content ∧
      (s.calls = [] → s.committingBlock = none →
        s.appended.map Block.content =
          (expectedBlocks hashing lastBlock.header (getLastConfigIndexFromBlock lastBlock) calls).map
            Block.content) := by
  intro s
  have inv := inv_run hashing schedule (inv_newBlockWriter hashing lastBlock sequence calls)
  rw [expectedBlocks_content hashing _ _ 0, ← inv.blocks, List.append_assoc]
  refine ⟨List.prefix_append _ _, fun done free => ?_⟩
  simp [s, done, free, inFlight, expectedBlocks]

def Linked (previous next : Header) : Prop :=
  next.number = previous.number + 1 ∧ next.previousHash = hashing.headerHash previous

theorem expectedBlocks_linked (previous : Header) (lastConfig : Nat) (calls : List Call) :
    List.IsChain (Linked hashing)
      (previous :: (expectedBlocks hashing previous lastConfig calls).map Block.header) := by
  induction calls generalizing previous lastConfig with
  | nil => exact List.IsChain.singleton previous
  | cons call calls ih =>
      simp only [expectedBlocks, List.map_cons]
      exact List.isChain_cons_cons.mpr ⟨⟨rfl, rfl⟩, ih _ _⟩

/-- For every schedule, the blocks appended follow the writer's tip and each other: consecutive
numbers, and each previous hash the hash of the header before. -/
theorem run_appended_linked (lastBlock : Block) (sequence : Nat) (calls : List Call)
    (schedule : List Thread) :
    List.IsChain (Linked hashing) (lastBlock.header ::
      (run hashing (newBlockWriter lastBlock sequence calls) schedule).appended.map Block.header) := by
  obtain ⟨appended, -⟩ := run_appended_prefix hashing lastBlock sequence calls schedule
  have prefixed := appended.map Prod.fst
  simp only [List.map_map] at prefixed
  exact List.IsChain.prefix (expectedBlocks_linked hashing lastBlock.header _ calls)
    ((List.prefix_cons_inj _).mpr prefixed)

structure Quiet (s : State) : Prop where
  free : s.committingBlock = none
  idle : s.nextBlock = none
  seen : s.lastConfigSeq = s.sequence

theorem quiet_iff (s : State) :
    Quiet s ↔ s.committingBlock = none ∧ s.nextBlock = none ∧ s.lastConfigSeq = s.sequence :=
  ⟨fun quiet => ⟨quiet.free, quiet.idle, quiet.seen⟩, fun quiet => ⟨quiet.1, quiet.2.1, quiet.2.2⟩⟩

theorem run_append (s : State) (first second : List Thread) :
    run hashing s (first ++ second) = run hashing (run hashing s first) second :=
  List.foldl_append

theorem run_sequential_call {s : State} {call : Call} {calls : List Call} (quiet : Quiet s)
    (pending : s.calls = call :: calls) :
    let s' := run hashing s [.consenter, .consenter, .committer, .committer]
    Quiet s' ∧ s'.calls = calls ∧
      s'.lastBlock.header = (createNextBlock hashing s.lastBlock call.messages).header ∧
      s'.lastConfigBlockNum =
        (if call.updatesConfig then s.lastBlock.header.number + 1 else s.lastConfigBlockNum) ∧
      s'.appended = s.appended ++ expectedBlocks hashing s.lastBlock.header s.lastConfigBlockNum [call] := by
  obtain ⟨free, idle, seen⟩ := quiet
  obtain ⟨sequence, lastConfigBlockNum, lastConfigSeq, lastBlock, committingBlock, appended, pending',
    nextBlock⟩ := s
  simp only at free idle seen pending
  subst free idle seen pending
  -- the goroutine sees the sequence raised exactly when the call installed a config
  cases updates : call.updatesConfig <;> cases value : call.encodedMetadataValue <;>
    simp [run, step, quiet_iff, annotate, addLastConfigSignature, createNextBlock, expectedBlocks,
      updates, value]

theorem run_sequentialSchedule :
    ∀ (calls : List Call) {s : State}, Quiet s → s.calls = calls →
      (run hashing s (sequentialSchedule calls)).appended =
        s.appended ++ expectedBlocks hashing s.lastBlock.header s.lastConfigBlockNum calls
  | [], _, _, _ => by simp [run, sequentialSchedule, expectedBlocks]
  | call :: calls, s, quiet, pending => by
      obtain ⟨quiet', rest, header, lastConfig, appended⟩ := run_sequential_call hashing quiet pending
      rw [sequentialSchedule, run_append, run_sequentialSchedule calls quiet' rest, appended, header,
        lastConfig, List.append_assoc]
      rfl

/-- When each goroutine finishes before the consenter goes on, the writer appends exactly the
blocks the calls describe, each with the LAST_CONFIG index of the latest block written with a
`CONFIG` transaction. -/
theorem sequential_blocks_point_at_last_config (lastBlock : Block) (sequence : Nat)
    (calls : List Call) :
    (run hashing (newBlockWriter lastBlock sequence calls) (sequentialSchedule calls)).appended =
      expectedBlocks hashing lastBlock.header
        (newBlockWriter lastBlock sequence calls).lastConfigBlockNum calls :=
  run_sequentialSchedule hashing calls ⟨rfl, rfl, rfl⟩ rfl

end Runs

def sampleHashing : Hashing where
  headerHash header := [header.number.toUInt8]
  dataHash data := data.flatten

def genesisBlock : Block := ⟨⟨0, [], []⟩, [[0]], none, some 0⟩

def normalThenConfig : List Call := [.writeBlock [[1]] none, .writeConfigBlock .config [[2]] none]

def configOvertakes : List Thread :=
  [.consenter, .consenter, .consenter, .committer, .committer, .consenter, .committer, .committer]

/-- Under that schedule block 1 claims to be the last config block, and block 2, the config
block, points at block 1. Blocks 1 and 2 should point at blocks 0 and 2, as they do when block 1's
goroutine finishes first. -/
theorem config_update_overtaking_commit_shifts_last_config :
    let overtaken : State := run sampleHashing (newBlockWriter genesisBlock 0 normalThenConfig)
      configOvertakes
    overtaken.appended.map Block.lastConfig = [some 1, some 1] ∧
      (expectedBlocks sampleHashing genesisBlock.header 0 normalThenConfig).map Block.lastConfig =
        [some 0, some 2] ∧
      (run sampleHashing (newBlockWriter genesisBlock 0 normalThenConfig)
          (sequentialSchedule normalThenConfig)).appended.map Block.lastConfig = [some 0, some 2] := by
  decide

end Fabric.Multichannel
