import Fabric.Orderer.BlockCutter

/-! `orderer/consensus/kafka`: how a chain turns the messages it consumes from its partition
into blocks (`chainImpl.processRegular`, `processTimeToCut`, `processMessagesToBlocks`).

Re-validated messages are posted back to the partition carrying the offset they were first
received at (`OriginalOffset`); `lastOriginalOffsetProcessed` is how a chain recognises copies
it has already ordered. -/

namespace Fabric.Kafka

open BlockCutter

inductive MessageClass where
  | unknown
  | normal
  | config
  deriving DecidableEq, Repr

/-- `ab.KafkaMessageRegular`, its payload already unmarshalled. -/
structure KafkaMessageRegular where
  payload : Envelope
  configSeq : Nat
  messageClass : MessageClass
  originalOffset : Int
  deriving DecidableEq, Repr

inductive KafkaMessage where
  | connect
  | timeToCut (blockNumber : Nat)
  | regular (message : KafkaMessageRegular)
  deriving DecidableEq, Repr

/-- `ab.KafkaMetadata`, stored in each block the chain writes. -/
structure KafkaMetadata where
  lastOffsetPersisted : Int
  lastOriginalOffsetProcessed : Int
  lastResubmittedConfigOffset : Int
  deriving DecidableEq, Repr

structure CutBlock where
  number : Nat
  data : List Envelope
  metadata : KafkaMetadata
  deriving DecidableEq, Repr

inductive Classification where
  | normalMsg
  | configUpdateMsg
  | configMsg
  deriving DecidableEq, Repr

def classifyMsg : HeaderType → Classification
  | .configUpdate => .configUpdateMsg
  | .ordererTransaction => .configMsg
  | .config => .configMsg
  | _ => .normalMsg

structure Support where
  batchSize : BatchSize
  resubmission : Bool
  headerType : Envelope → Option HeaderType
  filters : Nat → Envelope → Except String Unit
  processConfigMsg : Nat → Envelope → Except String (Envelope × Nat)

/-- `StandardChannel.ProcessNormalMsg`: the current sequence, once the filters accept. -/
def processNormalMsg (support : Support) (sequence : Nat) (env : Envelope) :
    Except String Nat := do
  support.filters sequence env
  pure sequence

structure Chain where
  receiver : Receiver
  lastOriginalOffsetProcessed : Int
  lastResubmittedConfigOffset : Int
  lastCutBlockNumber : Nat
  doneReprocessingMsgInFlight : Bool
  timer : Bool
  sequence : Nat
  blocks : List CutBlock
  posted : List KafkaMessage
  deriving DecidableEq, Repr

/-- `CreateNextBlock` followed by `WriteBlock`, and the `lastCutBlockNumber++` after it. -/
def Chain.writeBlock (chain : Chain) (batch : List Envelope) (metadata : KafkaMetadata) : Chain :=
  { chain with
    blocks := chain.blocks ++ [⟨chain.lastCutBlockNumber + 1, batch, metadata⟩]
    lastCutBlockNumber := chain.lastCutBlockNumber + 1 }

/-- `WriteConfigBlock`: a `CONFIG` block moves the channel to the next configuration; an
`ORDERER_TRANSACTION` creates another channel and leaves this one's sequence. -/
def Chain.writeConfigBlock (support : Support) (chain : Chain) (message : Envelope)
    (metadata : KafkaMetadata) : Chain :=
  let chain := chain.writeBlock [message] metadata
  if support.headerType message = some .config then { chain with sequence := chain.sequence + 1 }
  else chain

/-- `chain.order` with an original offset: post a normal message back to the partition. -/
def Chain.order (chain : Chain) (env : Envelope) (configSeq : Nat) (originalOffset : Int) :
    Chain :=
  { chain with posted := chain.posted ++ [.regular ⟨env, configSeq, .normal, originalOffset⟩] }

def Chain.configure (chain : Chain) (config : Envelope) (configSeq : Nat)
    (originalOffset : Int) : Chain :=
  { chain with posted := chain.posted ++ [.regular ⟨config, configSeq, .config, originalOffset⟩] }

variable (support : Support)

def commitNormalMsg (receivedOffset : Int) (message : Envelope) (newOffset : Int)
    (chain : Chain) : Chain :=
  let ((batches, pending), receiver) := chain.receiver.ordered support.batchSize message
  let chain := { chain with receiver }
  match batches with
  | [] =>
      -- no block is cut: advance `lastOriginalOffsetProcessed` and start the timer
      { chain with lastOriginalOffsetProcessed := newOffset, timer := true }
  | first :: rest =>
      let chain := { chain with timer := false }
      let (offset, chain) :=
        if pending || batches.length == 2 then (receivedOffset - 1, chain)
        else (receivedOffset, { chain with lastOriginalOffsetProcessed := newOffset })
      let written := chain.writeBlock first
        ⟨offset, chain.lastOriginalOffsetProcessed, chain.lastResubmittedConfigOffset⟩
      -- a second batch is the message isolated after the pending batch
      if let [second] := rest then
        { written with lastOriginalOffsetProcessed := newOffset }.writeBlock second
          ⟨offset + 1, newOffset, written.lastResubmittedConfigOffset⟩
      else written

def commitConfigMsg (receivedOffset : Int) (message : Envelope) (newOffset : Int)
    (chain : Chain) : Chain :=
  let (batch, receiver) := chain.receiver.cut
  let chain := { chain with receiver }
  let chain :=
    if batch.length > 0 then
      chain.writeBlock batch
        ⟨receivedOffset - 1, chain.lastOriginalOffsetProcessed, chain.lastResubmittedConfigOffset⟩
    else chain
  let chain := { chain with lastOriginalOffsetProcessed := newOffset }
  let chain := chain.writeConfigBlock support message
    ⟨receivedOffset, chain.lastOriginalOffsetProcessed, chain.lastResubmittedConfigOffset⟩
  { chain with timer := false }

def processRegularCompat (env : Envelope) (receivedOffset : Int) (chain : Chain) :
    Chain × Option String :=
  match support.headerType env with
  | none =>
      (chain, some "discarding bad config message because of channel header unmarshalling error")
  | some headerType =>
      match classifyMsg headerType with
      | .configMsg =>
          match support.processConfigMsg chain.sequence env with
          | .error e => (chain, some s!"discarding bad config message because = {e}")
          | .ok _ =>
              (commitConfigMsg support receivedOffset env chain.lastOriginalOffsetProcessed chain,
                none)
      | .normalMsg =>
          match processNormalMsg support chain.sequence env with
          | .error e => (chain, some s!"discarding bad normal message because = {e}")
          | .ok _ =>
              (commitNormalMsg support receivedOffset env chain.lastOriginalOffsetProcessed chain,
                none)
      | .configUpdateMsg => (chain, some "not expecting message of type ConfigUpdate")

def processRegular (regularMessage : KafkaMessageRegular) (receivedOffset : Int) (chain : Chain) :
    Chain × Option String :=
  let seq := chain.sequence
  let env := regularMessage.payload
  if regularMessage.messageClass = .unknown || !support.resubmission then
    processRegularCompat support env receivedOffset chain
  else
    match regularMessage.messageClass with
    | .unknown => (chain, some "Kafka message of type UNKNOWN should have been processed already")
    | .normal =>
        if regularMessage.originalOffset ≠ 0 ∧
            regularMessage.originalOffset ≤ chain.lastOriginalOffsetProcessed then
          -- a copy of a re-submitted message that was processed already
          (chain, none)
        else if regularMessage.configSeq < seq then
          -- the config sequence has advanced: re-validate and re-submit
          match processNormalMsg support seq env with
          | .error e => (chain, some s!"discarding bad normal message because = {e}")
          | .ok configSeq => (chain.order env configSeq receivedOffset, none)
        else
          let offset :=
            if regularMessage.originalOffset = 0 then chain.lastOriginalOffsetProcessed
            else regularMessage.originalOffset
          (commitNormalMsg support receivedOffset env offset chain, none)
    | .config =>
        if regularMessage.originalOffset ≠ 0 ∧
            regularMessage.originalOffset ≤ chain.lastOriginalOffsetProcessed then
          (chain, none)
        else
          let chain :=
            if regularMessage.originalOffset ≠ 0 then
              let chain :=
                if regularMessage.originalOffset = chain.lastResubmittedConfigOffset ∧
                    regularMessage.configSeq = seq then
                  { chain with doneReprocessingMsgInFlight := true }
                else chain
              if chain.lastResubmittedConfigOffset < regularMessage.originalOffset then
                { chain with lastResubmittedConfigOffset := regularMessage.originalOffset }
              else chain
            else chain
          if regularMessage.configSeq < seq then
            match support.processConfigMsg seq env with
            | .error e => (chain, some s!"rejecting config message because = {e}")
            | .ok (configEnv, configSeq) =>
                ({ chain.configure configEnv configSeq receivedOffset with
                    lastResubmittedConfigOffset := receivedOffset
                    doneReprocessingMsgInFlight := false }, none)
          else
            let offset :=
              if regularMessage.originalOffset = 0 then chain.lastOriginalOffsetProcessed
              else regularMessage.originalOffset
            (commitConfigMsg support receivedOffset env offset chain, none)

def processTimeToCut (ttcNumber : Nat) (receivedOffset : Int) (chain : Chain) :
    Except String Chain :=
  if ttcNumber = chain.lastCutBlockNumber + 1 then
    let (batch, receiver) := chain.receiver.cut
    if batch.length = 0 then
      .error s!"got right time-to-cut message (for block {chain.lastCutBlockNumber + 1}), no pending requests though; this might indicate a bug"
    else
      .ok ({ chain with timer := false, receiver }.writeBlock batch
        ⟨receivedOffset, chain.lastOriginalOffsetProcessed, 0⟩)
  else if ttcNumber > chain.lastCutBlockNumber + 1 then
    .error s!"got larger time-to-cut message ({ttcNumber}) than allowed/expected ({chain.lastCutBlockNumber + 1}) - this might indicate a bug"
  else .ok chain

def consume (chain : Chain) : List (Int × KafkaMessage) → Chain
  | [] => chain
  | (offset, message) :: rest =>
      match message with
      | .connect => consume chain rest
      | .timeToCut blockNumber =>
          match processTimeToCut blockNumber offset chain with
          | .error _ => chain
          | .ok chain => consume chain rest
      | .regular regularMessage =>
          consume (processRegular support regularMessage offset chain).1 rest

-- `HandleChain` rebuilds a chain from the Kafka metadata of the newest block of its ledger; its
-- consumer then resumes at the offset after `lastOffsetPersisted`.

def offsetOldest : Int := -2

def getLastCutBlockNumber (blockchainHeight : Nat) : Nat := blockchainHeight - 1

def getOffsets : Option KafkaMetadata → Int × Int × Int
  | some kafkaMetadata =>
      (kafkaMetadata.lastOffsetPersisted, kafkaMetadata.lastOriginalOffsetProcessed,
        kafkaMetadata.lastResubmittedConfigOffset)
  | none => (offsetOldest - 1, 0, 0)

def newChain (height sequence : Nat) (lastOffsetPersisted lastOriginalOffsetProcessed
    lastResubmittedConfigOffset : Int) : Chain × Int :=
  ({ receiver := Receiver.empty
     lastOriginalOffsetProcessed
     lastResubmittedConfigOffset
     lastCutBlockNumber := getLastCutBlockNumber height
     doneReprocessingMsgInFlight := decide (lastResubmittedConfigOffset = 0 ∨
       lastResubmittedConfigOffset ≤ lastOriginalOffsetProcessed)
     timer := false
     sequence
     blocks := []
     posted := [] },
    lastOffsetPersisted + 1)

def handleChain (height sequence : Nat) (metadata : Option KafkaMetadata) : Chain × Int :=
  let (lastOffsetPersisted, lastOriginalOffsetProcessed, lastResubmittedConfigOffset) :=
    getOffsets metadata
  newChain height sequence lastOffsetPersisted lastOriginalOffsetProcessed
    lastResubmittedConfigOffset

def smallBatchSupport : Support where
  batchSize := ⟨10, 100, 10⟩
  resubmission := true
  headerType _ := some .endorserTransaction
  filters _ _ := .ok ()
  processConfigMsg _ _ := .error "not a config message"

def freshChain : Chain := ⟨Receiver.empty, 0, 0, 0, true, false, 1, [], []⟩

def pendingChain : Chain := { freshChain with receiver := ⟨[⟨[1, 1, 1, 1, 1, 1], []⟩], 6⟩ }

/-- Envelope `b` (6 bytes) was first received at offset 6 under an older sequence; two orderers
re-validated it and both re-submitted it with original offset 6. The first copy overflows the
pending batch and stays pending without advancing `lastOriginalOffsetProcessed`, so the second
copy is not recognised: `b` is written twice. -/
theorem resubmitted_message_committed_twice :
    let a : Envelope := ⟨[1, 1, 1, 1, 1, 1], []⟩
    let b : Envelope := ⟨[2, 2, 2, 2, 2, 2], []⟩
    let firstCopy := consume smallBatchSupport freshChain
      [(5, .regular ⟨a, 1, .normal, 0⟩), (6, .regular ⟨b, 0, .normal, 0⟩),
       (7, .regular ⟨b, 1, .normal, 6⟩)]
    let after := consume smallBatchSupport firstCopy
      [(8, .regular ⟨b, 1, .normal, 6⟩), (9, .timeToCut 3)]
    firstCopy.posted = [.regular ⟨b, 1, .normal, 6⟩] ∧
      firstCopy.receiver.pendingBatch = [b] ∧ firstCopy.lastOriginalOffsetProcessed = 0 ∧
      after.blocks.flatMap CutBlock.data = [a, b, b] := by
  decide

def configSupport : Support where
  batchSize := ⟨10, 100, 10⟩
  resubmission := true
  headerType env := if env.payload = [9] then some .config else some .endorserTransaction
  filters _ _ := .ok ()
  processConfigMsg sequence env := .ok (env, sequence)

/-- A config message written under an older sequence is re-validated and resubmitted at offset 5,
which blocks ingress until the copy is ordered; a normal message and a time-to-cut message then
write block 1. The chain that keeps running still waits for the copy, but the chain rebuilt from
block 1 has lost the resubmitted offset and takes new messages at once. -/
theorem restart_after_timeToCut_unblocks_ingress :
    let uninterrupted : Chain := consume configSupport freshChain
      [(5, .regular ⟨⟨[9], []⟩, 0, .config, 0⟩), (6, .regular ⟨⟨[1], []⟩, 1, .normal, 0⟩),
       (7, .timeToCut 1)]
    let restarted := handleChain (uninterrupted.lastCutBlockNumber + 1) uninterrupted.sequence
      (uninterrupted.blocks.getLast?.map CutBlock.metadata)
    uninterrupted.blocks.map CutBlock.metadata = [⟨7, 0, 0⟩] ∧ restarted.2 = 8 ∧
      (uninterrupted.lastResubmittedConfigOffset, uninterrupted.doneReprocessingMsgInFlight) =
        (5, false) ∧
      (restarted.1.lastResubmittedConfigOffset, restarted.1.doneReprocessingMsgInFlight) =
        (0, true) := by
  decide

end Fabric.Kafka
