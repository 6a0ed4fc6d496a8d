import Mathlib
import Fabric.Protos.Common

/-! `orderer/common/blockcutter`: the receiver that groups ordered envelopes into batches. -/

namespace Fabric.BlockCutter

/-- `orderer.BatchSize`, as read from the channel's orderer configuration. -/
structure BatchSize where
  maxMessageCount : UInt32
  absoluteMaxBytes : UInt32
  preferredMaxBytes : UInt32
  deriving DecidableEq, Repr

/-- `receiver`: the pending batch and its size in bytes. -/
structure Receiver where
  pendingBatch : List Envelope
  pendingBatchSizeBytes : UInt32
  deriving DecidableEq, Repr

def Receiver.empty : Receiver := ⟨[], 0⟩

@[simp] theorem Receiver.empty_pendingBatch : Receiver.empty.pendingBatch = [] := rfl

@[simp] theorem Receiver.empty_pendingBatchSizeBytes : Receiver.empty.pendingBatchSizeBytes = 0 := rfl

/-- `messageSizeBytes`: payload and signature lengths, summed as a `uint32`. -/
def messageSizeBytes (message : Envelope) : UInt32 :=
  UInt32.ofNat (message.payload.length + message.signature.length)

/-- `receiver.Cut`: the pending batch, and an empty receiver. -/
def Receiver.cut (r : Receiver) : List Envelope × Receiver := (r.pendingBatch, Receiver.empty)

/-- `receiver.Ordered`: the batches cut by `msg`, whether messages stay pending, and the new
receiver. The batch size is that of the orderer configuration at the time of the call. -/
def Receiver.ordered (batchSize : BatchSize) (r : Receiver) (msg : Envelope) :
    (List (List Envelope) × Bool) × Receiver :=
  let size := messageSizeBytes msg
  if size > batchSize.preferredMaxBytes then
    -- the message is isolated in a batch of its own, after the pending batch if any
    if r.pendingBatch.length > 0 then
      let (messageBatch, r) := r.cut
      (([messageBatch, [msg]], false), r)
    else (([[msg]], false), r)
  else
    let (messageBatches, r) :=
      if r.pendingBatchSizeBytes + size > batchSize.preferredMaxBytes then
        let (messageBatch, r) := r.cut
        ([messageBatch], r)
      else ([], r)
    let r : Receiver := ⟨r.pendingBatch ++ [msg], r.pendingBatchSizeBytes + size⟩
    if UInt32.ofNat r.pendingBatch.length ≥ batchSize.maxMessageCount then
      let (messageBatch, r) := r.cut
      ((messageBatches ++ [messageBatch], false), r)
    else ((messageBatches, true), r)

theorem ordered_overflow {batchSize : BatchSize} {r : Receiver} {msg : Envelope}
    (fits : messageSizeBytes msg ≤ batchSize.preferredMaxBytes)
    (overflow : batchSize.preferredMaxBytes < r.pendingBatchSizeBytes + messageSizeBytes msg)
    (room : 1 < batchSize.maxMessageCount) :
    r.ordered batchSize msg = (([r.pendingBatch], true), ⟨[msg], messageSizeBytes msg⟩) := by
  have notIsolated : ¬ messageSizeBytes msg > batchSize.preferredMaxBytes := by
    simpa using fits
  simp only [Receiver.ordered, notIsolated, if_false, gt_iff_lt, overflow, if_true,
    Receiver.cut, Receiver.empty, List.nil_append, UInt32.zero_add]
  simp [room]

def validateBatchSize (batchSize : BatchSize) : Except String Unit :=
  let preferredMaxBytes := batchSize.preferredMaxBytes
  let absoluteMaxBytes := batchSize.absoluteMaxBytes
  if batchSize.maxMessageCount = 0 then
    .error "Attempted to set the batch size max message count to an invalid value: 0"
  else if absoluteMaxBytes = 0 then
    .error "Attempted to set the batch size absolute max bytes to an invalid value: 0"
  else if preferredMaxBytes = 0 then
    .error "Attempted to set the batch size preferred max bytes to an invalid value: 0"
  else if preferredMaxBytes > absoluteMaxBytes then
    .error s!"Attempted to set the batch size preferred max bytes ({preferredMaxBytes}) greater than the absolute max bytes ({absoluteMaxBytes})."
  else .ok ()

theorem validateBatchSize_ok {batchSize : BatchSize} (valid : validateBatchSize batchSize = .ok ()) :
    0 < batchSize.maxMessageCount.toNat ∧ 0 < batchSize.preferredMaxBytes.toNat ∧
      batchSize.preferredMaxBytes ≤ batchSize.absoluteMaxBytes := by
  simp only [validateBatchSize] at valid
  split at valid
  · cases valid
  split at valid
  · cases valid
  split at valid
  · cases valid
  split at valid
  · cases valid
  rename_i count _ preferred above
  refine ⟨?_, ?_, by simpa using above⟩
  · rw [← UInt32.toNat_inj] at count
    simp only [UInt32.toNat_zero] at count
    omega
  · rw [← UInt32.toNat_inj] at preferred
    simp only [UInt32.toNat_zero] at preferred
    omega

def messageBytes (message : Envelope) : Nat := message.payload.length + message.signature.length

def batchBytes (batch : List Envelope) : Nat := (batch.map messageBytes).sum

@[simp] theorem batchBytes_nil : batchBytes [] = 0 := rfl

@[simp] theorem batchBytes_append (a b : List Envelope) :
    batchBytes (a ++ b) = batchBytes a + batchBytes b := by
  simp [batchBytes]

@[simp] theorem batchBytes_singleton (msg : Envelope) : batchBytes [msg] = messageBytes msg := by
  simp [batchBytes]

theorem messageSizeBytes_toNat {msg : Envelope} (small : messageBytes msg < 2 ^ 32) :
    (messageSizeBytes msg).toNat = messageBytes msg := by
  exact UInt32.toNat_ofNat_of_lt' small

def Receiver.orderedAll (batchSize : BatchSize) : Receiver → List Envelope → List (List Envelope) × Receiver
  | r, [] => ([], r)
  | r, msg :: msgs =>
      let out := r.ordered batchSize msg
      let rest := out.2.orderedAll batchSize msgs
      (out.1.1 ++ rest.1, rest.2)

section Step

variable {batchSize : BatchSize} {r r' : Receiver} {msg : Envelope}
  {messageBatches : List (List Envelope)} {pending : Bool}

theorem ordered_cases (ran : r.ordered batchSize msg = ((messageBatches, pending), r')) :
    (batchSize.preferredMaxBytes < messageSizeBytes msg ∧ r.pendingBatch ≠ [] ∧
      messageBatches = [r.pendingBatch, [msg]] ∧ pending = false ∧ r' = .empty) ∨
    (batchSize.preferredMaxBytes < messageSizeBytes msg ∧ r.pendingBatch = [] ∧
      messageBatches = [[msg]] ∧ pending = false ∧ r' = r) ∨
    (messageSizeBytes msg ≤ batchSize.preferredMaxBytes ∧
      batchSize.preferredMaxBytes < r.pendingBatchSizeBytes + messageSizeBytes msg ∧
      (batchSize.maxMessageCount ≤ 1 ∧ messageBatches = [r.pendingBatch, [msg]] ∧
          pending = false ∧ r' = .empty ∨
        1 < batchSize.maxMessageCount ∧ messageBatches = [r.pendingBatch] ∧ pending = true ∧
          r' = ⟨[msg], messageSizeBytes msg⟩)) ∨
    (messageSizeBytes msg ≤ batchSize.preferredMaxBytes ∧
      r.pendingBatchSizeBytes + messageSizeBytes msg ≤ batchSize.preferredMaxBytes ∧
      (batchSize.maxMessageCount ≤ UInt32.ofNat (r.pendingBatch.length + 1) ∧
          messageBatches = [r.pendingBatch ++ [msg]] ∧ pending = false ∧ r' = .empty ∨
        UInt32.ofNat (r.pendingBatch.length + 1) < batchSize.maxMessageCount ∧ messageBatches = [] ∧
          pending = true ∧ r' = ⟨r.pendingBatch ++ [msg], r.pendingBatchSizeBytes + messageSizeBytes msg⟩)) := by
  simp only [Receiver.ordered, Receiver.cut, gt_iff_lt] at ran
  split at ran
  · rename_i isolated
    split at ran
    · rename_i nonempty
      simp only [Prod.mk.injEq] at ran
      obtain ⟨⟨rfl, rfl⟩, rfl⟩ := ran
      exact .inl ⟨isolated, List.ne_nil_of_length_pos nonempty, rfl, rfl, rfl⟩
    · rename_i empty
      simp only [Prod.mk.injEq] at ran
      obtain ⟨⟨rfl, rfl⟩, rfl⟩ := ran
      exact .inr (.inl ⟨isolated, List.eq_nil_of_length_eq_zero (by omega), rfl, rfl, rfl⟩)
  · rename_i fits
    replace fits := UInt32.not_lt.mp fits
    split at ran
    · -- the pending batch is cut and the message starts the next one
      rename_i overflow
      simp only [Receiver.empty_pendingBatch, Receiver.empty_pendingBatchSizeBytes, List.nil_append,
        UInt32.zero_add, List.length_singleton, ge_iff_le] at ran
      refine .inr (.inr (.inl ⟨fits, overflow, ?_⟩))
      split at ran
      · rename_i full
        obtain ⟨⟨rfl, rfl⟩, rfl⟩ := ran
        exact .inl ⟨full, rfl, rfl, rfl⟩
      · rename_i room
        obtain ⟨⟨rfl, rfl⟩, rfl⟩ := ran
        exact .inr ⟨UInt32.not_le.mp room, rfl, rfl, rfl⟩
    · -- the message joins the pending batch
      rename_i within
      simp only [List.length_append, List.length_singleton, ge_iff_le, List.nil_append] at ran
      refine .inr (.inr (.inr ⟨fits, UInt32.not_lt.mp within, ?_⟩))
      split at ran
      · rename_i full
        obtain ⟨⟨rfl, rfl⟩, rfl⟩ := ran
        exact .inl ⟨full, rfl, rfl, rfl⟩
      · rename_i room
        obtain ⟨⟨rfl, rfl⟩, rfl⟩ := ran
        exact .inr ⟨UInt32.not_le.mp room, rfl, rfl, rfl⟩

theorem ordered_enqueue (fits : messageSizeBytes msg ≤ batchSize.preferredMaxBytes)
    (within : r.pendingBatchSizeBytes + messageSizeBytes msg ≤ batchSize.preferredMaxBytes)
    (room : UInt32.ofNat (r.pendingBatch.length + 1) < batchSize.maxMessageCount) :
    r.ordered batchSize msg =
      (([], true), ⟨r.pendingBatch ++ [msg], r.pendingBatchSizeBytes + messageSizeBytes msg⟩) := by
  have notIsolated : ¬ messageSizeBytes msg > batchSize.preferredMaxBytes := UInt32.not_lt.mpr fits
  have noOverflow : ¬ r.pendingBatchSizeBytes + messageSizeBytes msg > batchSize.preferredMaxBytes :=
    UInt32.not_lt.mpr within
  have notFull : ¬ UInt32.ofNat (r.pendingBatch ++ [msg]).length ≥ batchSize.maxMessageCount := by
    simpa using room
  simp only [Receiver.ordered, notIsolated, noOverflow, notFull, if_false, List.nil_append]

theorem ordered_flatten (ran : r.ordered batchSize msg = ((messageBatches, pending), r')) :
    messageBatches.flatten ++ r'.pendingBatch = r.pendingBatch ++ [msg] := by
  rcases ordered_cases ran with ⟨-, -, rfl, -, rfl⟩ | ⟨-, empty, rfl, -, rfl⟩ |
    ⟨-, -, ⟨-, rfl, -, rfl⟩ | ⟨-, rfl, -, rfl⟩⟩ | ⟨-, -, ⟨-, rfl, -, rfl⟩ | ⟨-, rfl, -, rfl⟩⟩ <;>
    simp [*]

end Step

structure Receiver.Wf (batchSize : BatchSize) (r : Receiver) : Prop where
  bytes_of_nil : r.pendingBatch = [] → r.pendingBatchSizeBytes = 0
  length_lt : r.pendingBatch.length < batchSize.maxMessageCount.toNat

structure BatchOk (batchSize : BatchSize) (batch : List Envelope) : Prop where
  ne_nil : batch ≠ []
  length_le : batch.length ≤ batchSize.maxMessageCount.toNat

structure Receiver.Exact (batchSize : BatchSize) (r : Receiver) : Prop where
  bytes_eq : r.pendingBatchSizeBytes.toNat = batchBytes r.pendingBatch
  bytes_le : batchBytes r.pendingBatch ≤ batchSize.preferredMaxBytes.toNat

section Invariants

variable {batchSize : BatchSize} {r r' : Receiver} {msg : Envelope}
  {messageBatches : List (List Envelope)} {pending : Bool}

theorem Receiver.wf_empty (count : 0 < batchSize.maxMessageCount.toNat) :
    Receiver.empty.Wf batchSize :=
  ⟨fun _ => rfl, by simpa using count⟩

theorem Receiver.exact_empty : Receiver.empty.Exact batchSize :=
  ⟨rfl, by simp⟩

theorem Receiver.Wf.pendingBatch_ne_nil (wf : r.Wf batchSize)
    (fits : messageSizeBytes msg ≤ batchSize.preferredMaxBytes)
    (overflow : batchSize.preferredMaxBytes < r.pendingBatchSizeBytes + messageSizeBytes msg) :
    r.pendingBatch ≠ [] := by
  intro empty
  rw [wf.bytes_of_nil empty, UInt32.zero_add] at overflow
  exact UInt32.not_lt.mpr fits overflow

theorem ofNat_lt_toNat {n : Nat} {count : UInt32} (small : n ≤ count.toNat) :
    UInt32.ofNat n < count ↔ n < count.toNat := by
  rw [UInt32.lt_iff_toNat_lt, UInt32.toNat_ofNat_of_lt' (Nat.lt_of_le_of_lt small count.toNat_lt)]

theorem Receiver.Wf.ordered (wf : r.Wf batchSize)
    (ran : r.ordered batchSize msg = ((messageBatches, pending), r')) :
    r'.Wf batchSize ∧ ∀ batch ∈ messageBatches, BatchOk batchSize batch := by
  have count : 0 < batchSize.maxMessageCount.toNat := by have := wf.length_lt; omega
  have cutOk : r.pendingBatch ≠ [] → BatchOk batchSize r.pendingBatch :=
    fun nonempty => ⟨nonempty, Nat.le_of_lt wf.length_lt⟩
  have singleOk : BatchOk batchSize [msg] := ⟨by simp, by simp; omega⟩
  rcases ordered_cases ran with ⟨-, nonempty, rfl, -, rfl⟩ | ⟨-, -, rfl, -, rfl⟩ |
    ⟨fits, overflow, ⟨-, rfl, -, rfl⟩ | ⟨room, rfl, -, rfl⟩⟩ |
    ⟨-, -, ⟨-, rfl, -, rfl⟩ | ⟨room, rfl, -, rfl⟩⟩
  · exact ⟨Receiver.wf_empty count, by simp [cutOk nonempty, singleOk]⟩
  · exact ⟨wf, by simp [singleOk]⟩
  · have nonempty := wf.pendingBatch_ne_nil fits overflow
    exact ⟨Receiver.wf_empty count, by simp [cutOk nonempty, singleOk]⟩
  · have nonempty := wf.pendingBatch_ne_nil fits overflow
    refine ⟨⟨by simp, ?_⟩, by simp [cutOk nonempty]⟩
    simpa [UInt32.lt_iff_toNat_lt] using room
  · refine ⟨Receiver.wf_empty count, ?_⟩
    have below := wf.length_lt
    simp only [List.mem_singleton, forall_eq]
    exact ⟨by simp, by simp; omega⟩
  · have below := wf.length_lt
    refine ⟨⟨by simp, ?_⟩, by simp⟩
    simpa using (ofNat_lt_toNat below).mp room

theorem Receiver.Exact.sum_toNat (preferred : batchSize.preferredMaxBytes.toNat < 2 ^ 31)
    (small : messageBytes msg < 2 ^ 32) (exact : r.Exact batchSize)
    (fits : messageSizeBytes msg ≤ batchSize.preferredMaxBytes) :
    (r.pendingBatchSizeBytes + messageSizeBytes msg).toNat =
      batchBytes r.pendingBatch + messageBytes msg := by
  have size := messageSizeBytes_toNat small
  have fitsNat := UInt32.le_iff_toNat_le.mp fits
  have pendingNat := exact.bytes_le
  rw [UInt32.toNat_add, exact.bytes_eq, size]
  exact Nat.mod_eq_of_lt (by omega)

theorem Receiver.Exact.ordered (preferred : batchSize.preferredMaxBytes.toNat < 2 ^ 31)
    (small : messageBytes msg < 2 ^ 32) (exact : r.Exact batchSize)
    (ran : r.ordered batchSize msg = ((messageBatches, pending), r')) :
    r'.Exact batchSize ∧ ∀ batch ∈ messageBatches,
      batch.length = 1 ∨ batchBytes batch ≤ batchSize.preferredMaxBytes.toNat := by
  have size := messageSizeBytes_toNat small
  rcases ordered_cases ran with ⟨-, -, rfl, -, rfl⟩ | ⟨-, -, rfl, -, rfl⟩ |
    ⟨fits, -, ⟨-, rfl, -, rfl⟩ | ⟨-, rfl, -, rfl⟩⟩ |
    ⟨fits, within, ⟨-, rfl, -, rfl⟩ | ⟨-, rfl, -, rfl⟩⟩
  · exact ⟨Receiver.exact_empty, by simp [exact.bytes_le]⟩
  · exact ⟨exact, by simp⟩
  · exact ⟨Receiver.exact_empty, by simp [exact.bytes_le]⟩
  · have fitsNat := UInt32.le_iff_toNat_le.mp fits
    exact ⟨⟨by simp [size], by simpa [size] using fitsNat⟩, by simp [exact.bytes_le]⟩
  · have withinNat := UInt32.le_iff_toNat_le.mp within
    rw [exact.sum_toNat preferred small fits] at withinNat
    exact ⟨Receiver.exact_empty, by simp [withinNat]⟩
  · have withinNat := UInt32.le_iff_toNat_le.mp within
    rw [exact.sum_toNat preferred small fits] at withinNat
    exact ⟨⟨by simp [exact.sum_toNat preferred small fits], by simpa using withinNat⟩, by simp⟩

end Invariants

section Run

variable {batchSize : BatchSize}

theorem orderedAll_flatten (r : Receiver) (msgs : List Envelope) :
    (r.orderedAll batchSize msgs).1.flatten ++ (r.orderedAll batchSize msgs).2.pendingBatch =
      r.pendingBatch ++ msgs := by
  induction msgs generalizing r with
  | nil => simp [Receiver.orderedAll]
  | cons msg msgs ih =>
    rcases step : r.ordered batchSize msg with ⟨⟨messageBatches, pending⟩, r'⟩
    have kept := ordered_flatten step
    simp only [Receiver.orderedAll, step, List.flatten_append, List.append_assoc, ih r']
    rw [← List.append_assoc, kept, List.append_assoc, List.singleton_append]

theorem Receiver.Wf.orderedAll {r : Receiver} (wf : r.Wf batchSize) (msgs : List Envelope) :
    (r.orderedAll batchSize msgs).2.Wf batchSize ∧
      ∀ batch ∈ (r.orderedAll batchSize msgs).1, BatchOk batchSize batch := by
  induction msgs generalizing r with
  | nil => simp [Receiver.orderedAll, wf]
  | cons msg msgs ih =>
    rcases step : r.ordered batchSize msg with ⟨⟨messageBatches, pending⟩, r'⟩
    obtain ⟨wf', cut⟩ := wf.ordered step
    obtain ⟨wfRun, cutRun⟩ := ih wf'
    simp only [Receiver.orderedAll, step, List.mem_append]
    exact ⟨wfRun, fun batch member => member.elim (cut batch) (cutRun batch)⟩

theorem Receiver.Exact.orderedAll (preferred : batchSize.preferredMaxBytes.toNat < 2 ^ 31)
    {r : Receiver} (exact : r.Exact batchSize) (msgs : List Envelope)
    (small : ∀ msg ∈ msgs, messageBytes msg < 2 ^ 32) :
    (r.orderedAll batchSize msgs).2.Exact batchSize ∧
      ∀ batch ∈ (r.orderedAll batchSize msgs).1,
        batch.length = 1 ∨ batchBytes batch ≤ batchSize.preferredMaxBytes.toNat := by
  induction msgs generalizing r with
  | nil => simp [Receiver.orderedAll, exact]
  | cons msg msgs ih =>
    rcases step : r.ordered batchSize msg with ⟨⟨messageBatches, pending⟩, r'⟩
    obtain ⟨exact', cut⟩ := exact.ordered preferred (small msg (by simp)) step
    obtain ⟨exactRun, cutRun⟩ := ih exact' (fun msg member => small msg (by simp [member]))
    simp only [Receiver.orderedAll, step, List.mem_append]
    exact ⟨exactRun, fun batch member => member.elim (cut batch) (cutRun batch)⟩

/-- The block cutter's contract where the byte count cannot wrap: from an empty receiver under a
valid batch size, the batches of the `Ordered` calls and of one final `Cut` are the messages in
order, each batch of a call is not empty, and every batch is within the count limit and is a
single envelope or within the preferred size. -/
theorem orderedAll_cut (valid : validateBatchSize batchSize = .ok ())
    (preferred : batchSize.preferredMaxBytes.toNat < 2 ^ 31) (msgs : List Envelope)
    (small : ∀ msg ∈ msgs, messageBytes msg < 2 ^ 32) :
    let run := Receiver.empty.orderedAll batchSize msgs
    (run.1 ++ [run.2.cut.1]).flatten = msgs ∧ (∀ batch ∈ run.1, batch ≠ []) ∧
      ∀ batch ∈ run.1 ++ [run.2.cut.1], batch.length ≤ batchSize.maxMessageCount.toNat ∧
        (batch.length = 1 ∨ batchBytes batch ≤ batchSize.preferredMaxBytes.toNat) := by
  intro run
  obtain ⟨count, -, -⟩ := validateBatchSize_ok valid
  obtain ⟨wf, cutOk⟩ := (Receiver.wf_empty count).orderedAll msgs
  obtain ⟨exact, cutSized⟩ := Receiver.exact_empty.orderedAll preferred msgs small
  refine ⟨?_, fun batch member => (cutOk batch member).ne_nil, ?_⟩
  · simpa [Receiver.cut] using orderedAll_flatten Receiver.empty msgs
  · intro batch member
    rcases List.mem_append.mp member with cut | final
    · exact ⟨(cutOk batch cut).length_le, cutSized batch cut⟩
    · -- the final `Cut` returns what is pending
      simp only [Receiver.cut, List.mem_singleton] at final
      subst final
      exact ⟨Nat.le_of_lt wf.length_lt, .inr exact.bytes_le⟩

theorem orderedAll_cut_of_three_envelopes :
    validateBatchSize ⟨2, 8, 4⟩ = .ok () ∧ (⟨2, 8, 4⟩ : BatchSize).preferredMaxBytes.toNat < 2 ^ 31 ∧
      (∀ msg ∈ ([⟨[1, 2], []⟩, ⟨[3, 4, 5], []⟩, ⟨[6], []⟩] : List Envelope), messageBytes msg < 2 ^ 32) ∧
      let run := Receiver.empty.orderedAll ⟨2, 8, 4⟩ [⟨[1, 2], []⟩, ⟨[3, 4, 5], []⟩, ⟨[6], []⟩]
      (run.1 ++ [run.2.cut.1]).flatten = [⟨[1, 2], []⟩, ⟨[3, 4, 5], []⟩, ⟨[6], []⟩] ∧
        (∀ batch ∈ run.1, batch ≠ []) ∧
        ∀ batch ∈ run.1 ++ [run.2.cut.1], batch.length ≤ (⟨2, 8, 4⟩ : BatchSize).maxMessageCount.toNat ∧
          (batch.length = 1 ∨ batchBytes batch ≤ (⟨2, 8, 4⟩ : BatchSize).preferredMaxBytes.toNat) :=
  ⟨by decide, by decide, by decide, orderedAll_cut (by decide) (by decide) _ (by decide)⟩

end Run

theorem orderedAll_of_largest_preferred {batchSize : BatchSize} (largest : batchSize.preferredMaxBytes = 0xFFFFFFFF) :
    ∀ (msgs : List Envelope) (r : Receiver),
      r.pendingBatch.length + msgs.length < batchSize.maxMessageCount.toNat →
      r.orderedAll batchSize msgs =
        ([], ⟨r.pendingBatch ++ msgs, r.pendingBatchSizeBytes + (msgs.map messageSizeBytes).sum⟩) := by
  have atMost : ∀ bytes : UInt32, bytes ≤ batchSize.preferredMaxBytes := by
    intro bytes
    rw [largest, UInt32.le_iff_toNat_le]
    have := bytes.toNat_lt
    simp only [UInt32.reduceToNat]
    omega
  intro msgs
  induction msgs with
  | nil =>
    intro r _
    simp only [Receiver.orderedAll, List.append_nil, List.map_nil, List.sum_nil, UInt32.add_zero]
  | cons msg rest ih =>
    intro r room
    have enqueued : r.ordered batchSize msg = _ := ordered_enqueue (atMost _) (atMost _)
      ((ofNat_lt_toNat (by simp only [List.length_cons] at room; omega)).mpr
        (by simp only [List.length_cons] at room; omega))
    simp only [Receiver.orderedAll, enqueued]
    rw [ih _ (by simp only [List.length_cons, List.length_append, List.length_nil, zero_add] at room ⊢; omega)]
    simp only [List.append_nil, List.append_assoc, List.cons_append, List.nil_append, UInt32.add_assoc,
      List.map_cons, List.sum_cons]

def hundredMillionByteEnvelope : Envelope := ⟨List.replicate (10 ^ 8) 0, []⟩

def largestBatchSize : BatchSize := ⟨100, 0xFFFFFFFF, 0xFFFFFFFF⟩

-- the envelope is only ever rewritten, never evaluated: its payload has 10^8 bytes
theorem hundredMillionByteEnvelope_payload : hundredMillionByteEnvelope.payload = List.replicate (10 ^ 8) 0 := rfl

theorem hundredMillionByteEnvelope_signature : hundredMillionByteEnvelope.signature = [] := rfl

theorem messageBytes_hundredMillionByteEnvelope : messageBytes hundredMillionByteEnvelope = 10 ^ 8 := by
  rw [messageBytes, hundredMillionByteEnvelope_payload, hundredMillionByteEnvelope_signature, List.length_replicate,
    List.length_nil, Nat.add_zero]

/-- Forty-three envelopes of 10^8 bytes: their pending `uint32` byte count wraps past 2^32 to
5,032,704, nothing is cut, and the final `Cut` returns one batch of 4.3 GB, above the preferred
size. -/
theorem wrapped_pending_bytes_keep_an_oversized_batch :
    validateBatchSize largestBatchSize = .ok () ∧
      Receiver.empty.orderedAll largestBatchSize (List.replicate 43 hundredMillionByteEnvelope) =
        ([], ⟨List.replicate 43 hundredMillionByteEnvelope, 5032704⟩) ∧
      largestBatchSize.preferredMaxBytes.toNat < batchBytes (List.replicate 43 hundredMillionByteEnvelope) := by
  have size : messageSizeBytes hundredMillionByteEnvelope = UInt32.ofNat (10 ^ 8) := by
    rw [messageSizeBytes, ← messageBytes, messageBytes_hundredMillionByteEnvelope]
  refine ⟨by decide, ?_, ?_⟩
  · -- 43 * 10^8 modulo 2^32
    have wrapped : ((List.replicate 43 hundredMillionByteEnvelope).map messageSizeBytes).sum = 5032704 := by
      rw [List.map_replicate, size]
      decide
    rw [orderedAll_of_largest_preferred rfl _ _ (by simp; decide), Receiver.empty_pendingBatch,
      Receiver.empty_pendingBatchSizeBytes, List.nil_append, wrapped, UInt32.zero_add]
  · rw [batchBytes, List.map_replicate, messageBytes_hundredMillionByteEnvelope, List.sum_replicate_nat]
    decide

end Fabric.BlockCutter
