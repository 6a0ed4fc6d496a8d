import Mathlib.Data.List.Dedup
import Mathlib.Tactic.Ring
import Fabric.Protos.Common
import Fabric.Lib.Basic

/-! `gossip/state`: how a peer serves the anti-entropy requests of other peers for blocks it has
committed. The ledger is read through the coordinator, whose answers are parameters here; the
logging of ignored requests and skipped blocks is left out. -/

namespace Fabric.GossipState

def defAntiEntropyBatchSize : UInt64 := 10

def min (a b : UInt64) : UInt64 := b ^^^ ((a ^^^ b) &&& -((a - b) >>> 63))

structure RemoteStateRequest where
  startSeqNum : UInt64
  endSeqNum : UInt64
  deriving DecidableEq, Repr

/-- `proto.Payload`: a block and its private data, marshalled. -/
structure Payload where
  seqNum : UInt64
  data : Bytes
  privateData : List Bytes
  deriving DecidableEq, Repr

structure StateLedger (Block PvtData : Type) where
  ledgerHeight : Except String UInt64
  getPvtDataAndBlockByNum : UInt64 → Except String (Option Block × Option PvtData)
  marshalBlock : Block → Except String Bytes
  marshalPvtData : PvtData → Except String (List Bytes)

inductive Outcome where
  | ignored
  | responded (payloads : List Payload)
  deriving DecidableEq, Repr

variable {Block PvtData : Type}

def StateLedger.payloadAt (ledger : StateLedger Block PvtData) (seqNum : UInt64) : Option Payload :=
  match ledger.getPvtDataAndBlockByNum seqNum with
  | .error _ => none
  | .ok (none, _) => none
  | .ok (some block, pvtData) =>
    match ledger.marshalBlock block with
    | .error _ => none
    | .ok blockBytes =>
      match pvtData with
      | none => some ⟨seqNum, blockBytes, []⟩
      | some pvtData =>
        match ledger.marshalPvtData pvtData with
        | .error _ => none
        | .ok pvtBytes => some ⟨seqNum, blockBytes, pvtBytes⟩

def StateLedger.serve (ledger : StateLedger Block PvtData) (endSeqNum : UInt64) :
    Nat → UInt64 → List Payload → Option (List Payload)
  -- the fuel counts the tests of the loop condition; `none` means it ran out first
  | 0, _, _ => none
  | fuel + 1, seqNum, payloads =>
    if seqNum ≤ endSeqNum then
      ledger.serve endSeqNum fuel (seqNum + 1) (payloads ++ (ledger.payloadAt seqNum).toList)
    else some payloads

/-- `GossipStateProviderImpl.handleStateRequest`, with `fuel` tests of the loop condition. -/
def StateLedger.handleStateRequest (ledger : StateLedger Block PvtData) (fuel : Nat)
    (request : RemoteStateRequest) : Option Outcome :=
  let batchSize := request.endSeqNum - request.startSeqNum
  if batchSize > defAntiEntropyBatchSize then some .ignored
  else if request.startSeqNum > request.endSeqNum then some .ignored
  else
    match ledger.ledgerHeight with
    | .error _ => some .ignored
    | .ok currentHeight =>
      let endSeqNum := min currentHeight request.endSeqNum
      (ledger.serve endSeqNum fuel request.startSeqNum []).map .responded

section Min

variable {a b : UInt64}

theorem shiftRight_sign_of_lt {x : UInt64} (small : x.toNat < 2 ^ 63) : x >>> 63 = 0 := by
  rw [← UInt64.toNat_inj]
  simp [Nat.shiftRight_eq_div_pow]
  omega

theorem shiftRight_sign_of_le {x : UInt64} (large : 2 ^ 63 ≤ x.toNat) : x >>> 63 = 1 := by
  have below := x.toNat_lt
  rw [← UInt64.toNat_inj]
  simp [Nat.shiftRight_eq_div_pow]
  omega

theorem min_of_sign_clear (clear : (a - b).toNat < 2 ^ 63) : min a b = b := by
  simp [min, shiftRight_sign_of_lt clear]

theorem min_of_sign_set (set : 2 ^ 63 ≤ (a - b).toNat) : min a b = a := by
  simp only [min, shiftRight_sign_of_le set, UInt64.and_neg_one]
  rw [UInt64.xor_comm a b, ← UInt64.xor_assoc, UInt64.xor_self, UInt64.zero_xor]

theorem min_eq_min (near : b.toNat ≤ a.toNat + 2 ^ 63) (near' : a.toNat < b.toNat + 2 ^ 63) :
    min a b = Min.min a b := by
  have sub := UInt64.toNat_sub a b
  have aBelow := a.toNat_lt
  have bBelow := b.toNat_lt
  rw [UInt64.min_def]
  by_cases lt : a.toNat < b.toNat
  · rw [min_of_sign_set (by omega), if_pos (UInt64.le_iff_toNat_le.mpr (by omega))]
  · rw [min_of_sign_clear (by omega)]
    split
    · exact UInt64.le_antisymm (UInt64.le_iff_toNat_le.mpr (by omega)) ‹_›
    · rfl

theorem min_le_right (small : a.toNat < 2 ^ 63) : min a b ≤ b := by
  by_cases near : b.toNat ≤ a.toNat + 2 ^ 63
  · rw [min_eq_min near (by omega), UInt64.min_def]
    split
    · assumption
    · exact UInt64.le_refl b
  · have sub := UInt64.toNat_sub a b
    rw [min_of_sign_clear (by omega)]
    exact UInt64.le_refl b

/-- The branch-free `min` is the minimum exactly when its arguments are less than 2^63 apart
(the first may be 2^63 below the second): further apart, the sign bit of the wrapping
difference is the wrong way round and the larger argument is returned. -/
theorem branchless_min_is_min_iff_near (a b : UInt64) :
    min a b = Min.min a b ↔ b.toNat ≤ a.toNat + 2 ^ 63 ∧ a.toNat < b.toNat + 2 ^ 63 := by
  have sub := UInt64.toNat_sub a b
  have aBelow := a.toNat_lt
  have bBelow := b.toNat_lt
  constructor
  · intro isMin
    rw [UInt64.min_def] at isMin
    by_contra far
    rcases not_and_or.mp far with above | below
    · -- `b` is more than 2^63 above `a`: the sign is clear and `b` comes back
      rw [min_of_sign_clear (by omega), if_pos (UInt64.le_iff_toNat_le.mpr (by omega))] at isMin
      rw [isMin] at above
      omega
    · -- `a` is at least 2^63 above `b`: the sign is set and `a` comes back
      rw [min_of_sign_set (by omega), if_neg (fun le => by rw [UInt64.le_iff_toNat_le] at le; omega)] at isMin
      rw [isMin] at below
      omega
  · rintro ⟨near, near'⟩
    exact min_eq_min near near'

end Min

/-- `k` sequence numbers from `seqNum` on, as uint64 counts them. -/
def consecutiveFrom (seqNum : UInt64) (k : Nat) : List UInt64 :=
  (List.range k).map fun i => seqNum + UInt64.ofNat i

theorem consecutiveFrom_succ (seqNum : UInt64) (k : Nat) :
    consecutiveFrom seqNum (k + 1) = seqNum :: consecutiveFrom (seqNum + 1) k := by
  rw [consecutiveFrom, List.range_succ_eq_map, List.map_cons, List.map_map, consecutiveFrom]
  refine congrArg₂ List.cons (by simp) (List.map_congr_left fun i _ => ?_)
  rw [← UInt64.toNat_inj]
  simp only [Function.comp_apply, UInt64.toNat_add, UInt64.toNat_ofNat', UInt64.toNat_one]
  omega

def seqNumsFrom (seqNum : UInt64) (k : Nat) : List UInt64 :=
  (List.range (k + 1)).map fun i => seqNum + UInt64.ofNat i

structure StateLedger.HasHeight (ledger : StateLedger Block PvtData) (height : UInt64) : Prop where
  ledgerHeight_eq : ledger.ledgerHeight = .ok height
  no_block_above : ∀ seqNum, height ≤ seqNum → ∀ block pvtData,
    ledger.getPvtDataAndBlockByNum seqNum ≠ .ok (some block, pvtData)

section Serve

variable (ledger : StateLedger Block PvtData) {endSeqNum seqNum : UInt64} {fuel : Nat}
  {payloads : List Payload}

theorem payloadAt_seqNum {payload : Payload} (served : ledger.payloadAt seqNum = some payload) :
    payload.seqNum = seqNum := by
  simp only [StateLedger.payloadAt] at served
  split at served
  · cases served
  · cases served
  · split at served
    · cases served
    · split at served
      · cases served
        rfl
      · split at served
        · cases served
        · cases served
          rfl

theorem payloadAt_of_no_block
    (noBlock : ∀ block pvtData, ledger.getPvtDataAndBlockByNum seqNum ≠ .ok (some block, pvtData)) :
    ledger.payloadAt seqNum = none := by
  simp only [StateLedger.payloadAt]
  split
  · rfl
  · rfl
  · exact absurd ‹_› (noBlock _ _)

theorem serve_of_le (le : seqNum ≤ endSeqNum) :
    ledger.serve endSeqNum (fuel + 1) seqNum payloads =
      ledger.serve endSeqNum fuel (seqNum + 1) (payloads ++ (ledger.payloadAt seqNum).toList) := by
  simp [StateLedger.serve, le]

theorem serve_of_lt (lt : endSeqNum < seqNum) :
    ledger.serve endSeqNum (fuel + 1) seqNum payloads = some payloads := by
  simp [StateLedger.serve, UInt64.not_le.mpr lt]

theorem serve_fuel_succ : ∀ {seqNum payloads result},
    ledger.serve endSeqNum fuel seqNum payloads = some result →
      ledger.serve endSeqNum (fuel + 1) seqNum payloads = some result := by
  induction fuel with
  | zero => intro _ _ _ stopped; cases stopped
  | succ fuel ih =>
    intro seqNum payloads result stopped
    by_cases le : seqNum ≤ endSeqNum
    · rw [serve_of_le ledger le] at stopped ⊢
      exact ih stopped
    · rw [serve_of_lt ledger (UInt64.not_le.mp le)] at stopped ⊢
      exact stopped

theorem serve_fuel_le {fuel' : Nat} {result : List Payload} (more : fuel ≤ fuel')
    (stopped : ledger.serve endSeqNum fuel seqNum payloads = some result) :
    ledger.serve endSeqNum fuel' seqNum payloads = some result := by
  induction more with
  | refl => exact stopped
  | step _ ih => exact serve_fuel_succ ledger ih

theorem serve_max (fuel : Nat) :
    ∀ seqNum payloads, ledger.serve 0xFFFFFFFFFFFFFFFF fuel seqNum payloads = none := by
  induction fuel with
  | zero => intro _ _; rfl
  | succ fuel ih =>
    intro seqNum payloads
    have le : seqNum ≤ 0xFFFFFFFFFFFFFFFF := by
      have below := seqNum.toNat_lt
      rw [UInt64.le_iff_toNat_le]
      simp
      omega
    rw [serve_of_le ledger le]
    exact ih _ _

theorem seqNumsFrom_zero (seqNum : UInt64) : seqNumsFrom seqNum 0 = [seqNum] := by
  simp [seqNumsFrom]

theorem seqNumsFrom_succ (seqNum : UInt64) (k : Nat) :
    seqNumsFrom seqNum (k + 1) = seqNum :: seqNumsFrom (seqNum + 1) k :=
  consecutiveFrom_succ seqNum (k + 1)

theorem length_seqNumsFrom (seqNum : UInt64) (k : Nat) : (seqNumsFrom seqNum k).length = k + 1 := by
  simp [seqNumsFrom]

theorem mem_seqNumsFrom {k : Nat} {visited : UInt64} (noWrap : seqNum.toNat + k < 2 ^ 64)
    (mem : visited ∈ seqNumsFrom seqNum k) :
    seqNum.toNat ≤ visited.toNat ∧ visited.toNat ≤ seqNum.toNat + k := by
  obtain ⟨i, lt, rfl⟩ := List.mem_map.mp mem
  have lt := List.mem_range.mp lt
  simp only [UInt64.toNat_add, UInt64.toNat_ofNat']
  omega

theorem seqNumsFrom_pairwise {k : Nat} (noWrap : seqNum.toNat + k < 2 ^ 64) :
    (seqNumsFrom seqNum k).Pairwise (· < ·) := by
  apply List.pairwise_map.mpr
  apply List.pairwise_lt_range.imp_of_mem
  intro i j iMem jMem lt
  have iBelow := List.mem_range.mp iMem
  have jBelow := List.mem_range.mp jMem
  rw [UInt64.lt_iff_toNat_lt]
  simp only [UInt64.toNat_add, UInt64.toNat_ofNat']
  omega

theorem seqNums_sublist (seqNums : List UInt64) :
    ((seqNums.filterMap ledger.payloadAt).map Payload.seqNum).Sublist seqNums := by
  induction seqNums with
  | nil => simp
  | cons seqNum seqNums ih =>
    rcases served : ledger.payloadAt seqNum with _ | payload
    · simpa [List.filterMap_cons, served] using ih.cons seqNum
    · simpa [List.filterMap_cons, served, payloadAt_seqNum ledger served] using ih.cons_cons seqNum

theorem serve_range (endSmall : endSeqNum.toNat < 2 ^ 64 - 1) (k : Nat) :
    ∀ seqNum payloads, seqNum.toNat + k = endSeqNum.toNat →
      ledger.serve endSeqNum (k + 2) seqNum payloads =
        some (payloads ++ (seqNumsFrom seqNum k).filterMap ledger.payloadAt) := by
  induction k with
  | zero =>
    intro seqNum payloads reach
    have same : seqNum = endSeqNum := UInt64.toNat_inj.mp (by omega)
    subst same
    have past : seqNum < seqNum + 1 := by
      rw [UInt64.lt_iff_toNat_lt, UInt64.toNat_add]
      simp only [UInt64.toNat_one]
      omega
    rw [serve_of_le ledger (UInt64.le_refl _), serve_of_lt ledger past, seqNumsFrom_zero]
    rcases served : ledger.payloadAt seqNum with _ | payload <;> simp [served]
  | succ k ih =>
    intro seqNum payloads reach
    have le : seqNum ≤ endSeqNum := UInt64.le_iff_toNat_le.mpr (by omega)
    have next : (seqNum + 1).toNat = seqNum.toNat + 1 := by
      rw [UInt64.toNat_add]
      simp only [UInt64.toNat_one]
      omega
    rw [serve_of_le ledger le, ih (seqNum + 1) _ (by omega), seqNumsFrom_succ]
    rcases served : ledger.payloadAt seqNum with _ | payload <;> simp [served]

theorem serve_bounded {n : Nat} (endSmall : endSeqNum.toNat < 2 ^ 64 - 1)
    (within : endSeqNum.toNat ≤ seqNum.toNat + n) :
    ∃ payloads, ledger.serve endSeqNum (n + 2) seqNum [] = some payloads ∧
      payloads.length ≤ n + 1 ∧ (payloads.map Payload.seqNum).Pairwise (· < ·) ∧
      ∀ payload ∈ payloads, seqNum ≤ payload.seqNum ∧ payload.seqNum ≤ endSeqNum ∧
        ledger.payloadAt payload.seqNum = some payload := by
  by_cases le : seqNum ≤ endSeqNum
  · -- the loop visits `endSeqNum - seqNum + 1` sequence numbers
    have leNat := UInt64.le_iff_toNat_le.mp le
    obtain ⟨k, reach⟩ : ∃ k, seqNum.toNat + k = endSeqNum.toNat := ⟨_, Nat.add_sub_of_le leNat⟩
    have noWrap : seqNum.toNat + k < 2 ^ 64 := by omega
    have sublist := seqNums_sublist ledger (seqNumsFrom seqNum k)
    refine ⟨_, serve_fuel_le ledger (by omega) (serve_range ledger endSmall k seqNum [] reach), ?_, ?_, ?_⟩
    · have := sublist.length_le
      simp only [List.nil_append, List.length_map, length_seqNumsFrom] at this ⊢
      omega
    · exact (seqNumsFrom_pairwise noWrap).sublist sublist
    · intro payload mem
      obtain ⟨visited, visitedMem, served⟩ := List.mem_filterMap.mp (by simpa using mem)
      have same := payloadAt_seqNum ledger served
      have bounds := mem_seqNumsFrom noWrap visitedMem
      subst same
      refine ⟨UInt64.le_iff_toNat_le.mpr bounds.1, UInt64.le_iff_toNat_le.mpr (by omega), served⟩
  · -- the condition fails at once
    refine ⟨[], serve_of_lt ledger (UInt64.not_le.mp le), by simp, by simp, by simp⟩

end Serve

section Handle

variable (ledger : StateLedger Block PvtData) {currentHeight : UInt64}

def genesisLedger : StateLedger Unit Unit where
  ledgerHeight := .ok 1
  getPvtDataAndBlockByNum seqNum := .ok (if seqNum = 0 then some () else none, none)
  marshalBlock _ := .ok [0]
  marshalPvtData _ := .ok []

/-- Where the ledger height is below 2^63 and the request does not end at the largest `uint64`,
the handler stops within `defAntiEntropyBatchSize + 1` iterations, and responds with at most as
many payloads, in increasing order, each for a committed block of the requested interval. -/
theorem handleStateRequest_bounded (height : ledger.HasHeight currentHeight)
    (heightSmall : currentHeight.toNat < 2 ^ 63) (request : RemoteStateRequest)
    (endSmall : request.endSeqNum.toNat < 2 ^ 64 - 1) :
    ∃ outcome, ledger.handleStateRequest (defAntiEntropyBatchSize.toNat + 2) request = some outcome ∧
      ∀ payloads, outcome = .responded payloads →
        payloads.length ≤ defAntiEntropyBatchSize.toNat + 1 ∧
        (payloads.map Payload.seqNum).Pairwise (· < ·) ∧
        ∀ payload ∈ payloads, request.startSeqNum ≤ payload.seqNum ∧
          payload.seqNum ≤ request.endSeqNum ∧ payload.seqNum < currentHeight := by
  simp only [StateLedger.handleStateRequest, height.ledgerHeight_eq, gt_iff_lt]
  split
  · exact ⟨_, rfl, fun _ responded => by cases responded⟩
  split
  · exact ⟨_, rfl, fun _ responded => by cases responded⟩
  rename_i batchOk ordered
  -- the loop bound is at most the requested end, so at most ten past the start
  have endLe := min_le_right (b := request.endSeqNum) heightSmall
  have endLeNat := UInt64.le_iff_toNat_le.mp endLe
  have orderedNat := UInt64.le_iff_toNat_le.mp (UInt64.not_lt.mp ordered)
  have batchNat := UInt64.le_iff_toNat_le.mp (UInt64.not_lt.mp batchOk)
  rw [UInt64.toNat_sub_of_le _ _ (UInt64.not_lt.mp ordered)] at batchNat
  have boundSmall : (min currentHeight request.endSeqNum).toNat < 2 ^ 64 - 1 := by omega
  have within : (min currentHeight request.endSeqNum).toNat ≤
      request.startSeqNum.toNat + defAntiEntropyBatchSize.toNat := by
    simp only [defAntiEntropyBatchSize, UInt64.reduceToNat] at batchNat ⊢
    omega
  obtain ⟨payloads, served, length, increasing, each⟩ := serve_bounded ledger boundSmall within
  refine ⟨_, by rw [served]; rfl, fun _ responded => ?_⟩
  cases responded
  refine ⟨length, increasing, fun payload mem => ?_⟩
  obtain ⟨startLe, boundLe, servedAt⟩ := each payload mem
  refine ⟨startLe, UInt64.le_trans boundLe endLe, ?_⟩
  -- a payload comes from a block, and there is none at or above the height
  apply UInt64.not_le.mp
  intro above
  rw [payloadAt_of_no_block ledger (height.no_block_above _ above)] at servedAt
  cases servedAt

example : genesisLedger.handleStateRequest 12 ⟨0, 5⟩ = some (.responded [⟨0, [0], []⟩]) := by
  decide

theorem genesisLedger_hasHeight : genesisLedger.HasHeight 1 where
  ledgerHeight_eq := rfl
  no_block_above seqNum above block pvtData := by
    have notGenesis : seqNum ≠ 0 := by
      rintro rfl
      exact absurd above (by decide)
    simp [genesisLedger, notGenesis]

theorem handleStateRequest_bounded_on_genesis :
    genesisLedger.HasHeight 1 ∧ (1 : UInt64).toNat < 2 ^ 63 ∧
      (⟨0, 3⟩ : RemoteStateRequest).endSeqNum.toNat < 2 ^ 64 - 1 ∧
      ∃ outcome, genesisLedger.handleStateRequest (defAntiEntropyBatchSize.toNat + 2) ⟨0, 3⟩ = some outcome ∧
        ∀ payloads, outcome = .responded payloads →
          payloads.length ≤ defAntiEntropyBatchSize.toNat + 1 ∧
          (payloads.map Payload.seqNum).Pairwise (· < ·) ∧
          ∀ payload ∈ payloads, (⟨0, 3⟩ : RemoteStateRequest).startSeqNum ≤ payload.seqNum ∧
            payload.seqNum ≤ (⟨0, 3⟩ : RemoteStateRequest).endSeqNum ∧ payload.seqNum < 1 :=
  ⟨genesisLedger_hasHeight, by decide, by decide,
    handleStateRequest_bounded genesisLedger genesisLedger_hasHeight (by decide) _ (by decide)⟩

/-- A request for the last eleven sequence numbers of `uint64` passes the batch-size and order
checks; `min` of a height below `2^63 - 1` and `2^64 - 1` is `2^64 - 1`, the loop condition
never fails, and the handler runs out of every amount of fuel. -/
theorem top_of_range_request_never_returns (height : ledger.ledgerHeight = .ok currentHeight)
    (low : currentHeight.toNat + 1 < 2 ^ 63) (fuel : Nat) :
    ledger.handleStateRequest fuel ⟨0xFFFFFFFFFFFFFFF5, 0xFFFFFFFFFFFFFFFF⟩ = none := by
  have wrongMin : min currentHeight 0xFFFFFFFFFFFFFFFF = 0xFFFFFFFFFFFFFFFF := by
    apply min_of_sign_clear
    rw [UInt64.toNat_sub]
    simp only [UInt64.reduceToNat]
    omega
  simp only [StateLedger.handleStateRequest, height, wrongMin, serve_max, Option.map_none]
  decide

theorem genesis_ledger_top_of_range_request :
    genesisLedger.ledgerHeight = .ok 1 ∧ (1 : UInt64).toNat + 1 < 2 ^ 63 ∧
      genesisLedger.handleStateRequest 12 ⟨0xFFFFFFFFFFFFFFF5, 0xFFFFFFFFFFFFFFFF⟩ = none :=
  ⟨rfl, by decide, top_of_range_request_never_returns genesisLedger rfl (by decide) 12⟩

end Handle

-- `payloads_buffer.go`: the blocks gossip and anti-entropy deliver wait here until the ledger's
-- next block is among them. The `Ready` channel, which only wakes the delivering goroutine, is left
-- out; every call takes the buffer's mutex, so a run is a sequence of calls.

structure PayloadsBuffer where
  next : UInt64
  buf : List (UInt64 × Payload)
  deriving DecidableEq, Repr

def newPayloadsBuffer (next : UInt64) : PayloadsBuffer := ⟨next, []⟩

def PayloadsBuffer.push (b : PayloadsBuffer) (payload : Payload) : PayloadsBuffer :=
  -- "Payload with sequence number = %d has been already processed"
  if payload.seqNum < b.next || b.buf.hasKey payload.seqNum then b
  else { b with buf := b.buf.setKey payload.seqNum payload }

def PayloadsBuffer.pop (b : PayloadsBuffer) : Option Payload × PayloadsBuffer :=
  match b.buf.lookup b.next with
  | none => (none, b)
  | some result => (some result, ⟨b.next + 1, b.buf.deleteKey b.next⟩)

def PayloadsBuffer.size (b : PayloadsBuffer) : Nat := b.buf.length

inductive BufferCall where
  | push (payload : Payload)
  | pop
  deriving DecidableEq, Repr

def PayloadsBuffer.call (b : PayloadsBuffer) : BufferCall → Option Payload × PayloadsBuffer
  | .push payload => (none, b.push payload)
  | .pop => b.pop

def PayloadsBuffer.run : PayloadsBuffer → List BufferCall → PayloadsBuffer × List Payload
  | b, [] => (b, [])
  | b, call :: calls =>
    let later := (b.call call).2.run calls
    (later.1, (b.call call).1.toList ++ later.2)

def PayloadsBuffer.offers (b : PayloadsBuffer) : BufferCall → List Payload
  | .push payload => if b.next ≤ payload.seqNum then [payload] else []
  | .pop => []

def PayloadsBuffer.offered : PayloadsBuffer → List BufferCall → List Payload
  | _, [] => []
  | b, call :: calls => b.offers call ++ (b.call call).2.offered calls

theorem PayloadsBuffer.run_append (b : PayloadsBuffer) (pre post : List BufferCall) :
    b.run (pre ++ post) = (((b.run pre).1.run post).1, (b.run pre).2 ++ ((b.run pre).1.run post).2) := by
  induction pre generalizing b with
  | nil => rfl
  | cons call pre ih => simp [PayloadsBuffer.run, ih]

theorem PayloadsBuffer.offered_append (b : PayloadsBuffer) (pre post : List BufferCall) :
    b.offered (pre ++ post) = b.offered pre ++ (b.run pre).1.offered post := by
  induction pre generalizing b with
  | nil => rfl
  | cons call pre ih => simp [PayloadsBuffer.offered, PayloadsBuffer.run, ih]

structure PayloadsBuffer.Wf (b : PayloadsBuffer) : Prop where
  keys_nodup : (b.buf.map Prod.fst).Nodup
  keyed : ∀ entry ∈ b.buf, entry.2.seqNum = entry.1
  ahead : ∀ entry ∈ b.buf, b.next ≤ entry.1

theorem wf_newPayloadsBuffer (next : UInt64) : (newPayloadsBuffer next).Wf :=
  ⟨List.nodup_nil, fun _ member => absurd member List.not_mem_nil,
    fun _ member => absurd member List.not_mem_nil⟩

theorem succ_le_of_ahead {next seqNum : UInt64} (ahead : next ≤ seqNum) (other : seqNum ≠ next) :
    next + 1 ≤ seqNum := by
  rw [UInt64.le_iff_toNat_le] at *
  rw [Ne, ← UInt64.toNat_inj] at other
  rw [UInt64.toNat_add, UInt64.toNat_one]
  have := seqNum.toNat_lt
  omega

@[simp] theorem PayloadsBuffer.push_next (b : PayloadsBuffer) (payload : Payload) :
    (b.push payload).next = b.next := by
  unfold PayloadsBuffer.push
  split_ifs <;> rfl

theorem PayloadsBuffer.lookup_push (b : PayloadsBuffer) (payload : Payload) (seqNum : UInt64) :
    (b.push payload).buf.lookup seqNum =
      if seqNum = payload.seqNum ∧ b.next ≤ seqNum ∧ b.buf.lookup seqNum = none then some payload
      else b.buf.lookup seqNum := by
  unfold PayloadsBuffer.push
  by_cases same : seqNum = payload.seqNum
  · subst same
    by_cases behind : payload.seqNum < b.next
    · have notAhead : ¬b.next ≤ payload.seqNum := UInt64.not_le.mpr behind
      simp [behind, notAhead]
    · cases found : b.buf.lookup payload.seqNum with
      | none =>
        have absent : b.buf.hasKey payload.seqNum = false := by simp [List.hasKey, found]
        simp [behind, absent, List.lookup_setKey, UInt64.not_lt.mp behind]
      | some q =>
        have present : b.buf.hasKey payload.seqNum = true := by simp [List.hasKey, found]
        simp [present, found]
  · have notPushed : ¬(seqNum = payload.seqNum ∧ b.next ≤ seqNum ∧ b.buf.lookup seqNum = none) :=
      fun pushed => same pushed.1
    rw [if_neg notPushed]
    split_ifs
    · rfl
    · simp [List.lookup_setKey, same]

theorem PayloadsBuffer.Wf.push {b : PayloadsBuffer} (wf : b.Wf) (payload : Payload) : (b.push payload).Wf := by
  unfold PayloadsBuffer.push
  split_ifs with ignored
  · exact wf
  · simp only [Bool.or_eq_true, decide_eq_true_eq, not_or, Bool.not_eq_true] at ignored
    refine ⟨List.nodup_keys_setKey _ _ wf.keys_nodup, fun entry member => ?_, fun entry member => ?_⟩
    · rcases List.mem_of_mem_setKey member with rfl | old
      · rfl
      · exact wf.keyed entry old
    · rcases List.mem_of_mem_setKey member with rfl | old
      · exact UInt64.not_lt.mp ignored.1
      · exact wf.ahead entry old

theorem PayloadsBuffer.Wf.pop {b : PayloadsBuffer} (wf : b.Wf) : b.pop.2.Wf := by
  unfold PayloadsBuffer.pop
  split
  · exact wf
  · refine ⟨(wf.keys_nodup.sublist (List.filter_sublist.map _)), fun entry member => wf.keyed entry
      (List.mem_of_mem_deleteKey member), fun entry member => ?_⟩
    -- the popped number is gone, and everything left is above it, unless the counter wrapped
    have other : entry.1 ≠ b.next := by simpa [List.deleteKey] using (List.mem_filter.mp member).2
    exact succ_le_of_ahead (wf.ahead entry (List.mem_of_mem_deleteKey member)) other

theorem PayloadsBuffer.Wf.call {b : PayloadsBuffer} (wf : b.Wf) : ∀ call, (b.call call).2.Wf
  | .push payload => wf.push payload
  | .pop => wf.pop

theorem PayloadsBuffer.pop_eq_some_iff {b b' : PayloadsBuffer} {payload : Payload} :
    b.pop = (some payload, b') ↔ b.buf.lookup b.next = some payload ∧ b' = ⟨b.next + 1, b.buf.deleteKey b.next⟩ := by
  unfold PayloadsBuffer.pop
  split
  · next found => simp [found]
  · next result found =>
    rw [found]
    simp only [Prod.mk.injEq, Option.some.injEq]
    exact and_congr_right fun _ => eq_comm

theorem PayloadsBuffer.pop_eq_some {b : PayloadsBuffer} (wf : b.Wf) {payload : Payload} {b' : PayloadsBuffer}
    (popped : b.pop = (some payload, b')) : payload.seqNum = b.next ∧ b'.next = b.next + 1 := by
  obtain ⟨found, rfl⟩ := pop_eq_some_iff.mp popped
  exact ⟨wf.keyed _ (List.mem_of_lookup_eq_some found), rfl⟩

theorem PayloadsBuffer.pop_eq_none {b : PayloadsBuffer} {b' : PayloadsBuffer} (popped : b.pop = (none, b')) :
    b' = b := by
  unfold PayloadsBuffer.pop at popped
  split at popped <;> simp_all

/-- Over any run the payloads come out numbered from the next expected one on, one after the
other in uint64 arithmetic, and the counter moves by their number. -/
theorem PayloadsBuffer.run_spec :
    ∀ (calls : List BufferCall) (b : PayloadsBuffer), b.Wf →
      (b.run calls).1.Wf ∧ (b.run calls).2.map (·.seqNum) = consecutiveFrom b.next (b.run calls).2.length ∧
        (b.run calls).1.next = b.next + UInt64.ofNat (b.run calls).2.length
  | [], b, wf => ⟨wf, rfl, (UInt64.add_zero b.next).symm⟩
  | call :: calls, b, wf => by
    rcases called : b.call call with ⟨result, b'⟩
    have wf'' : b'.Wf := by
      have := wf.call call
      rwa [called] at this
    obtain ⟨wf', popped, next⟩ := PayloadsBuffer.run_spec calls b' wf''
    simp only [PayloadsBuffer.run, called]
    cases result with
    | none =>
      -- a push, or a pop that found nothing, leaves the counter alone
      have same : b'.next = b.next := by
        cases call with
        | push payload =>
          simp only [PayloadsBuffer.call, Prod.mk.injEq] at called
          rw [← called.2, PayloadsBuffer.push_next]
        | pop => rw [pop_eq_none called]
      rw [same] at popped next
      exact ⟨wf', popped, next⟩
    | some payload =>
      cases call with
      | push payload => simp [PayloadsBuffer.call] at called
      | pop =>
        obtain ⟨numbered, moved⟩ := pop_eq_some wf called
        refine ⟨wf', ?_, ?_⟩
        · rw [Option.toList_some, List.singleton_append, List.map_cons, popped, List.length_cons,
            consecutiveFrom_succ, numbered, moved]
        · rw [next, moved, Option.toList_some, List.singleton_append, List.length_cons, UInt64.ofNat_add,
            UInt64.ofNat_one]
          ac_rfl

-- While the counter stays below the top of the uint64 range, the numbers behave as naturals.

theorem run_spec_of_two_pushes :
    (newPayloadsBuffer 0).Wf ∧
      let calls : List BufferCall := [.push ⟨1, [], []⟩, .push ⟨0, [], []⟩, .pop, .pop]
      ((newPayloadsBuffer 0).run calls).1.Wf ∧
        ((newPayloadsBuffer 0).run calls).2.map (·.seqNum) =
          consecutiveFrom (newPayloadsBuffer 0).next ((newPayloadsBuffer 0).run calls).2.length ∧
        ((newPayloadsBuffer 0).run calls).1.next =
          (newPayloadsBuffer 0).next + UInt64.ofNat ((newPayloadsBuffer 0).run calls).2.length :=
  ⟨wf_newPayloadsBuffer 0, PayloadsBuffer.run_spec _ _ (wf_newPayloadsBuffer 0)⟩

theorem toNat_succ_of_room {next : UInt64} (room : next.toNat + 1 < 2 ^ 64) :
    (next + 1).toNat = next.toNat + 1 := by
  rw [UInt64.toNat_add, UInt64.toNat_one, Nat.mod_eq_of_lt room]

theorem succ_le_iff_of_room {next seqNum : UInt64} (room : next.toNat + 1 < 2 ^ 64) :
    next + 1 ≤ seqNum ↔ next ≤ seqNum ∧ seqNum ≠ next := by
  rw [UInt64.le_iff_toNat_le, UInt64.le_iff_toNat_le, toNat_succ_of_room room, Ne, ← UInt64.toNat_inj]
  omega

theorem PayloadsBuffer.push_of_ignored {b : PayloadsBuffer} {payload : Payload}
    (ignored : payload.seqNum < b.next ∨ b.buf.hasKey payload.seqNum = true) : b.push payload = b := by
  unfold PayloadsBuffer.push
  rw [if_pos (by simpa using ignored)]

structure Released (n0 : UInt64) (b : PayloadsBuffer) (popped offered : List Payload) : Prop where
  wf : b.Wf
  counted : b.next.toNat = n0.toNat + popped.length
  numbered : popped.map (·.seqNum.toNat) = List.range' n0.toNat popped.length
  offered_ahead : ∀ payload ∈ offered, n0 ≤ payload.seqNum
  first : ∀ seqNum, b.buf.lookup seqNum =
    if b.next ≤ seqNum then offered.find? (·.seqNum == seqNum) else none

section Released

variable {n0 : UInt64} {b : PayloadsBuffer} {popped offered : List Payload}

theorem released_new (n0 : UInt64) : Released n0 (newPayloadsBuffer n0) [] [] where
  wf := wf_newPayloadsBuffer n0
  counted := by simp [newPayloadsBuffer]
  numbered := rfl
  offered_ahead := fun _ member => absurd member List.not_mem_nil
  first := fun _ => (ite_self none).symm

theorem Released.start_le_next (rel : Released n0 b popped offered) : n0 ≤ b.next := by
  rw [UInt64.le_iff_toNat_le, rel.counted]
  omega

theorem Released.push (rel : Released n0 b popped offered) (payload : Payload) :
    Released n0 (b.push payload) popped (offered ++ b.offers (.push payload)) where
  wf := rel.wf.push payload
  counted := by rw [PayloadsBuffer.push_next, rel.counted]
  numbered := rel.numbered
  offered_ahead := fun entry member => by
    rcases List.mem_append.mp member with old | new
    · exact rel.offered_ahead entry old
    · -- an offered payload is not behind the counter, which is not behind n0
      simp only [PayloadsBuffer.offers] at new
      split_ifs at new with ahead
      · rw [List.mem_singleton.mp new]
        exact UInt64.le_trans rel.start_le_next ahead
      · cases new
  first := fun seqNum => by
    rw [PayloadsBuffer.lookup_push, rel.first, List.find?_append, PayloadsBuffer.push_next]
    by_cases ahead : b.next ≤ seqNum
    · by_cases same : seqNum = payload.seqNum
      · -- the payload is offered; it is stored only if none was offered with its number before
        subst same
        have offers : b.offers (.push payload) = [payload] := if_pos ahead
        rw [offers]
        cases offered.find? (·.seqNum == payload.seqNum) <;> simp [ahead]
      · have notOffered : (b.offers (.push payload)).find? (·.seqNum == seqNum) = none := by
          simp only [PayloadsBuffer.offers]
          split_ifs <;> simp [Ne.symm same]
        simp [same, ahead, notOffered]
    · simp [ahead]

theorem Released.pop (rel : Released n0 b popped offered)
    (room : n0.toNat + (popped ++ b.pop.1.toList).length < 2 ^ 64) :
    Released n0 b.pop.2 (popped ++ b.pop.1.toList) offered := by
  rcases popping : b.pop with ⟨result, b'⟩
  rw [popping] at room
  cases result with
  | none =>
    rw [PayloadsBuffer.pop_eq_none popping, Option.toList_none, List.append_nil]
    exact rel
  | some payload =>
    obtain ⟨found, rfl⟩ := PayloadsBuffer.pop_eq_some_iff.mp popping
    have numbered := (PayloadsBuffer.pop_eq_some rel.wf popping).1
    have room' : b.next.toNat + 1 < 2 ^ 64 := by
      simp only [Option.toList_some, List.length_append, List.length_singleton] at room
      rw [rel.counted]
      omega
    refine ⟨?_, ?_, ?_, rel.offered_ahead, fun seqNum => ?_⟩
    · have := rel.wf.pop
      rwa [popping] at this
    · simp [toNat_succ_of_room room', rel.counted, Nat.add_assoc]
    · rw [Option.toList_some, List.map_append, rel.numbered, List.length_append, List.length_singleton,
        List.range'_1_concat, List.map_singleton, numbered, rel.counted]
    · -- the popped number is gone; every other one keeps its entry and its place past the counter
      simp only [List.lookup_deleteKey, succ_le_iff_of_room room']
      by_cases gone : seqNum = b.next
      · simp [gone]
      · rw [if_neg gone, rel.first]
        simp [gone]

theorem Released.call (rel : Released n0 b popped offered) (call : BufferCall)
    (room : n0.toNat + (popped ++ (b.call call).1.toList).length < 2 ^ 64) :
    Released n0 (b.call call).2 (popped ++ (b.call call).1.toList) (offered ++ b.offers call) := by
  cases call with
  | push payload => simpa [PayloadsBuffer.call] using rel.push payload
  | pop => simpa [PayloadsBuffer.call, PayloadsBuffer.offers] using rel.pop room

theorem Released.mem_popped_iff (rel : Released n0 b popped offered) (seqNum : UInt64) :
    seqNum ∈ popped.map (·.seqNum) ↔ n0 ≤ seqNum ∧ seqNum < b.next := by
  have byValue : seqNum ∈ popped.map (·.seqNum) ↔ seqNum.toNat ∈ popped.map (·.seqNum.toNat) := by
    simp [UInt64.toNat_inj]
  rw [byValue, rel.numbered, List.mem_range'_1, UInt64.le_iff_toNat_le, UInt64.lt_iff_toNat_lt, rel.counted]

theorem Released.size_eq (rel : Released n0 b popped offered) :
    b.size = ((offered.map (·.seqNum)).dedup.filter (· ∉ popped.map (·.seqNum))).length := by
  have keys : ∀ seqNum, seqNum ∈ b.buf.map Prod.fst ↔
      seqNum ∈ (offered.map (·.seqNum)).dedup.filter (· ∉ popped.map (·.seqNum)) := by
    intro seqNum
    have stored : seqNum ∈ b.buf.map Prod.fst ↔ (b.buf.lookup seqNum).isSome := by
      simp only [List.mem_map, List.lookup_isSome_iff, beq_iff_eq]
      constructor <;> rintro ⟨entry, member, rfl⟩ <;> exact ⟨entry, member, rfl⟩
    rw [stored, rel.first, List.mem_filter, List.mem_dedup, decide_eq_true_iff, rel.mem_popped_iff]
    by_cases ahead : b.next ≤ seqNum
    · simp only [if_pos ahead, List.find?_isSome, beq_iff_eq, List.mem_map]
      constructor
      · rintro ⟨entry, member, rfl⟩
        exact ⟨⟨entry, member, rfl⟩, fun behind => UInt64.not_le.mpr behind.2 ahead⟩
      · rintro ⟨⟨entry, member, rfl⟩, -⟩
        exact ⟨entry, member, rfl⟩
    · simp only [if_neg ahead, Option.isSome_none, Bool.false_eq_true, false_iff, not_and, List.mem_map]
      rintro ⟨entry, member, rfl⟩ notPopped
      exact notPopped (rel.offered_ahead entry member) (UInt64.not_le.mp ahead)
  have perm := (List.perm_ext_iff_of_nodup rel.wf.keys_nodup ((List.nodup_dedup _).filter _)).mpr keys
  rw [PayloadsBuffer.size, ← perm.length_eq, List.length_map]

theorem Released.pop_first (rel : Released n0 b popped offered) {payload : Payload}
    (released : b.pop.1 = some payload) : offered.find? (·.seqNum == payload.seqNum) = some payload := by
  rcases popping : b.pop with ⟨result, b'⟩
  rw [popping] at released
  subst released
  obtain ⟨found, -⟩ := PayloadsBuffer.pop_eq_some_iff.mp popping
  rw [(PayloadsBuffer.pop_eq_some rel.wf popping).1, ← found, rel.first, if_pos (UInt64.le_refl _)]

end Released

theorem released_run (n0 : UInt64) (calls : List BufferCall)
    (room : n0.toNat + ((newPayloadsBuffer n0).run calls).2.length < 2 ^ 64) :
    Released n0 ((newPayloadsBuffer n0).run calls).1 ((newPayloadsBuffer n0).run calls).2
      ((newPayloadsBuffer n0).offered calls) := by
  induction calls using List.reverseRecOn with
  | nil => exact released_new n0
  | append_singleton pre call ih =>
    simp only [PayloadsBuffer.run_append, PayloadsBuffer.offered_append, PayloadsBuffer.run,
      PayloadsBuffer.offered, List.append_nil] at room ⊢
    have room' : n0.toNat + ((newPayloadsBuffer n0).run pre).2.length < 2 ^ 64 := by
      simp only [List.length_append] at room
      omega
    exact (ih room').call call room

/-- At the top of the uint64 range the counter wraps: after the block numbered 2^64 - 1 the buffer
takes a payload of that number again and releases block 0 next. -/
theorem payloads_buffer_wraps_after_the_top :
    (newPayloadsBuffer 18446744073709551615).run
        [.push ⟨18446744073709551615, [1], []⟩, .pop, .push ⟨18446744073709551615, [2], []⟩,
          .push ⟨0, [3], []⟩, .pop] =
      (⟨1, [(18446744073709551615, ⟨18446744073709551615, [2], []⟩)]⟩,
        [⟨18446744073709551615, [1], []⟩, ⟨0, [3], []⟩]) := by
  decide

/-- In every run from `NewPayloadsBuffer(n0)` whose counter does not pass the top of the uint64
range, the blocks come out numbered `n0, n0 + 1, ...`, `Next()` counts them, each is the first
payload pushed with its number while that number was not behind `Next()`, a push of a number
behind `Next()` or already buffered changes nothing, and `Size()` counts the numbers buffered and
not yet released. -/
theorem payloads_buffer_releases_in_order (n0 : UInt64) (calls : List BufferCall)
    (room : n0.toNat + ((newPayloadsBuffer n0).run calls).2.length < 2 ^ 64) :
    let final := (newPayloadsBuffer n0).run calls
    final.2.map (·.seqNum.toNat) = List.range' n0.toNat final.2.length ∧
    final.1.next.toNat = n0.toNat + final.2.length ∧
    (∀ pre post, calls = pre ++ .pop :: post → ∀ payload,
      ((newPayloadsBuffer n0).run pre).1.pop.1 = some payload →
      ((newPayloadsBuffer n0).offered pre).find? (·.seqNum == payload.seqNum) = some payload) ∧
    (∀ pre payload post, calls = pre ++ .push payload :: post →
      (payload.seqNum < ((newPayloadsBuffer n0).run pre).1.next ∨
        ((newPayloadsBuffer n0).run pre).1.buf.hasKey payload.seqNum = true) →
      (newPayloadsBuffer n0).run calls = (newPayloadsBuffer n0).run (pre ++ post)) ∧
    final.1.size = ((((newPayloadsBuffer n0).offered calls).map (·.seqNum)).dedup.filter
      (· ∉ final.2.map (·.seqNum))).length := by
  intro final
  have rel := released_run n0 calls room
  refine ⟨rel.numbered, rel.counted, ?_, ?_, rel.size_eq⟩
  · intro pre post split payload released
    -- the run up to the pop did not wrap either
    have room' : n0.toNat + ((newPayloadsBuffer n0).run pre).2.length < 2 ^ 64 := by
      rw [split, PayloadsBuffer.run_append, List.length_append] at room
      omega
    exact (released_run n0 pre room').pop_first released
  · intro pre payload post split ignored
    rw [split, PayloadsBuffer.run_append, PayloadsBuffer.run_append]
    simp only [PayloadsBuffer.run, PayloadsBuffer.call, PayloadsBuffer.push_of_ignored ignored,
      Option.toList_none, List.nil_append]

def outOfOrderDelivery : List BufferCall :=
  [.push ⟨6, [6], []⟩, .pop, .push ⟨5, [5], []⟩, .push ⟨5, [0], []⟩, .pop, .pop, .pop]

theorem payloads_buffer_releases_in_order_out_of_order :
    (5 : UInt64).toNat + ((newPayloadsBuffer 5).run outOfOrderDelivery).2.length < 2 ^ 64 ∧
      let final := (newPayloadsBuffer 5).run outOfOrderDelivery
      final.2.map (·.seqNum.toNat) = List.range' (5 : UInt64).toNat final.2.length ∧
      final.1.next.toNat = (5 : UInt64).toNat + final.2.length ∧
      (∀ pre post, outOfOrderDelivery = pre ++ .pop :: post → ∀ payload,
        ((newPayloadsBuffer 5).run pre).1.pop.1 = some payload →
        ((newPayloadsBuffer 5).offered pre).find? (·.seqNum == payload.seqNum) = some payload) ∧
      (∀ pre payload post, outOfOrderDelivery = pre ++ .push payload :: post →
        (payload.seqNum < ((newPayloadsBuffer 5).run pre).1.next ∨
          ((newPayloadsBuffer 5).run pre).1.buf.hasKey payload.seqNum = true) →
        (newPayloadsBuffer 5).run outOfOrderDelivery = (newPayloadsBuffer 5).run (pre ++ post)) ∧
      final.1.size = ((((newPayloadsBuffer 5).offered outOfOrderDelivery).map (·.seqNum)).dedup.filter
        (· ∉ final.2.map (·.seqNum))).length :=
  ⟨by decide, payloads_buffer_releases_in_order 5 outOfOrderDelivery (by decide)⟩

end Fabric.GossipState
