import Mathlib.Data.List.Permutation
import Fabric.Committer.Vscc

/-! `core/committer/txvalidator`: `TxValidator.Validate` (`validator.go`). The transactions of a
block are validated by parallel workers; the committer reads their results in the order the
workers finish, keeps the first terminal error by position, then marks duplicate txids and the
transactions that an upgrade of a chaincode in the same block invalidates. -/

namespace Fabric.Txvalidator

/-- `blockValidationResult`, without the index it travels with. -/
structure BlockValidationResult where
  validationCode : TxValidationCode
  txsChaincodeName : Option ChaincodeInstance
  txsUpgradedChaincode : Option ChaincodeInstance
  txid : String
  err : Option String
  deriving DecidableEq, Repr

@[ext]
structure Collected where
  err : Option String
  errPos : Nat
  txsfltr : List TxValidationCode
  txsChaincodeNames : List (Option ChaincodeInstance)
  txsUpgradedChaincodes : List (Option ChaincodeInstance)
  txidArray : List String
  deriving DecidableEq, Repr

def Collected.init (n : Nat) : Collected :=
  ⟨none, 0, List.replicate n .notValidated, List.replicate n none, List.replicate n none,
    List.replicate n ""⟩

def Collected.receive (c : Collected) (tIdx : Nat) (res : BlockValidationResult) : Collected :=
  match res.err with
  | some err => if c.err.isNone || tIdx < c.errPos then { c with err := some err, errPos := tIdx } else c
  | none =>
    let txsfltr := c.txsfltr.set tIdx res.validationCode
    if res.validationCode = .valid then
      { c with
        txsfltr := txsfltr
        txsChaincodeNames := match res.txsChaincodeName with
          | some cc => c.txsChaincodeNames.set tIdx (some cc)
          | none => c.txsChaincodeNames
        txsUpgradedChaincodes := match res.txsUpgradedChaincode with
          | some cc => c.txsUpgradedChaincodes.set tIdx (some cc)
          | none => c.txsUpgradedChaincodes
        txidArray := c.txidArray.set tIdx res.txid }
    else { c with txsfltr := txsfltr }

def keysOf {α : Type} (m : List (Option α)) : List Nat :=
  (List.range m.length).filter fun i => (m[i]?.join).isSome

/-- `markTXIdDuplicates`, from the txids already seen and the index reached. -/
def markTXIdDuplicatesFrom (txidMap : List String) :
    Nat → List String → List TxValidationCode → List TxValidationCode
  | _, [], txsfltr => txsfltr
  | id, txid :: txids, txsfltr =>
    if txid = "" then markTXIdDuplicatesFrom txidMap (id + 1) txids txsfltr
    else if txid ∈ txidMap then
      markTXIdDuplicatesFrom txidMap (id + 1) txids (txsfltr.set id .duplicateTxid)
    else markTXIdDuplicatesFrom (txid :: txidMap) (id + 1) txids txsfltr

def markTXIdDuplicates (txids : List String) (txsfltr : List TxValidationCode) : List TxValidationCode :=
  markTXIdDuplicatesFrom [] 0 txids txsfltr

def generateCCKey (ccName chainID : String) : String := s!"{ccName}/{chainID}"

structure UpgradeState where
  finalValidUpgradeTXs : List (String × Nat)
  upgradedChaincodes : List (String × ChaincodeInstance)
  txsfltr : List TxValidationCode

def UpgradeState.record (s : UpgradeState) (tIdx : Nat) (cc : ChaincodeInstance) : UpgradeState :=
  let upgradedCCKey := generateCCKey cc.chaincodeName cc.chainID
  match s.finalValidUpgradeTXs.lookup upgradedCCKey with
  | none =>
    { s with
      finalValidUpgradeTXs := s.finalValidUpgradeTXs.setKey upgradedCCKey tIdx
      upgradedChaincodes := s.upgradedChaincodes.setKey upgradedCCKey cc }
  | some finalIdx =>
    if finalIdx < tIdx then
      { finalValidUpgradeTXs := s.finalValidUpgradeTXs.setKey upgradedCCKey tIdx
        upgradedChaincodes := s.upgradedChaincodes.setKey upgradedCCKey cc
        txsfltr := s.txsfltr.set finalIdx .chaincodeVersionConflict }
    else { s with txsfltr := s.txsfltr.set tIdx .chaincodeVersionConflict }

def invalidateInvocation (upgradedChaincodes : List (String × ChaincodeInstance))
    (txsfltr : List TxValidationCode) (tIdx : Nat) (cc : ChaincodeInstance) : List TxValidationCode :=
  let ccKey := generateCCKey cc.chaincodeName cc.chainID
  if (upgradedChaincodes.lookup ccKey).isSome && txsfltr[tIdx]? == some .valid then
    txsfltr.set tIdx .chaincodeVersionConflict
  else txsfltr

/-- `invalidTXsForUpgradeCC`, the two maps ranged over in the orders the runtime picks. -/
def invalidTXsForUpgradeCC (upgradeOrder invokeOrder : RangeOrder Nat)
    (txsChaincodeNames txsUpgradedChaincodes : List (Option ChaincodeInstance))
    (txsfltr : List TxValidationCode) : List TxValidationCode :=
  if (keysOf txsUpgradedChaincodes).isEmpty then txsfltr
  else
    let upgrades := (upgradeOrder.visit (keysOf txsUpgradedChaincodes)).foldl
      (fun (s : UpgradeState) tIdx => match txsUpgradedChaincodes[tIdx]?.join with
        | some cc => s.record tIdx cc
        | none => s) (⟨[], [], txsfltr⟩ : UpgradeState)
    (invokeOrder.visit (keysOf txsChaincodeNames)).foldl
      (fun txsfltr tIdx => match txsChaincodeNames[tIdx]?.join with
        | some cc => invalidateInvocation upgrades.upgradedChaincodes txsfltr tIdx cc
        | none => txsfltr) upgrades.txsfltr

def allValidated (txsfltr : List TxValidationCode) (blockNumber : Nat) : Except String Unit :=
  match txsfltr.findIdx? (· = .notValidated) with
  | some id => .error s!"transaction {id} in block {blockNumber} has skipped validation"
  | none => .ok ()

def collect (n : Nat) (validateTx : Nat → BlockValidationResult) (arrivals : List Nat) : Collected :=
  arrivals.foldl (fun c tIdx => c.receive tIdx (validateTx tIdx)) (Collected.init n)

/-- `TxValidator.Validate` on a block of `n` transactions: the `TRANSACTIONS_FILTER` it stores,
or the error it returns. -/
def TxValidator.validate (forbidDuplicateTXIdInBlock : Bool) (blockNumber n : Nat)
    (validateTx : Nat → BlockValidationResult) (arrivals : List Nat)
    (upgradeOrder invokeOrder : RangeOrder Nat) : Except String (List TxValidationCode) :=
  let collected := collect n validateTx arrivals
  match collected.err with
  | some err => .error err
  | none => do
    let txsfltr :=
      if forbidDuplicateTXIdInBlock then markTXIdDuplicates collected.txidArray collected.txsfltr
      else collected.txsfltr
    let txsfltr := invalidTXsForUpgradeCC upgradeOrder invokeOrder collected.txsChaincodeNames
      collected.txsUpgradedChaincodes txsfltr
    allValidated txsfltr blockNumber
    pure txsfltr

theorem Collected.receive_comm (c : Collected) {i j : Nat} (distinct : i ≠ j)
    (first second : BlockValidationResult) :
    (c.receive i first).receive j second = (c.receive j second).receive i first := by
  cases errFirst : first.err with
  | some e₁ =>
    cases errSecond : second.err with
    | some e₂ =>
      -- two terminal errors: the one at the earlier position is kept in either order
      simp only [Collected.receive, errFirst, errSecond]
      split_ifs <;> simp_all <;> omega
    | none =>
      simp only [Collected.receive, errFirst, errSecond]
      split_ifs <;> rfl
  | none =>
    cases errSecond : second.err with
    | some e₂ =>
      simp only [Collected.receive, errFirst, errSecond]
      split_ifs <;> rfl
    | none =>
      -- two flags at different indices; each map entry is set at its own index, if at all
      obtain ⟨code₁, name₁, upgrade₁, txid₁, err₁⟩ := first
      obtain ⟨code₂, name₂, upgrade₂, txid₂, err₂⟩ := second
      simp only at errFirst errSecond
      subst errFirst errSecond
      cases name₁ <;> cases name₂ <;> cases upgrade₁ <;> cases upgrade₂ <;>
        simp only [Collected.receive] <;> split_ifs <;> simp [List.set_comm _ _ distinct]

theorem collect_perm (n : Nat) (validateTx : Nat → BlockValidationResult) {arrivals arrivals' : List Nat}
    (completion : arrivals.Perm arrivals') :
    collect n validateTx arrivals = collect n validateTx arrivals' := by
  unfold collect
  apply completion.foldl_eq'
  intro first _ second _ c
  by_cases same : first = second
  · subst same
    rfl
  · exact c.receive_comm same _ _

theorem validate_perm {forbid : Bool} {blockNumber n : Nat} {validateTx : Nat → BlockValidationResult}
    {arrivals : List Nat} (completion : arrivals.Perm (List.range n)) (upgradeOrder invokeOrder : RangeOrder Nat) :
    TxValidator.validate forbid blockNumber n validateTx arrivals upgradeOrder invokeOrder =
      TxValidator.validate forbid blockNumber n validateTx (List.range n) upgradeOrder invokeOrder := by
  simp only [TxValidator.validate, collect_perm n validateTx completion]

def BlockValidationResult.recorded (res : BlockValidationResult) : Bool :=
  res.err.isNone && res.validationCode == .valid

def Collected.inIndexOrder (n : Nat) (validateTx : Nat → BlockValidationResult) (k : Nat) : Collected :=
  let first := (List.range k).find? fun i => (validateTx i).err.isSome
  ⟨first.bind fun i => (validateTx i).err, first.getD 0,
    (List.range k).map (fun i => if (validateTx i).err.isSome then .notValidated
      else (validateTx i).validationCode) ++ List.replicate (n - k) .notValidated,
    (List.range k).map (fun i => if (validateTx i).recorded then (validateTx i).txsChaincodeName
      else none) ++ List.replicate (n - k) none,
    (List.range k).map (fun i => if (validateTx i).recorded then (validateTx i).txsUpgradedChaincode
      else none) ++ List.replicate (n - k) none,
    (List.range k).map (fun i => if (validateTx i).recorded then (validateTx i).txid else "") ++
      List.replicate (n - k) ""⟩

section IndexOrder

variable {α : Type} {n k : Nat}

theorem set_frontier (f g : Nat → α) (x : α) (lt : k < n) (before : ∀ i < k, g i = f i) :
    ((List.range k).map f ++ List.replicate (n - k) x).set k (g k) =
      (List.range (k + 1)).map g ++ List.replicate (n - (k + 1)) x := by
  have awaited : n - k = n - (k + 1) + 1 := by omega
  have read : (List.range k).map g = (List.range k).map f := by
    apply List.map_congr_left
    intro i member
    exact before i (List.mem_range.mp member)
  rw [awaited, List.replicate_succ, List.range_succ, List.map_append, read,
    List.set_append_right _ _ (by simp), List.length_map, List.length_range, Nat.sub_self,
    List.set_cons_zero]
  simp

theorem frontier_keep (f g : Nat → α) (x : α) (lt : k < n) (before : ∀ i < k, g i = f i)
    (kept : g k = x) :
    (List.range k).map f ++ List.replicate (n - k) x =
      (List.range (k + 1)).map g ++ List.replicate (n - (k + 1)) x := by
  have bound : k < ((List.range k).map f ++ List.replicate (n - k) x).length := by
    simp only [List.length_append, List.length_map, List.length_range, List.length_replicate]
    omega
  have awaited : ((List.range k).map f ++ List.replicate (n - k) x)[k] = g k := by
    rw [List.getElem_append_right (by simp), kept]
    simp
  have same := List.set_getElem_self bound
  rw [awaited] at same
  rw [← set_frontier f g x lt before, same]

theorem optionMap_frontier (recorded : Nat → Bool) (entry : Nat → Option α) (lt : k < n) :
    (if recorded k && (entry k).isSome then
        ((List.range k).map (fun i => if recorded i then entry i else none) ++
          List.replicate (n - k) none).set k (entry k)
      else (List.range k).map (fun i => if recorded i then entry i else none) ++
        List.replicate (n - k) none) =
      (List.range (k + 1)).map (fun i => if recorded i then entry i else none) ++
        List.replicate (n - (k + 1)) none := by
  split_ifs with stored
  · have value : entry k = if recorded k then entry k else none := by
      simp [(Bool.and_eq_true _ _).mp stored]
    rw [value]
    exact set_frontier _ _ _ lt (fun _ _ => rfl)
  · apply frontier_keep _ _ _ lt (fun _ _ => rfl)
    cases recordedAt : recorded k
    · rfl
    · simpa [recordedAt] using stored

end IndexOrder

section Receive

variable {c : Collected} {tIdx : Nat} {res : BlockValidationResult}

theorem Collected.receive_of_error {err : String} (failed : res.err = some err) :
    c.receive tIdx res =
      if c.err.isNone || tIdx < c.errPos then { c with err := some err, errPos := tIdx } else c := by
  simp [Collected.receive, failed]

theorem Collected.receive_of_ok (ok : res.err = none) :
    c.receive tIdx res =
      { c with
        txsfltr := c.txsfltr.set tIdx res.validationCode
        txsChaincodeNames := if res.recorded && res.txsChaincodeName.isSome then
          c.txsChaincodeNames.set tIdx res.txsChaincodeName else c.txsChaincodeNames
        txsUpgradedChaincodes := if res.recorded && res.txsUpgradedChaincode.isSome then
          c.txsUpgradedChaincodes.set tIdx res.txsUpgradedChaincode else c.txsUpgradedChaincodes
        txidArray := if res.recorded then c.txidArray.set tIdx res.txid else c.txidArray } := by
  obtain ⟨code, name, upgrade, txid, err⟩ := res
  simp only at ok
  subst ok
  by_cases valid : code = .valid
  · cases name <;> cases upgrade <;> simp [Collected.receive, BlockValidationResult.recorded, valid]
  · simp [Collected.receive, BlockValidationResult.recorded, valid]

end Receive

section Run

variable {n k : Nat} {validateTx : Nat → BlockValidationResult}

theorem find?_range_succ (p : Nat → Bool) (k : Nat) :
    (List.range (k + 1)).find? p = ((List.range k).find? p).or (if p k then some k else none) := by
  rw [List.range_succ, List.find?_append]
  by_cases kBound : p k <;> simp [kBound]

@[simp] theorem inIndexOrder_err :
    (Collected.inIndexOrder n validateTx k).err =
      ((List.range k).find? fun i => (validateTx i).err.isSome).bind fun i => (validateTx i).err := rfl

@[simp] theorem inIndexOrder_errPos :
    (Collected.inIndexOrder n validateTx k).errPos =
      ((List.range k).find? fun i => (validateTx i).err.isSome).getD 0 := rfl

@[simp] theorem inIndexOrder_txsfltr :
    (Collected.inIndexOrder n validateTx k).txsfltr =
      (List.range k).map (fun i => if (validateTx i).err.isSome then .notValidated
        else (validateTx i).validationCode) ++ List.replicate (n - k) .notValidated := rfl

@[simp] theorem inIndexOrder_txsChaincodeNames :
    (Collected.inIndexOrder n validateTx k).txsChaincodeNames =
      (List.range k).map (fun i => if (validateTx i).recorded then (validateTx i).txsChaincodeName
        else none) ++ List.replicate (n - k) none := rfl

@[simp] theorem inIndexOrder_txsUpgradedChaincodes :
    (Collected.inIndexOrder n validateTx k).txsUpgradedChaincodes =
      (List.range k).map (fun i => if (validateTx i).recorded then (validateTx i).txsUpgradedChaincode
        else none) ++ List.replicate (n - k) none := rfl

@[simp] theorem inIndexOrder_txidArray :
    (Collected.inIndexOrder n validateTx k).txidArray =
      (List.range k).map (fun i => if (validateTx i).recorded then (validateTx i).txid else "") ++
        List.replicate (n - k) "" := rfl

/-- A failed result leaves the flags, the chaincode maps and the txids at their frontier values. -/
theorem inIndexOrder_arrays_of_error (lt : k < n) {err : String} (failed : (validateTx k).err = some err) :
    (Collected.inIndexOrder n validateTx k).txsfltr = (Collected.inIndexOrder n validateTx (k + 1)).txsfltr ∧
      (Collected.inIndexOrder n validateTx k).txsChaincodeNames =
        (Collected.inIndexOrder n validateTx (k + 1)).txsChaincodeNames ∧
      (Collected.inIndexOrder n validateTx k).txsUpgradedChaincodes =
        (Collected.inIndexOrder n validateTx (k + 1)).txsUpgradedChaincodes ∧
      (Collected.inIndexOrder n validateTx k).txidArray = (Collected.inIndexOrder n validateTx (k + 1)).txidArray := by
  have unrecorded : (validateTx k).recorded = false := by
    simp [BlockValidationResult.recorded, failed]
  simp only [inIndexOrder_txsfltr, inIndexOrder_txsChaincodeNames, inIndexOrder_txsUpgradedChaincodes,
    inIndexOrder_txidArray]
  refine ⟨?_, ?_, ?_, ?_⟩
  · exact frontier_keep _ _ _ lt (fun _ _ => rfl) (by simp [failed])
  · exact frontier_keep _ _ _ lt (fun _ _ => rfl) (by simp [unrecorded])
  · exact frontier_keep _ _ _ lt (fun _ _ => rfl) (by simp [unrecorded])
  · exact frontier_keep _ _ _ lt (fun _ _ => rfl) (by simp [unrecorded])

theorem inIndexOrder_receive (lt : k < n) :
    (Collected.inIndexOrder n validateTx k).receive k (validateTx k) =
      Collected.inIndexOrder n validateTx (k + 1) := by
  have found := find?_range_succ (fun i => (validateTx i).err.isSome) k
  cases failed : (validateTx k).err with
  | some err =>
    -- the flags and maps keep their frontier entries; the error is kept when it is the first
    obtain ⟨flags, names, upgrades, txids⟩ := inIndexOrder_arrays_of_error lt failed
    rw [Collected.receive_of_error failed]
    cases first : (List.range k).find? fun i => (validateTx i).err.isSome with
    | some i =>
      have earlier : i < k := List.mem_range.mp (List.mem_of_find?_eq_some first)
      have failedBefore : (validateTx i).err.isSome = true := by simpa using List.find?_some first
      have keep : ¬ (((Collected.inIndexOrder n validateTx k).err.isNone ||
          decide (k < (Collected.inIndexOrder n validateTx k).errPos)) = true) := by
        simp only [inIndexOrder_err, inIndexOrder_errPos, first, Option.bind_some, Option.getD_some]
        simp [Option.isNone_iff_eq_none, ← Option.isSome_iff_ne_none, failedBefore]
        omega
      rw [if_neg keep]
      exact Collected.ext (by simp [found, first]) (by simp [found, first]) flags names upgrades txids
    | none =>
      have first' : (Collected.inIndexOrder n validateTx k).err.isNone = true := by
        simp [first]
      rw [if_pos (by rw [first', Bool.true_or])]
      exact Collected.ext (by simp [found, first, failed]) (by simp [found, first, failed]) flags names
        upgrades txids
  | none =>
    -- the flag is set at the frontier, and a recorded result sets its chaincodes and txid
    rw [Collected.receive_of_ok failed]
    have kept : ((List.range (k + 1)).find? fun i => (validateTx i).err.isSome) =
        (List.range k).find? fun i => (validateTx i).err.isSome := by
      simp [found, failed]
    have code : (validateTx k).validationCode =
        if (validateTx k).err.isSome then .notValidated else (validateTx k).validationCode := by
      simp [failed]
    apply Collected.ext
    · simp [kept]
    · simp [kept]
    · simp only [inIndexOrder_txsfltr]
      rw [code]
      exact set_frontier _ _ _ lt (fun _ _ => rfl)
    · simp only [inIndexOrder_txsChaincodeNames]
      exact optionMap_frontier (fun i => (validateTx i).recorded) (fun i => (validateTx i).txsChaincodeName) lt
    · simp only [inIndexOrder_txsUpgradedChaincodes]
      exact optionMap_frontier (fun i => (validateTx i).recorded)
        (fun i => (validateTx i).txsUpgradedChaincode) lt
    · simp only [inIndexOrder_txidArray]
      split_ifs with recorded
      · have value : (validateTx k).txid = if (validateTx k).recorded then (validateTx k).txid else "" := by
          simp [recorded]
        rw [value]
        exact set_frontier _ _ _ lt (fun _ _ => rfl)
      · exact frontier_keep _ _ _ lt (fun _ _ => rfl) (by simp [recorded])

theorem inIndexOrder_zero : Collected.inIndexOrder n validateTx 0 = Collected.init n := by
  simp [Collected.inIndexOrder, Collected.init]

theorem collect_range : ∀ {k : Nat}, k ≤ n →
    collect n validateTx (List.range k) = Collected.inIndexOrder n validateTx k
  | 0, _ => by simp [collect, inIndexOrder_zero]
  | k + 1, le => by
    have read := collect_range (Nat.le_of_succ_le le)
    rw [collect, List.range_succ, List.foldl_append, ← collect, read, List.foldl_cons, List.foldl_nil,
      inIndexOrder_receive le]

theorem collect_txsfltr_length :
    (collect n validateTx (List.range n)).txsfltr.length = n := by
  simp [collect_range (Nat.le_refl n)]

theorem collect_txsfltr {i : Nat} (inside : i < n) :
    (collect n validateTx (List.range n)).txsfltr[i]? =
      some (if (validateTx i).err.isSome then .notValidated else (validateTx i).validationCode) := by
  simp [collect_range (Nat.le_refl n), inside]

theorem collect_txidArray {i : Nat} (inside : i < n) :
    (collect n validateTx (List.range n)).txidArray[i]? =
      some (if (validateTx i).recorded then (validateTx i).txid else "") := by
  simp [collect_range (Nat.le_refl n), inside]

theorem recorded_of_flag {res : BlockValidationResult}
    (valid : (if res.err.isSome then .notValidated else res.validationCode) = TxValidationCode.valid) :
    res.recorded = true := by
  cases failed : res.err
  · simpa [BlockValidationResult.recorded, failed] using valid
  · simp [failed] at valid

end Run

section Validate

variable {forbid : Bool} {blockNumber n : Nat} {validateTx : Nat → BlockValidationResult}
  {arrivals : List Nat}

/-- Whatever order the workers finish in, `Validate` returns the error of the first transaction,
by position, whose validation failed. -/
theorem validate_of_first_error (completion : arrivals.Perm (List.range n))
    (upgradeOrder invokeOrder : RangeOrder Nat) {i : Nat} {err : String} (inside : i < n)
    (failed : (validateTx i).err = some err) (before : ∀ j < i, (validateTx j).err = none) :
    TxValidator.validate forbid blockNumber n validateTx arrivals upgradeOrder invokeOrder = .error err := by
  have first : (List.range n).find? (fun j => (validateTx j).err.isSome) = some i := by
    rw [List.find?_range_eq_some]
    refine ⟨by simp [failed], List.mem_range.mpr inside, ?_⟩
    intro j earlier
    simp [before j earlier]
  rw [validate_perm completion, TxValidator.validate, collect_range (Nat.le_refl n)]
  simp [first, failed]

def failingAt (i : Nat) (err : String) (j : Nat) : BlockValidationResult :=
  ⟨.valid, none, none, "tx", if j = i then some err else none⟩

theorem validate_of_first_error_at_one :
    [1, 0].Perm (List.range 2) ∧ 1 < 2 ∧ (failingAt 1 "failed" 1).err = some "failed" ∧
      (∀ j < 1, (failingAt 1 "failed" j).err = none) ∧
      TxValidator.validate false 0 2 (failingAt 1 "failed") [1, 0] ⟨id, fun _ => .refl _⟩
        ⟨id, fun _ => .refl _⟩ = .error "failed" := by
  have completion : [1, 0].Perm (List.range 2) := List.Perm.swap 0 1 []
  have before : ∀ j < 1, (failingAt 1 "failed" j).err = none := by
    intro j earlier
    simp [failingAt, Nat.ne_of_lt earlier]
  exact ⟨completion, by decide, rfl, before,
    validate_of_first_error completion _ _ (by decide) rfl before⟩

end Validate

def KeepsInvalid (before after : List TxValidationCode) : Prop :=
  ∀ i : Nat, after[i]? = some TxValidationCode.valid → before[i]? = some TxValidationCode.valid

theorem KeepsInvalid.refl (flags : List TxValidationCode) : KeepsInvalid flags flags :=
  fun _ valid => valid

theorem KeepsInvalid.trans {first second third : List TxValidationCode}
    (one : KeepsInvalid first second) (two : KeepsInvalid second third) : KeepsInvalid first third :=
  fun i valid => one i (two i valid)

theorem keepsInvalid_set (flags : List TxValidationCode) (tIdx : Nat) {code : TxValidationCode}
    (invalid : code ≠ .valid) : KeepsInvalid flags (flags.set tIdx code) := by
  intro i valid
  rw [List.getElem?_set] at valid
  split_ifs at valid with same
  · exact absurd (Option.some.inj valid) invalid
  · exact valid

theorem markTXIdDuplicatesFrom_keepsInvalid :
    ∀ (txids txidMap : List String) (id : Nat) (txsfltr : List TxValidationCode),
      KeepsInvalid txsfltr (markTXIdDuplicatesFrom txidMap id txids txsfltr)
  | [], _, _, txsfltr => KeepsInvalid.refl txsfltr
  | txid :: txids, txidMap, id, txsfltr => by
    simp only [markTXIdDuplicatesFrom]
    split_ifs
    · exact markTXIdDuplicatesFrom_keepsInvalid txids txidMap (id + 1) txsfltr
    · exact (keepsInvalid_set txsfltr id (by decide)).trans
        (markTXIdDuplicatesFrom_keepsInvalid txids txidMap (id + 1) _)
    · exact markTXIdDuplicatesFrom_keepsInvalid txids (txid :: txidMap) (id + 1) txsfltr

theorem markTXIdDuplicatesFrom_frame :
    ∀ (txids txidMap : List String) (id : Nat) (txsfltr : List TxValidationCode) {p : Nat}, p < id →
      (markTXIdDuplicatesFrom txidMap id txids txsfltr)[p]? = txsfltr[p]?
  | [], _, _, _, _, _ => rfl
  | txid :: txids, txidMap, id, txsfltr, p, reached => by
    simp only [markTXIdDuplicatesFrom]
    split_ifs
    · exact markTXIdDuplicatesFrom_frame txids txidMap (id + 1) txsfltr (by omega)
    · rw [markTXIdDuplicatesFrom_frame txids txidMap (id + 1) _ (by omega),
        List.getElem?_set_ne (by omega)]
    · exact markTXIdDuplicatesFrom_frame txids (txid :: txidMap) (id + 1) txsfltr (by omega)

theorem markTXIdDuplicatesFrom_seen :
    ∀ (txids txidMap : List String) (id : Nat) (txsfltr : List TxValidationCode) (j : Nat) (t : String),
      txids[j]? = some t → t ≠ "" → (t ∈ txidMap ∨ ∃ i < j, txids[i]? = some t) →
      (markTXIdDuplicatesFrom txidMap id txids txsfltr)[id + j]? ≠ some .valid
  | [], _, _, _, _, _, carried, _, _ => by simp at carried
  | txid :: txids, txidMap, id, txsfltr, j, t, carried, named, seen => by
    simp only [markTXIdDuplicatesFrom]
    cases j with
    | zero =>
      simp only [List.getElem?_cons_zero, Option.some.injEq] at carried
      subst carried
      simp only [Nat.not_lt_zero, false_and, exists_false, or_false] at seen
      rw [if_neg named, if_pos seen, Nat.add_zero,
        markTXIdDuplicatesFrom_frame txids txidMap (id + 1) _ (by omega)]
      simp [List.getElem?_set]
    | succ j =>
      simp only [List.getElem?_cons_succ] at carried
      -- the txid at `j + 1` was seen before `j` in the tail, or is the head's
      have seen' : t ∈ txidMap ∨ t = txid ∨ ∃ i < j, txids[i]? = some t := by
        rcases seen with inMap | ⟨i, earlier, found⟩
        · exact .inl inMap
        · cases i with
          | zero => exact .inr (.inl (by simpa using found.symm))
          | succ i => exact .inr (.inr ⟨i, by omega, by simpa using found⟩)
      have shift : id + (j + 1) = id + 1 + j := by omega
      rw [shift]
      split_ifs with blank present
      · apply markTXIdDuplicatesFrom_seen txids txidMap (id + 1) txsfltr j t carried named
        rcases seen' with inMap | rfl | earlier
        · exact .inl inMap
        · exact absurd blank named
        · exact .inr earlier
      · apply markTXIdDuplicatesFrom_seen txids txidMap (id + 1) _ j t carried named
        rcases seen' with inMap | rfl | earlier
        · exact .inl inMap
        · exact .inl present
        · exact .inr earlier
      · apply markTXIdDuplicatesFrom_seen txids (txid :: txidMap) (id + 1) txsfltr j t carried named
        rcases seen' with inMap | rfl | earlier
        · exact .inl (List.mem_cons_of_mem _ inMap)
        · exact .inl List.mem_cons_self
        · exact .inr earlier

theorem UpgradeState.record_keepsInvalid (s : UpgradeState) (tIdx : Nat) (cc : ChaincodeInstance) :
    KeepsInvalid s.txsfltr (s.record tIdx cc).txsfltr := by
  unfold UpgradeState.record
  dsimp only
  split
  · exact KeepsInvalid.refl _
  · split_ifs
    · exact keepsInvalid_set _ _ (by decide)
    · exact keepsInvalid_set _ _ (by decide)

theorem invalidateInvocation_keepsInvalid (upgradedChaincodes : List (String × ChaincodeInstance))
    (txsfltr : List TxValidationCode) (tIdx : Nat) (cc : ChaincodeInstance) :
    KeepsInvalid txsfltr (invalidateInvocation upgradedChaincodes txsfltr tIdx cc) := by
  unfold invalidateInvocation
  dsimp only
  split_ifs
  · exact keepsInvalid_set _ _ (by decide)
  · exact KeepsInvalid.refl _

theorem invalidTXsForUpgradeCC_keepsInvalid (upgradeOrder invokeOrder : RangeOrder Nat)
    (txsChaincodeNames txsUpgradedChaincodes : List (Option ChaincodeInstance))
    (txsfltr : List TxValidationCode) :
    KeepsInvalid txsfltr
      (invalidTXsForUpgradeCC upgradeOrder invokeOrder txsChaincodeNames txsUpgradedChaincodes txsfltr) := by
  have upgrades : ∀ (keys : List Nat) (s : UpgradeState), KeepsInvalid s.txsfltr
      (keys.foldl (fun (s : UpgradeState) tIdx => match txsUpgradedChaincodes[tIdx]?.join with
        | some cc => s.record tIdx cc
        | none => s) s).txsfltr := by
    intro keys
    induction keys with
    | nil => intro s; exact KeepsInvalid.refl _
    | cons tIdx keys ih =>
      intro s
      rw [List.foldl_cons]
      split
      · exact (s.record_keepsInvalid _ _).trans (ih _)
      · exact ih s
  have invocations : ∀ (upgradedChaincodes : List (String × ChaincodeInstance)) (keys : List Nat)
      (flags : List TxValidationCode), KeepsInvalid flags
      (keys.foldl (fun txsfltr tIdx => match txsChaincodeNames[tIdx]?.join with
        | some cc => invalidateInvocation upgradedChaincodes txsfltr tIdx cc
        | none => txsfltr) flags) := by
    intro upgradedChaincodes keys
    induction keys with
    | nil => intro flags; exact KeepsInvalid.refl _
    | cons tIdx keys ih =>
      intro flags
      rw [List.foldl_cons]
      split
      · exact (invalidateInvocation_keepsInvalid _ _ _ _).trans (ih _)
      · exact ih flags
  unfold invalidTXsForUpgradeCC
  split_ifs
  · exact KeepsInvalid.refl _
  · exact (upgrades _ ⟨[], [], txsfltr⟩).trans (invocations _ _ _)

section Duplicates

variable {blockNumber n : Nat} {validateTx : Nat → BlockValidationResult} {arrivals : List Nat}

/-- With `ForbidDuplicateTXIdInBlock`, two transactions that share a non-empty txid are never both
valid in the filter `Validate` stores, whatever order the workers finish in and the maps are
ranged over. -/
theorem validate_valid_txids_distinct (completion : arrivals.Perm (List.range n))
    (upgradeOrder invokeOrder : RangeOrder Nat) {txsfltr : List TxValidationCode}
    (validated : TxValidator.validate true blockNumber n validateTx arrivals upgradeOrder invokeOrder =
      .ok txsfltr)
    {i j : Nat} (earlier : i < j) (same : (validateTx i).txid = (validateTx j).txid)
    (named : (validateTx i).txid ≠ "") :
    ¬ (txsfltr[i]? = some .valid ∧ txsfltr[j]? = some .valid) := by
  rw [validate_perm completion, TxValidator.validate] at validated
  cases failed : (collect n validateTx (List.range n)).err with
  | some err => simp [failed] at validated
  | none =>
    simp only [failed, if_true] at validated
    cases checked : allValidated (invalidTXsForUpgradeCC upgradeOrder invokeOrder
        (collect n validateTx (List.range n)).txsChaincodeNames
        (collect n validateTx (List.range n)).txsUpgradedChaincodes
        (markTXIdDuplicates (collect n validateTx (List.range n)).txidArray
          (collect n validateTx (List.range n)).txsfltr)) blockNumber with
    | error msg => simp [checked, bind, Except.bind] at validated
    | ok u =>
      simp only [checked, bind, Except.bind, pure, Except.pure, Except.ok.injEq] at validated
      rintro ⟨validI, validJ⟩
      -- both were valid before the two passes, which only invalidate
      have passes := invalidTXsForUpgradeCC_keepsInvalid upgradeOrder invokeOrder
        (collect n validateTx (List.range n)).txsChaincodeNames
        (collect n validateTx (List.range n)).txsUpgradedChaincodes
        (markTXIdDuplicates (collect n validateTx (List.range n)).txidArray
          (collect n validateTx (List.range n)).txsfltr)
      rw [validated] at passes
      have markedJ := passes j validJ
      have flagI := markTXIdDuplicatesFrom_keepsInvalid _ [] 0 _ i (passes i validI)
      have flagJ := markTXIdDuplicatesFrom_keepsInvalid _ [] 0 _ j markedJ
      have insideJ : j < n := by
        have bound := (List.getElem?_eq_some_iff.mp flagJ).1
        rwa [collect_txsfltr_length] at bound
      have insideI : i < n := by omega
      rw [collect_txsfltr insideI, Option.some.injEq] at flagI
      rw [collect_txsfltr insideJ, Option.some.injEq] at flagJ
      -- so both carry their txid in the array the duplicate pass reads
      have txidI : (collect n validateTx (List.range n)).txidArray[i]? = _ := collect_txidArray insideI
      have txidJ : (collect n validateTx (List.range n)).txidArray[j]? = _ := collect_txidArray insideJ
      rw [recorded_of_flag flagI, if_pos rfl] at txidI
      rw [recorded_of_flag flagJ, if_pos rfl, ← same] at txidJ
      have unmarked := markTXIdDuplicatesFrom_seen _ [] 0
        (collect n validateTx (List.range n)).txsfltr j _ txidJ named (.inr ⟨i, earlier, txidI⟩)
      rw [Nat.zero_add] at unmarked
      exact unmarked markedJ

end Duplicates

def upgradeOfMycc (txid : String) : BlockValidationResult :=
  ⟨.valid, some ⟨"mychannel", "lscc", "latest"⟩, some ⟨"mychannel", "mycc", "2.0"⟩, txid, none⟩

theorem upgrades_sharing_a_txid_leave_no_upgrade_valid (arrivals : List Nat)
    (completion : arrivals.Perm [0, 1]) (upgradeOrder invokeOrder : RangeOrder Nat) :
    TxValidator.validate true 0 2 (fun _ => upgradeOfMycc "tx0") arrivals upgradeOrder invokeOrder =
      .ok [.chaincodeVersionConflict, .duplicateTxid] := by
  have collected : collect 2 (fun _ => upgradeOfMycc "tx0") (List.range 2) =
      ⟨none, 0, [.valid, .valid], [some ⟨"mychannel", "lscc", "latest"⟩, some ⟨"mychannel", "lscc", "latest"⟩],
        [some ⟨"mychannel", "mycc", "2.0"⟩, some ⟨"mychannel", "mycc", "2.0"⟩], ["tx0", "tx0"]⟩ := by
    decide
  have keys : ∀ cc : ChaincodeInstance, keysOf [some cc, some cc] = [0, 1] := fun _ => rfl
  -- the runtime may range over either map in either order
  have upgrades := List.perm_pair.mp (upgradeOrder.perm [0, 1])
  have invocations := List.perm_pair.mp (invokeOrder.perm [0, 1])
  rw [validate_perm completion, TxValidator.validate, collected]
  simp only [invalidTXsForUpgradeCC, keys]
  rcases upgrades with upgrades | upgrades <;> rcases invocations with invocations | invocations <;>
    rw [upgrades, invocations] <;> rfl

theorem upgrades_sharing_a_txid_arriving_in_reverse :
    [1, 0].Perm [0, 1] ∧
      TxValidator.validate true 0 2 (fun _ => upgradeOfMycc "tx0") [1, 0] ⟨id, fun _ => List.Perm.refl _⟩
        ⟨id, fun _ => List.Perm.refl _⟩ = .ok [.chaincodeVersionConflict, .duplicateTxid] :=
  ⟨List.Perm.swap 0 1 [], upgrades_sharing_a_txid_leave_no_upgrade_valid [1, 0] (List.Perm.swap 0 1 []) _ _⟩

theorem validate_valid_txids_distinct_of_two_upgrades :
    [1, 0].Perm (List.range 2) ∧
      TxValidator.validate true 0 2 (fun _ => upgradeOfMycc "tx0") [1, 0] ⟨id, fun _ => .refl _⟩
        ⟨id, fun _ => .refl _⟩ = .ok [.chaincodeVersionConflict, .duplicateTxid] ∧ 0 < 1 ∧
      (upgradeOfMycc "tx0").txid = (upgradeOfMycc "tx0").txid ∧ (upgradeOfMycc "tx0").txid ≠ "" ∧
      ¬([TxValidationCode.chaincodeVersionConflict, .duplicateTxid][0]? = some .valid ∧
        [TxValidationCode.chaincodeVersionConflict, .duplicateTxid][1]? = some .valid) := by
  have completion : [1, 0].Perm (List.range 2) := List.Perm.swap 0 1 []
  have validated : TxValidator.validate true 0 2 (fun _ => upgradeOfMycc "tx0") [1, 0]
      ⟨id, fun _ => .refl _⟩ ⟨id, fun _ => .refl _⟩ = .ok [.chaincodeVersionConflict, .duplicateTxid] := by
    decide
  exact ⟨completion, validated, by decide, rfl, by decide,
    validate_valid_txids_distinct completion _ _ validated (by decide) rfl (by decide)⟩

end Fabric.Txvalidator
