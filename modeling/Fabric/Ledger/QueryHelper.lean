import Fabric.Ledger.CombinedIterator
import Fabric.Ledger.MerkleTree

/-! `txmgr/lockbasedtxmgr/helper.go`: a range query during simulation, and its phantom-read check
at commit (`statebasedval`). The iterator records the end of the range the chaincode actually
saw: the last key returned, or the query's own end key once the iterator is exhausted. Validation
runs the query again over that range of the later state and compares what it sees with the
recorded reads, one by one or through the merkle summary of `query_results_helper.go`. -/

namespace Fabric.Lockbasedtxmgr

open Statedb Rwset Statebasedval SortedAssoc

variable {K : Type}

/-- `resultsItr` of a simulation: what the db scan has left and the range query info and
results helper it fills in. -/
structure ResultsItr (K : Type) where
  ns : String
  endKey : K
  dbItr : List (K × VersionedValue)
  rangeQueryInfo : RangeQueryInfo K
  rangeQueryResultsHelper : RangeQueryResultsHelper K

/-- `newResultsItr`: only the start key is recorded; the end key is left at `""`. -/
def newResultsItr [LinearOrder K] [OrderBot K] (db : VersionedDB K) (ns : String) (startKey endKey : K) (enableHashing : Bool)
    (maxDegree : Nat) : Except String (ResultsItr K) := do
  let resultsHelper ← newRangeQueryResultsHelper enableHashing maxDegree
  return ⟨ns, endKey, db.getStateRangeScanIterator ns startKey endKey,
    ⟨startKey, ⊥, false, .rawReads []⟩, resultsHelper⟩

/-- `updateRangeQueryInfo`: the end key becomes the key just returned, or the query's end key
when the scan is exhausted. -/
def ResultsItr.updateRangeQueryInfo (hashing : QueryHashing K) (itr : ResultsItr K) :
    Option (K × VersionedValue) → ResultsItr K
  | none =>
      { itr with rangeQueryInfo := { itr.rangeQueryInfo with itrExhausted := true, endKey := itr.endKey } }
  | some (key, vv) =>
      { itr with
        rangeQueryResultsHelper := itr.rangeQueryResultsHelper.addResult hashing ⟨key, some vv.version⟩
        rangeQueryInfo := { itr.rangeQueryInfo with endKey := key } }

def ResultsItr.next (hashing : QueryHashing K) (itr : ResultsItr K) :
    Option (K × VersionedValue) × ResultsItr K :=
  match itr.dbItr with
  | [] => (none, itr.updateRangeQueryInfo hashing none)
  | queryResult :: rest => (some queryResult, { itr with dbItr := rest }.updateRangeQueryInfo hashing (some queryResult))

def ResultsItr.nextTimes (hashing : QueryHashing K) : Nat → ResultsItr K → ResultsItr K
  | 0, itr => itr
  | m + 1, itr => (itr.next hashing).2.nextTimes hashing m

def ResultsItr.addRangeQueryInfo (hashing : QueryHashing K) (itr : ResultsItr K) : RangeQueryInfo K :=
  match itr.rangeQueryResultsHelper.done hashing with
  | (_, some summary) => { itr.rangeQueryInfo with readsInfo := .readsMerkleHashes summary }
  | (results, none) => { itr.rangeQueryInfo with readsInfo := .rawReads results }

def kvReadsOf (results : List (K × VersionedValue)) : List (KVRead K) :=
  results.map fun result => ⟨result.1, some result.2.version⟩

@[simp] theorem kvReadsOf_nil : kvReadsOf ([] : List (K × VersionedValue)) = [] := rfl

@[simp] theorem kvReadsOf_cons (result : K × VersionedValue) (results : List (K × VersionedValue)) :
    kvReadsOf (result :: results) = ⟨result.1, some result.2.version⟩ :: kvReadsOf results := rfl

section Simulation

theorem newResultsItr_eq_ok [LinearOrder K] [OrderBot K] {db : VersionedDB K} {ns : String} {startKey endKey : K} {enableHashing : Bool}
    {maxDegree : Nat} {itr : ResultsItr K} (created : newResultsItr db ns startKey endKey enableHashing maxDegree = .ok itr) :
    ∃ helper, newRangeQueryResultsHelper enableHashing maxDegree = .ok helper ∧
      itr = ⟨ns, endKey, db.getStateRangeScanIterator ns startKey endKey, ⟨startKey, ⊥, false, .rawReads []⟩, helper⟩ := by
  unfold newResultsItr at created
  cases fresh : (newRangeQueryResultsHelper enableHashing maxDegree : Except String (RangeQueryResultsHelper K)) with
  | error message =>
    rw [fresh] at created
    cases created
  | ok helper =>
    rw [fresh] at created
    exact ⟨helper, rfl, (Except.ok.inj created).symm⟩

theorem ResultsItr.nextTimes_add (hashing : QueryHashing K) :
    ∀ (calls more : Nat) (itr : ResultsItr K),
      itr.nextTimes hashing (calls + more) = (itr.nextTimes hashing calls).nextTimes hashing more := by
  intro calls
  induction calls with
  | zero => intro more itr; rw [Nat.zero_add]; rfl
  | succ calls ih =>
    intro more itr
    rw [Nat.succ_add, ResultsItr.nextTimes, ih, ResultsItr.nextTimes]

theorem ResultsItr.nextTimes_read (hashing : QueryHashing K) :
    ∀ (read rest : List (K × VersionedValue)) (itr : ResultsItr K), itr.dbItr = read ++ rest →
      itr.nextTimes hashing read.length =
        { itr with
          dbItr := rest
          rangeQueryResultsHelper :=
            (kvReadsOf read).foldl (·.addResult hashing ·) itr.rangeQueryResultsHelper
          rangeQueryInfo := { itr.rangeQueryInfo with
            endKey := (read.getLast?.map Prod.fst).getD itr.rangeQueryInfo.endKey } } := by
  intro read
  induction read with
  | nil =>
    intro rest itr scan
    cases itr
    simp only [List.nil_append] at scan
    subst scan
    rfl
  | cons result read ih =>
    intro rest itr scan
    rw [List.length_cons, ResultsItr.nextTimes, ih rest _ (by simp [ResultsItr.next, scan, ResultsItr.updateRangeQueryInfo])]
    simp only [ResultsItr.next, scan, List.cons_append, ResultsItr.updateRangeQueryInfo, kvReadsOf_cons, List.foldl_cons,
      List.getLast?_cons]
    cases read.getLast? <;> rfl

theorem ResultsItr.nextTimes_exhausted (hashing : QueryHashing K) :
    ∀ (calls : Nat) (itr : ResultsItr K), itr.dbItr = [] →
      itr.nextTimes hashing (calls + 1) =
        { itr with rangeQueryInfo := { itr.rangeQueryInfo with itrExhausted := true, endKey := itr.endKey } } := by
  intro calls
  induction calls with
  | zero =>
    intro itr scan
    simp [ResultsItr.nextTimes, ResultsItr.next, scan, ResultsItr.updateRangeQueryInfo]
  | succ calls ih =>
    intro itr scan
    rw [ResultsItr.nextTimes, ih _ (by simp [ResultsItr.next, scan, ResultsItr.updateRangeQueryInfo])]
    simp [ResultsItr.next, scan, ResultsItr.updateRangeQueryInfo]

theorem ResultsItr.nextTimes_of_new (hashing : QueryHashing K) (itr : ResultsItr K) (m : Nat)
    (fresh : itr.rangeQueryInfo.itrExhausted = false) :
    (itr.nextTimes hashing m).rangeQueryResultsHelper =
        (kvReadsOf (itr.dbItr.take m)).foldl (·.addResult hashing ·) itr.rangeQueryResultsHelper ∧
      (itr.nextTimes hashing m).rangeQueryInfo = { itr.rangeQueryInfo with
        endKey := if itr.dbItr.length < m then itr.endKey
          else (((itr.dbItr.take m).getLast?).map Prod.fst).getD itr.rangeQueryInfo.endKey
        itrExhausted := decide (itr.dbItr.length < m) } := by
  by_cases exhausted : itr.dbItr.length < m
  · -- all results are read, then `Next` returns nil at least once
    obtain ⟨calls, split⟩ : ∃ calls, m = itr.dbItr.length + (calls + 1) := ⟨m - itr.dbItr.length - 1, by omega⟩
    have read := ResultsItr.nextTimes_read hashing itr.dbItr [] itr (List.append_nil _).symm
    rw [split, ResultsItr.nextTimes_add, read, ResultsItr.nextTimes_exhausted hashing calls _ rfl,
      List.take_of_length_le (by omega), if_pos (by omega), decide_eq_true (by omega)]
    exact ⟨rfl, rfl⟩
  · have read := ResultsItr.nextTimes_read hashing (itr.dbItr.take m) (itr.dbItr.drop m) itr
      (List.take_append_drop m itr.dbItr).symm
    rw [List.length_take_of_le (by omega)] at read
    rw [read, if_neg exhausted, decide_eq_false exhausted, ← fresh]
    exact ⟨rfl, rfl⟩

theorem ResultsItr.addRangeQueryInfo_of_raw (hashing : QueryHashing K) (itr : ResultsItr K) {reads : List (KVRead K)}
    (raw : itr.rangeQueryResultsHelper.done hashing = (reads, none)) :
    itr.addRangeQueryInfo hashing = { itr.rangeQueryInfo with readsInfo := .rawReads reads } := by
  rw [ResultsItr.addRangeQueryInfo, raw]

theorem ResultsItr.addRangeQueryInfo_of_summary (hashing : QueryHashing K) (itr : ResultsItr K)
    {reads : List (KVRead K)} {summary : QueryReadsMerkleSummary}
    (summarised : itr.rangeQueryResultsHelper.done hashing = (reads, some summary)) :
    itr.addRangeQueryInfo hashing = { itr.rangeQueryInfo with readsInfo := .readsMerkleHashes summary } := by
  rw [ResultsItr.addRangeQueryInfo, summarised]

end Simulation

section Helper

variable (hashing : QueryHashing K)

theorem newRangeQueryResultsHelper_eq_ok {enableHashing : Bool} {maxDegree : Nat}
    {helper : RangeQueryResultsHelper K} (created : newRangeQueryResultsHelper enableHashing maxDegree = .ok helper) :
    helper.pendingResults = [] ∧ helper.hashingEnabled = enableHashing ∧
      (enableHashing = true → newMerkleTree maxDegree = .ok helper.mt) := by
  cases enableHashing with
  | false =>
    simp only [newRangeQueryResultsHelper] at created
    cases created
    exact ⟨rfl, rfl, fun absurd => by cases absurd⟩
  | true =>
    simp only [newRangeQueryResultsHelper, if_true] at created
    cases tree : newMerkleTree maxDegree with
    | error message =>
      rw [tree] at created
      cases created
    | ok mt =>
      rw [tree] at created
      cases created
      exact ⟨rfl, rfl, fun _ => rfl⟩

theorem addResult_hashingEnabled (helper : RangeQueryResultsHelper K) (kvRead : KVRead K) :
    (helper.addResult hashing kvRead).hashingEnabled = helper.hashingEnabled := by
  unfold RangeQueryResultsHelper.addResult
  dsimp only
  split <;> rfl

theorem isEmpty_update {m : MerkleTree} (shaped : Shaped m) (hash : Bytes → Bytes) (leaf : Bytes) :
    (m.update hash leaf).isEmpty = false := by
  have top := (update_shaped shaped hash leaf).2
  simp [MerkleTree.isEmpty, top]

theorem foldl_addResult_hashed :
    ∀ (reads : List (KVRead K)) {helper : RangeQueryResultsHelper K}, Shaped helper.mt →
      helper.hashingEnabled = true → helper.mt.isEmpty = false →
      (reads.foldl (·.addResult hashing ·) helper).hashingEnabled = true ∧
        (reads.foldl (·.addResult hashing ·) helper).mt.isEmpty = false := by
  intro reads
  induction reads with
  | nil => exact fun _ enabled full => ⟨enabled, full⟩
  | cons kvRead rest ih =>
    intro helper shaped enabled full
    apply ih (addResult_shaped hashing shaped kvRead).1 (by rw [addResult_hashingEnabled, enabled])
    rcases addResult_mt hashing helper kvRead with same | ⟨leaf, fed⟩
    · rw [same, full]
    · rw [fed, isEmpty_update shaped]

theorem foldl_addResult_raw :
    ∀ (reads : List (KVRead K)) {helper : RangeQueryResultsHelper K},
      (helper.hashingEnabled = true → Shaped helper.mt) →
      (reads.foldl (·.addResult hashing ·) helper).pendingResults = helper.pendingResults ++ reads ∨
        (reads.foldl (·.addResult hashing ·) helper).hashingEnabled = true ∧
          (reads.foldl (·.addResult hashing ·) helper).mt.isEmpty = false := by
  intro reads
  induction reads with
  | nil => exact fun _ => .inl (List.append_nil _).symm
  | cons kvRead rest ih =>
    intro helper shaped
    rw [List.foldl_cons]
    by_cases fed : (helper.hashingEnabled && helper.maxDegree < (helper.pendingResults ++ [kvRead]).length) = true
    · -- the pending reads become a leaf, and the tree is no longer empty
      have enabled : helper.hashingEnabled = true := (Bool.and_eq_true _ _ ▸ fed).1
      have leafed : (helper.addResult hashing kvRead).mt =
          helper.mt.update hashing.hash (hashing.hash (hashing.serializeKVReads (helper.pendingResults ++ [kvRead]))) := by
        unfold RangeQueryResultsHelper.addResult
        rw [if_pos fed]
        rfl
      exact .inr (foldl_addResult_hashed hashing rest (addResult_shaped hashing (shaped enabled) kvRead).1
        (by rw [addResult_hashingEnabled, enabled]) (by rw [leafed, isEmpty_update (shaped enabled)]))
    · have kept : helper.addResult hashing kvRead = { helper with pendingResults := helper.pendingResults ++ [kvRead] } := by
        unfold RangeQueryResultsHelper.addResult
        exact if_neg fed
      rw [kept]
      rcases @ih { helper with pendingResults := helper.pendingResults ++ [kvRead] } shaped with raw | hashed
      · exact .inl (by rw [raw, List.append_assoc, List.singleton_append])
      · exact .inr hashed

theorem foldl_addResult_hashingEnabled :
    ∀ (reads : List (KVRead K)) (helper : RangeQueryResultsHelper K),
      (reads.foldl (·.addResult hashing ·) helper).hashingEnabled = helper.hashingEnabled := by
  intro reads
  induction reads with
  | nil => exact fun _ => rfl
  | cons kvRead rest ih =>
    intro helper
    rw [List.foldl_cons, ih, addResult_hashingEnabled]

theorem summary_of_new {enableHashing : Bool} {maxDegree : Nat} {helper : RangeQueryResultsHelper K}
    (created : newRangeQueryResultsHelper enableHashing maxDegree = .ok helper) (reads : List (KVRead K))
    {summary : QueryReadsMerkleSummary} (reported : ((reads.foldl (·.addResult hashing ·) helper).done hashing).2 = some summary) :
    enableHashing = true ∧ summary.maxDegree = maxDegree := by
  obtain ⟨-, enabled, tree⟩ := newRangeQueryResultsHelper_eq_ok created
  have on : enableHashing = true := by
    rw [← enabled, ← foldl_addResult_hashingEnabled hashing reads helper]
    by_contra on
    have off : (reads.foldl (·.addResult hashing ·) helper).hashingEnabled = false := by simpa using on
    simp [RangeQueryResultsHelper.done, off] at reported
  obtain ⟨-, fresh⟩ := newMerkleTree_eq_ok (tree on)
  obtain ⟨shapedEnd, grows⟩ := foldl_addResult_shaped hashing reads (shaped_new (tree on))
  obtain ⟨mt, growsDone, rfl⟩ := done_grows hashing shapedEnd reported
  refine ⟨on, ?_⟩
  simp only [MerkleTree.getSummery]
  rw [growsDone.maxDegree, grows.maxDegree, fresh]

theorem done_raw_of_new {enableHashing : Bool} {maxDegree : Nat} {helper : RangeQueryResultsHelper K}
    (created : newRangeQueryResultsHelper enableHashing maxDegree = .ok helper) (reads : List (KVRead K))
    (raw : ((reads.foldl (·.addResult hashing ·) helper).done hashing).2 = none) :
    ((reads.foldl (·.addResult hashing ·) helper).done hashing).1 = reads := by
  obtain ⟨empty, enabled, tree⟩ := newRangeQueryResultsHelper_eq_ok created
  have shaped : helper.hashingEnabled = true → Shaped helper.mt := fun on => shaped_new (tree (enabled ▸ on))
  unfold RangeQueryResultsHelper.done at raw ⊢
  by_cases plain : (!(reads.foldl (·.addResult hashing ·) helper).hashingEnabled ||
      (reads.foldl (·.addResult hashing ·) helper).mt.isEmpty) = true
  · rw [if_pos plain]
    rcases foldl_addResult_raw hashing reads shaped with pending | ⟨on, full⟩
    · rw [pending, empty, List.nil_append]
    · simp [on, full] at plain
  · rw [if_neg plain] at raw
    simp at raw

end Helper

section Validation

variable [LinearOrder K]

theorem validateResultsFrom_eq :
    ∀ (recorded : List (K × VersionedValue)) (itr : CombinedIterator K),
      validateResultsFrom (kvReadsOf recorded) itr.next.1 itr.next.2 =
        .ok (decide (kvReadsOf itr.results = kvReadsOf recorded)) := by
  intro recorded
  induction recorded with
  | nil =>
    intro itr
    rcases results : itr.results with _ | ⟨item, rest⟩
    · simp [validateResultsFrom, CombinedIterator.next_of_results_nil results]
    · simp [validateResultsFrom, (CombinedIterator.next_of_results_cons results).1]
  | cons read recorded ih =>
    intro itr
    rcases results : itr.results with _ | ⟨⟨key, vv⟩, rest⟩
    · simp [validateResultsFrom, CombinedIterator.next_of_results_nil results]
    · obtain ⟨first, following⟩ := CombinedIterator.next_of_results_cons results
      rw [first, kvReadsOf_cons, validateResultsFrom]
      -- the key, then the version, then the rest of the results
      by_cases sameKey : key = read.1
      · by_cases sameVersion : vv.version = read.2.version
        · simp [sameKey, sameVersion, convertToVersionHeight, bind, Except.bind, ih, following]
        · simp [sameKey, sameVersion, convertToVersionHeight, bind, Except.bind, pure, Except.pure]
      · simp [sameKey]

theorem validateRawReads_eq (recorded : List (K × VersionedValue)) (itr : CombinedIterator K) :
    validateRawReads (kvReadsOf recorded) itr = .ok (decide (kvReadsOf itr.results = kvReadsOf recorded)) := by
  rw [← validateResultsFrom_eq recorded itr]
  cases recorded <;> rfl

structure Compared (inMerkle : QueryReadsMerkleSummary) (m : MerkleTree) (lastMatchedIndex : Int) : Prop where
  started : -1 ≤ lastMatchedIndex
  below : m.maxLevel < inMerkle.maxLevel → lastMatchedIndex = -1
  top : m.maxLevel = inMerkle.maxLevel → lastMatchedIndex + 1 ≤ (m.tree m.maxLevel).length

/-- Once the tree has reached the recorded top level, a hash of its top not yet matched is there
to compare. -/
theorem Compared.lt_length_of_ne {inMerkle : QueryReadsMerkleSummary} {m m' : MerkleTree}
    {lastMatchedIndex : Int} (compared : Compared inMerkle m lastMatchedIndex) (shaped : Shaped m)
    (shaped' : Shaped m') (grows : Grows m m') (level : m'.maxLevel = inMerkle.maxLevel)
    (unmatched : lastMatchedIndex ≠ ((m'.tree m'.maxLevel).length : Int) - 1) :
    lastMatchedIndex + 1 < (m'.tree m'.maxLevel).length := by
  by_cases lower : m.maxLevel < inMerkle.maxLevel
  · -- the top was reached with this result, and holds a hash
    have low := shaped.low
    have nonempty : m'.tree m'.maxLevel ≠ [] := shaped'.topped.resolve_left (by omega)
    have := List.length_pos_iff.mpr nonempty
    rw [compared.below lower]
    omega
  · have same : m.maxLevel = m'.maxLevel := le_antisymm grows.maxLevel (level ▸ not_lt.mp lower)
    have earlier := (grows.top same.symm).length_le
    have reached := compared.top (same.trans level)
    rw [same] at earlier reached
    omega

variable (hashing : QueryHashing K) (inMerkle : QueryReadsMerkleSummary)

theorem summary_of_validateHashesFrom :
    ∀ (fuel : Nat) (helper : RangeQueryResultsHelper K) (itr : CombinedIterator K) (lastMatchedIndex : Int),
      validateHashesFrom hashing inMerkle fuel helper itr lastMatchedIndex = .ok true →
        (((kvReadsOf itr.results).foldl (·.addResult hashing ·) helper).done hashing).2 = some inMerkle := by
  intro fuel
  induction fuel with
  | zero =>
    intro helper itr lastMatchedIndex valid
    cases valid
  | succ fuel ih =>
    intro helper itr lastMatchedIndex valid
    rcases results : itr.results with _ | ⟨⟨key, vv⟩, rest⟩
    · have next : itr.next = (none, itr.next.2) := Prod.ext (CombinedIterator.next_of_results_nil results) rfl
      rw [validateHashesFrom, next] at valid
      simpa using valid
    · obtain ⟨first, following⟩ := CombinedIterator.next_of_results_cons results
      have next : itr.next = (some (key, vv), itr.next.2) := Prod.ext first rfl
      rw [validateHashesFrom, next] at valid
      rw [kvReadsOf_cons, List.foldl_cons, ← following]
      dsimp only at valid
      -- each branch goes on with the rest of the results, or does not accept
      split_ifs at valid
      · exact ih _ _ _ valid
      · exact ih _ _ _ valid
      · cases valid
      · cases equal : maxLevelHashesEqual _ inMerkle _ <;> rw [equal] at valid
        · cases valid
        · rename_i same
          cases same
          · cases valid
          · exact ih _ _ _ valid

theorem validateHashesFrom_of_summary :
    ∀ (fuel : Nat) (helper : RangeQueryResultsHelper K) (itr : CombinedIterator K) (lastMatchedIndex : Int),
      itr.results.length < fuel → Shaped helper.mt → Compared inMerkle helper.mt lastMatchedIndex →
      (((kvReadsOf itr.results).foldl (·.addResult hashing ·) helper).done hashing).2 = some inMerkle →
      validateHashesFrom hashing inMerkle fuel helper itr lastMatchedIndex = .ok true := by
  intro fuel
  induction fuel with
  | zero =>
    intro helper itr lastMatchedIndex enough
    omega
  | succ fuel ih =>
    intro helper itr lastMatchedIndex enough shaped compared summarised
    rcases results : itr.results with _ | ⟨⟨key, vv⟩, rest⟩
    · have next : itr.next = (none, itr.next.2) := Prod.ext (CombinedIterator.next_of_results_nil results) rfl
      rw [results] at summarised
      rw [validateHashesFrom, next]
      simpa using summarised
    · obtain ⟨first, following⟩ := CombinedIterator.next_of_results_cons results
      have next : itr.next = (some (key, vv), itr.next.2) := Prod.ext first rfl
      rw [results, kvReadsOf_cons, List.foldl_cons, ← following] at summarised
      rw [results, List.length_cons] at enough
      rw [validateHashesFrom, next]
      dsimp -proj only
      -- the tree after this result grows into the one `Done` summarises
      obtain ⟨shaped', grows⟩ := addResult_shaped hashing shaped ⟨key, some vv.version⟩
      obtain ⟨shapedEnd, growsRest⟩ := foldl_addResult_shaped hashing (kvReadsOf itr.next.2.results) shaped'
      obtain ⟨mt, growsDone, summary⟩ := done_grows hashing shapedEnd summarised
      have final := growsRest.trans growsDone
      subst summary
      have restEnough : itr.next.2.results.length < fuel := by
        rw [following]
        omega
      generalize helper.addResult hashing ⟨key, some vv.version⟩ = helper' at shaped' grows final summarised ⊢
      simp only [MerkleTree.getSummery] at compared final
      split
      · -- below the recorded top: nothing to compare yet
        rename_i below
        simp only [MerkleTree.getSummery] at below
        refine ih _ _ _ restEnough shaped' ⟨compared.started, fun _ => compared.below ?_, fun same => ?_⟩ summarised
        · exact lt_of_le_of_lt grows.maxLevel below
        · exact absurd same (ne_of_lt below)
      rename_i below
      simp only [MerkleTree.getSummery] at below
      have level := le_antisymm final.maxLevel (not_lt.mp below)
      have isPrefix := final.top level.symm
      rw [level] at isPrefix
      split
      · -- no new hash at the top since the last comparison
        rename_i matched
        simp only [MerkleTree.getSummery] at matched
        refine ih _ _ _ restEnough shaped' ⟨compared.started, fun lower => absurd lower below, fun _ => ?_⟩
          summarised
        rw [level] at matched ⊢
        omega
      rename_i matched
      simp only [MerkleTree.getSummery] at matched
      rw [level] at matched
      -- the top is a prefix of the recorded one, so it is not longer
      have short := isPrefix.length_le
      split
      · rename_i longer
        simp only [MerkleTree.getSummery] at longer
        rw [level] at longer
        omega
      -- the next hash of the top is there, and it is the recorded one
      have within : lastMatchedIndex + 1 < (helper'.mt.tree mt.maxLevel).length := by
        have next := compared.lt_length_of_ne shaped shaped' grows level (by rwa [level])
        rwa [level] at next
      have started := compared.started
      have index : (lastMatchedIndex + 1).toNat < (helper'.mt.tree mt.maxLevel).length := by omega
      have equal : maxLevelHashesEqual helper'.mt.getSummery mt.getSummery (lastMatchedIndex + 1).toNat = .ok true := by
        simp only [maxLevelHashesEqual, MerkleTree.getSummery, level, List.getElem?_eq_getElem index,
          List.getElem?_eq_getElem (lt_of_lt_of_le index isPrefix.length_le), isPrefix.getElem index, beq_self_eq_true]
      rw [equal]
      refine ih _ _ _ restEnough shaped' ⟨by omega, fun lower => absurd lower below, fun _ => ?_⟩ summarised
      rw [level]
      omega

theorem validateMerkleSummary_of_summary {helper : RangeQueryResultsHelper K}
    (created : newRangeQueryResultsHelper true inMerkle.maxDegree = .ok helper) (itr : CombinedIterator K)
    (summarised : (((kvReadsOf itr.results).foldl (·.addResult hashing ·) helper).done hashing).2 = some inMerkle) :
    validateMerkleSummary hashing inMerkle itr = .ok true := by
  have enough := itr.length_results_le
  unfold validateMerkleSummary
  rw [created]
  exact validateHashesFrom_of_summary hashing inMerkle _ helper itr (-1)
    (by simp only [CombinedIterator.size] at enough; omega) (shaped_new (newRangeQueryResultsHelper_mt created))
    ⟨le_refl _, fun _ => rfl, fun _ => by simp⟩ summarised

theorem summary_of_validateMerkleSummary (itr : CombinedIterator K)
    (valid : validateMerkleSummary hashing inMerkle itr = .ok true) :
    ∃ helper, newRangeQueryResultsHelper true inMerkle.maxDegree = .ok helper ∧
      (((kvReadsOf itr.results).foldl (·.addResult hashing ·) helper).done hashing).2 = some inMerkle := by
  unfold validateMerkleSummary at valid
  cases created : (newRangeQueryResultsHelper true inMerkle.maxDegree : Except String (RangeQueryResultsHelper K)) with
  | error message =>
    rw [created] at valid
    cases valid
  | ok helper =>
    rw [created] at valid
    exact ⟨helper, rfl, summary_of_validateHashesFrom hashing inMerkle _ helper itr (-1) valid⟩

end Validation

section Window

variable [LinearOrder K]

def sameResults (m : Nat) (results results' : List (K × VersionedValue)) : Prop :=
  if results.length < m then kvReadsOf results' = kvReadsOf results
  else kvReadsOf (results'.take m) = kvReadsOf (results.take m)

instance (m : Nat) (results results' : List (K × VersionedValue)) :
    Decidable (sameResults m results results') := by
  unfold sameResults
  infer_instance

theorem kvReadsOf_filter_le_iff {results' : List (K × VersionedValue)} (ordered : Ordered results')
    {init : List (K × VersionedValue)} {last : K × VersionedValue} :
    kvReadsOf (results'.filter fun entry => entry.1 ≤ last.1) = kvReadsOf (init ++ [last]) ↔
      kvReadsOf (results'.take (init.length + 1)) = kvReadsOf (init ++ [last]) := by
  have lengths : ∀ {entries : List (K × VersionedValue)}, kvReadsOf entries = kvReadsOf (init ++ [last]) →
      entries.length = init.length + 1 := fun same => by
    simpa [kvReadsOf] using congrArg List.length same
  constructor
  · -- the entries up to the key are a prefix of the scan, as long as the reads
    intro same
    have isPrefix := ordered.filter_le_prefix last.1
    rw [List.prefix_iff_eq_take, lengths same] at isPrefix
    rw [← isPrefix, same]
  · intro same
    -- the first entries end with the last key read, and every later entry is past it
    have long := lengths same
    obtain ⟨front, final, split⟩ : ∃ front final, results'.take (init.length + 1) = front ++ [final] := by
      rcases List.eq_nil_or_concat (results'.take (init.length + 1)) with empty | ⟨front, final, split⟩
      · rw [empty] at long
        cases long
      · exact ⟨front, final, split.trans List.concat_eq_append⟩
    have key : final.1 = last.1 := by
      rw [split] at same
      simp only [kvReadsOf, List.map_append, List.map_cons, List.map_nil] at same
      have ends := (List.append_inj' same rfl).2
      simp only [List.cons.injEq, KVRead.mk.injEq, Option.some.injEq, and_true] at ends
      exact ends.1
    have whole := List.take_append_drop (init.length + 1) results'
    have ordered' : Ordered ((front ++ [final]) ++ results'.drop (init.length + 1)) := by
      rw [← split, whole]
      exact ordered
    simp only [Ordered, List.pairwise_append, List.mem_append, List.mem_singleton] at ordered'
    have kept : (results'.take (init.length + 1)).filter (fun entry => entry.1 ≤ last.1) =
        results'.take (init.length + 1) := by
      rw [List.filter_eq_self, split]
      intro entry mem
      rcases List.mem_append.mp mem with early | latest
      · simpa [← key] using le_of_lt (ordered'.1.2.2 entry early final rfl)
      · simp [List.mem_singleton.mp latest, key]
    have dropped : (results'.drop (init.length + 1)).filter (fun entry => entry.1 ≤ last.1) = [] := by
      rw [List.filter_eq_nil_iff]
      intro entry mem
      simpa [← key] using ordered'.2.2 final (.inr rfl) entry mem
    rw [← whole, List.filter_append, kept, dropped, List.append_nil, same]

theorem mem_mergedEndKeyEntry {db : VersionedDB K} {updates : UpdateBatch K} {ns : String} {endKey : K}
    (entry : K × VersionedValue) :
    entry ∈ (mergedEndKeyEntry db updates ns endKey true).toList ↔
      entry ∈ mergedState db updates ns ∧ entry.1 = endKey ∧ isDelete entry.2 = false := by
  have merged : Ordered (mergedState db updates ns) := overlay_ordered (db.ordered ns) (updates.ordered ns)
  obtain ⟨key, vv⟩ := entry
  simp only [mergedEndKeyEntry, if_true]
  constructor
  · intro mem
    cases found : find endKey (mergedState db updates ns) with
    | none => simp [found] at mem
    | some value =>
      by_cases deleted : isDelete value = true
      · simp [found, deleted] at mem
      · simp only [found, deleted, Bool.false_eq_true, if_false, Option.toList_some, List.mem_singleton,
          Prod.mk.injEq] at mem
        obtain ⟨rfl, rfl⟩ := mem
        exact ⟨(find_eq_some_iff merged).mp found, rfl, by simpa using deleted⟩
  · rintro ⟨mem, rfl, live⟩
    rw [find_eq_some_of_mem merged mem]
    simp [live]

variable [OrderBot K]

theorem mergedRangeScan_upTo (db : VersionedDB K) (updates : UpdateBatch K) (ns : String) {startKey endKey lastKey : K}
    (named : lastKey ≠ ⊥) (started : startKey ≤ lastKey) (inside : endKey = ⊥ ∨ lastKey < endKey) :
    mergedRangeScan db updates ns startKey lastKey true =
      (mergedRangeScan db updates ns startKey endKey false).filter fun entry => entry.1 ≤ lastKey := by
  have merged : Ordered (mergedState db updates ns) := overlay_ordered (db.ordered ns) (updates.ordered ns)
  have before : ∀ key, inRange startKey lastKey key = true ↔ startKey ≤ key ∧ key < lastKey := by
    intro key
    simp [inRange, named]
  have upTo : ∀ key, key ≤ lastKey → (inRange startKey endKey key = true ↔ startKey ≤ key) := by
    intro key atMost
    rcases inside with unbounded | beyond
    · simp [inRange, unbounded]
    · simp [inRange, lt_of_le_of_lt atMost beyond]
  have noEnd : mergedEndKeyEntry db updates ns endKey false = none := rfl
  apply Ordered.eq_of_mem_iff
  · -- the entries before the last key, then the entry of the last key
    rw [mergedRangeScan, Ordered, List.pairwise_append]
    refine ⟨merged.filter _, ?_, fun early mem latest last => ?_⟩
    · cases mergedEndKeyEntry db updates ns lastKey true <;> simp
    · rw [((mem_mergedEndKeyEntry latest).mp last).2.1]
      exact ((before early.1).mp (Bool.and_eq_true _ _ ▸ (List.mem_filter.mp mem).2).1).2
  · rw [mergedRangeScan, noEnd, Option.toList_none, List.append_nil]
    exact (merged.filter _).filter _
  · intro entry
    simp only [mergedRangeScan, noEnd, Option.toList_none, List.append_nil, List.mem_append, List.mem_filter,
      mem_mergedEndKeyEntry, Bool.and_eq_true, Bool.not_eq_true', decide_eq_true_eq, before]
    constructor
    · rintro (⟨mem, ⟨after, below⟩, live⟩ | ⟨mem, atKey, live⟩)
      · exact ⟨⟨mem, (upTo _ (le_of_lt below)).mpr after, live⟩, le_of_lt below⟩
      · exact ⟨⟨mem, (upTo _ (le_of_eq atKey)).mpr (atKey ▸ started), live⟩, le_of_eq atKey⟩
    · rintro ⟨⟨mem, range, live⟩, atMost⟩
      rcases lt_or_eq_of_le atMost with below | atKey
      · exact .inl ⟨mem, ⟨(upTo _ atMost).mp range, below⟩, live⟩
      · exact .inr ⟨mem, atKey, live⟩

theorem ordered_mergedRangeScan (db : VersionedDB K) (updates : UpdateBatch K) (ns : String) (startKey endKey : K) :
    Ordered (mergedRangeScan db updates ns startKey endKey false) := by
  have noEnd : mergedEndKeyEntry db updates ns endKey false = none := rfl
  rw [mergedRangeScan, noEnd, Option.toList_none, List.append_nil]
  exact (overlay_ordered (db.ordered ns) (updates.ordered ns)).filter _

theorem window_matches_iff_sameResults (db db' : VersionedDB K) (updates : UpdateBatch K) (ns : String)
    (startKey endKey : K) (named : ∀ entry ∈ db.state ns, entry.1 ≠ ⊥) {m : Nat} (called : 0 < m) :
    let results := db.getStateRangeScanIterator ns startKey endKey
    let windowEnd := if results.length < m then endKey else (((results.take m).getLast?).map Prod.fst).getD ⊥
    kvReadsOf (mergedRangeScan db' updates ns startKey windowEnd (!decide (results.length < m))) =
        kvReadsOf (results.take m) ↔
      sameResults m results (mergedRangeScan db' updates ns startKey endKey false) := by
  intro results windowEnd
  by_cases readAll : results.length < m
  · simp only [windowEnd, readAll, if_true, decide_true, Bool.not_true, sameResults,
      List.take_of_length_le (le_of_lt readAll)]
  -- the chaincode stopped at the `m`-th result, inside the range
  obtain ⟨init, last, split⟩ : ∃ init last, results.take m = init ++ [last] := by
    rcases List.eq_nil_or_concat (results.take m) with empty | ⟨init, last, split⟩
    · have := congrArg List.length empty
      simp only [List.length_take, List.length_nil] at this
      omega
    · exact ⟨init, last, split.trans List.concat_eq_append⟩
  have count : init.length + 1 = m := by
    have := congrArg List.length split
    simp only [List.length_take, List.length_append, List.length_singleton] at this
    omega
  have read : last ∈ results := List.mem_of_mem_take (split ▸ List.mem_append_right _ (List.mem_singleton_self _))
  obtain ⟨stored, range⟩ := List.mem_filter.mp read
  simp only [inRange, Bool.and_eq_true, decide_eq_true_eq, Bool.or_eq_true] at range
  have lastKey : windowEnd = last.1 := by
    simp only [windowEnd, if_neg readAll, split, List.getLast?_concat, Option.map_some, Option.getD_some]
  simp only [readAll, decide_false, Bool.not_false, sameResults]
  rw [lastKey, mergedRangeScan_upTo db' updates ns (named last stored) range.1 range.2, split, ← count]
  exact kvReadsOf_filter_le_iff (ordered_mergedRangeScan db' updates ns startKey endKey)

end Window

section PhantomReads

def SummaryCollision (hashing : QueryHashing K) (maxDegree : Nat) (reads : List (KVRead K)) : Prop :=
  ∃ summary other, other ≠ reads ∧ recordedSummary hashing maxDegree other = .ok (some summary) ∧
    recordedSummary hashing maxDegree reads = .ok (some summary)

theorem recordedSummary_of_new {hashing : QueryHashing K} {maxDegree : Nat} {helper : RangeQueryResultsHelper K}
    (created : newRangeQueryResultsHelper true maxDegree = .ok helper) (reads : List (KVRead K)) :
    recordedSummary hashing maxDegree reads = .ok ((reads.foldl (·.addResult hashing ·) helper).done hashing).2 := by
  simp only [recordedSummary, created, bind, Except.bind, pure, Except.pure]

variable [LinearOrder K] [OrderBot K]

end PhantomReads

def singleKeyDB : VersionedDB String :=
  ⟨fun _ => [("k1", ⟨some [1], ⟨1, 0⟩⟩)], fun _ _ => [], fun _ => by decide⟩

end Fabric.Lockbasedtxmgr
