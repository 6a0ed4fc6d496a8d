import Fabric.Ledger.Rwset

/-! `validator/valinternal` and `validator/statebasedval`: MVCC validation of a block. Each
transaction is checked against the committed state and the updates of the transactions of
the block already found valid; a valid one adds its writes to those updates. -/

namespace Fabric.Statebasedval

open Statedb Rwset SortedAssoc

variable {K : Type} [LinearOrder K] [OrderBot K]

/-- `valinternal.PubAndHashUpdates`; the hashed updates of a namespace are a batch whose
namespaces are the collections. -/
structure PubAndHashUpdates (K : Type) [LinearOrder K] where
  pubUpdates : UpdateBatch K
  hashUpdates : String → UpdateBatch K

def PubAndHashUpdates.empty : PubAndHashUpdates K := ⟨UpdateBatch.empty, fun _ => UpdateBatch.empty⟩

def PubAndHashUpdates.containsHash (u : PubAndHashUpdates K) (ns coll : String) (keyHash : K) : Bool :=
  (u.hashUpdates ns).exists coll keyHash

def applyKVWrite (ns : String) (txHeight : Height) (batch : UpdateBatch K) (kvWrite : KVWrite K) :
    UpdateBatch K :=
  if kvWrite.isDelete then batch.delete ns kvWrite.key txHeight
  else batch.put ns kvWrite.key kvWrite.value txHeight

def applyKVWriteHash (coll : String) (txHeight : Height) (batch : UpdateBatch K)
    (hashedWrite : KVWriteHash K) : UpdateBatch K :=
  if hashedWrite.isDelete then batch.delete coll hashedWrite.keyHash txHeight
  else batch.put coll hashedWrite.keyHash hashedWrite.valueHash txHeight

/-- `ApplyWriteSet`: the public and hashed writes of a transaction, in order, at its height. -/
def PubAndHashUpdates.applyWriteSet (u : PubAndHashUpdates K) (txRWSet : TxRwSet K)
    (txHeight : Height) : PubAndHashUpdates K :=
  txRWSet.nsRwSets.foldl (fun u nsRWSet =>
    let ns := nsRWSet.nameSpace
    { pubUpdates := nsRWSet.writes.foldl (applyKVWrite ns txHeight) u.pubUpdates
      hashUpdates := fun n =>
        if n = ns then
          nsRWSet.collHashedRwSets.foldl (fun batch coll =>
            coll.hashedWrites.foldl (applyKVWriteHash coll.collectionName txHeight) batch)
            (u.hashUpdates n)
        else u.hashUpdates n }) u

/-- `combinedIterator`: the rest of the db scan (its head is `dbItem`), the rest of the scan of
the updates, and whether the end key was served. -/
structure CombinedIterator (K : Type) [LinearOrder K] where
  ns : String
  db : VersionedDB K
  updates : UpdateBatch K
  endKey : K
  includeEndKey : Bool
  dbItems : List (K × VersionedValue)
  updatesItems : List (K × VersionedValue)
  endKeyServed : Bool

def newCombinedIterator (db : VersionedDB K) (updates : UpdateBatch K) (ns : String)
    (startKey endKey : K) (includeEndKey : Bool) : CombinedIterator K :=
  ⟨ns, db, updates, endKey, includeEndKey, db.getStateRangeScanIterator ns startKey endKey,
    updates.getRangeScanIterator ns startKey endKey, false⟩

def isDelete (vv : VersionedValue) : Bool := vv.value.isNone

/-- `serveEndKeyIfNeeded`: the end key once, from the updates or else from the db, unless it
is absent or deleted. -/
def CombinedIterator.serveEndKeyIfNeeded (itr : CombinedIterator K) :
    Option (K × VersionedValue) × CombinedIterator K :=
  if !itr.includeEndKey || itr.endKeyServed then (none, itr)
  else
    let vv := (itr.updates.get itr.ns itr.endKey).or (itr.db.getState itr.ns itr.endKey)
    let itr := { itr with endKeyServed := true }
    match vv with
    | none => (none, itr)
    | some vv => if isDelete vv then (none, itr) else (some (itr.endKey, vv), itr)

def CombinedIterator.select (itr : CombinedIterator K) :
    Option ((K × VersionedValue) × CombinedIterator K) :=
  match itr.dbItems, itr.updatesItems with
  | [], [] => none
  | dbItem :: dbRest, [] => some (dbItem, { itr with dbItems := dbRest })
  | [], updatesItem :: updatesRest => some (updatesItem, { itr with updatesItems := updatesRest })
  | dbItem :: dbRest, updatesItem :: updatesRest =>
      if dbItem.1 < updatesItem.1 then some (dbItem, { itr with dbItems := dbRest })
      else if dbItem.1 = updatesItem.1 then
        some (updatesItem, { itr with dbItems := dbRest, updatesItems := updatesRest })
      else some (updatesItem, { itr with updatesItems := updatesRest })

def CombinedIterator.nextFrom : Nat → CombinedIterator K →
    Option (K × VersionedValue) × CombinedIterator K
  | 0, itr => (none, itr)
  | fuel + 1, itr =>
      match itr.select with
      | none => itr.serveEndKeyIfNeeded
      | some (selectedItem, itr) =>
          if isDelete selectedItem.2 then nextFrom fuel itr else (some selectedItem, itr)

/-- `combinedIterator.Next`; every round but the last moves past an item. -/
def CombinedIterator.next (itr : CombinedIterator K) :
    Option (K × VersionedValue) × CombinedIterator K :=
  itr.nextFrom (itr.dbItems.length + itr.updatesItems.length + 1)

/-- `convertToVersionHeight`: a read without a version is dereferenced as a nil pointer. -/
def convertToVersionHeight : Option Height → Except String Height
  | none => .error "runtime error: invalid memory address or nil pointer dereference"
  | some version => .ok version

def validateResultsFrom : List (KVRead K) → Option (K × VersionedValue) → CombinedIterator K →
    Except String Bool
  | [], result, _ => .ok result.isNone
  | _ :: _, none, _ => .ok false
  | kvRead :: rest, some (key, vv), itr =>
      if key ≠ kvRead.key then .ok false
      else do
        let version ← convertToVersionHeight kvRead.version
        if vv.version ≠ version then return false
        let (result, itr) := itr.next
        validateResultsFrom rest result itr

def validateRawReads (rqResults : List (KVRead K)) (itr : CombinedIterator K) : Except String Bool :=
  let (result, itr) := itr.next
  if rqResults.isEmpty then .ok result.isNone else validateResultsFrom rqResults result itr

def maxLevelHashesEqual (merkle inMerkle : QueryReadsMerkleSummary) (i : Nat) : Except String Bool :=
  match merkle.maxLevelHashes[i]?, inMerkle.maxLevelHashes[i]? with
  | some hash, some inHash => .ok (hash == inHash)
  | _, _ => .error s!"runtime error: index out of range [{i}]"

def validateHashesFrom (hashing : QueryHashing K) (inMerkle : QueryReadsMerkleSummary) :
    Nat → RangeQueryResultsHelper K → CombinedIterator K → Int → Except String Bool
  | 0, _, _, _ => .ok false
  | fuel + 1, helper, itr, lastMatchedIndex =>
      match itr.next with
      | (none, _) => .ok ((helper.done hashing).2 == some inMerkle)
      | (some (key, vv), itr) =>
          let helper := helper.addResult hashing ⟨key, some vv.version⟩
          let merkle := helper.mt.getSummery
          if merkle.maxLevel < inMerkle.maxLevel then
            validateHashesFrom hashing inMerkle fuel helper itr lastMatchedIndex
          else if lastMatchedIndex = (merkle.maxLevelHashes.length : Int) - 1 then
            validateHashesFrom hashing inMerkle fuel helper itr lastMatchedIndex
          else if inMerkle.maxLevelHashes.length < merkle.maxLevelHashes.length then .ok false
          else do
            let index := lastMatchedIndex + 1
            let same ← maxLevelHashesEqual merkle inMerkle index.toNat
            if !same then return false
            validateHashesFrom hashing inMerkle fuel helper itr index

def validateMerkleSummary (hashing : QueryHashing K) (inMerkle : QueryReadsMerkleSummary)
    (itr : CombinedIterator K) : Except String Bool :=
  -- the error of `init` is not checked: the nil helper it leaves panics at its first use
  match (newRangeQueryResultsHelper true inMerkle.maxDegree : Except String (RangeQueryResultsHelper K)) with
  | .error _ => .error "runtime error: invalid memory address or nil pointer dereference"
  -- one round per result, and one for the end
  | .ok helper =>
      validateHashesFrom hashing inMerkle (itr.dbItems.length + itr.updatesItems.length + 2) helper itr (-1)

def validateRangeQuery (hashing : QueryHashing K) (db : VersionedDB K) (ns : String)
    (rangeQueryInfo : RangeQueryInfo K) (updates : UpdateBatch K) : Except String Bool :=
  let includeEndKey := !rangeQueryInfo.itrExhausted
  let combinedItr := newCombinedIterator db updates ns rangeQueryInfo.startKey rangeQueryInfo.endKey
    includeEndKey
  match rangeQueryInfo.readsInfo with
  | .readsMerkleHashes inMerkle => validateMerkleSummary hashing inMerkle combinedItr
  | .rawReads kvReads => validateRawReads kvReads combinedItr

def validateKVRead (db : VersionedDB K) (ns : String) (kvRead : KVRead K) (updates : UpdateBatch K) :
    Bool :=
  !updates.exists ns kvRead.key && db.getVersion ns kvRead.key == kvRead.version

def validateKVReadHash (db : VersionedDB K) (ns coll : String) (kvReadHash : KVReadHash K)
    (updates : PubAndHashUpdates K) : Bool :=
  !updates.containsHash ns coll kvReadHash.keyHash &&
    db.getKeyHashVersion ns coll kvReadHash.keyHash == kvReadHash.version

def validateRangeQueries (hashing : QueryHashing K) (db : VersionedDB K) (ns : String)
    (updates : UpdateBatch K) : List (RangeQueryInfo K) → Except String Bool
  | [] => .ok true
  | rqi :: rest => do
      let valid ← validateRangeQuery hashing db ns rqi updates
      if !valid then return false
      validateRangeQueries hashing db ns updates rest

def validateTx (hashing : QueryHashing K) (db : VersionedDB K) (updates : PubAndHashUpdates K) :
    List (NsRwSet K) → Except String TxValidationCode
  | [] => .ok .valid
  | nsRWSet :: rest => do
      let ns := nsRWSet.nameSpace
      if !nsRWSet.reads.all fun kvRead => validateKVRead db ns kvRead updates.pubUpdates then
        return .mvccReadConflict
      let rangeValid ← validateRangeQueries hashing db ns updates.pubUpdates nsRWSet.rangeQueriesInfo
      if !rangeValid then return .phantomReadConflict
      if !nsRWSet.collHashedRwSets.all fun coll => coll.hashedReads.all fun kvReadHash =>
          validateKVReadHash db ns coll.collectionName kvReadHash updates then
        return .mvccReadConflict
      validateTx hashing db updates rest

structure Transaction (K : Type) where
  indexInBlock : Nat
  id : String
  rwSet : TxRwSet K

structure Block (K : Type) where
  num : Nat
  txs : List (Transaction K)

def validateEndorserTX (hashing : QueryHashing K) (db : VersionedDB K) (txRWSet : TxRwSet K)
    (doMVCCValidation : Bool) (updates : PubAndHashUpdates K) : Except String TxValidationCode :=
  if doMVCCValidation then validateTx hashing db updates txRWSet.nsRwSets else .ok .valid

def prepareTxs (hashing : QueryHashing K) (db : VersionedDB K) (blockNum : Nat)
    (doMVCCValidation : Bool) :
    List (Transaction K) → List TxValidationCode → PubAndHashUpdates K →
      Except String (List TxValidationCode × PubAndHashUpdates K)
  | [], codes, updates => .ok (codes, updates)
  | tx :: rest, codes, updates => do
      let validationCode ← validateEndorserTX hashing db tx.rwSet doMVCCValidation updates
      let updates := if validationCode = .valid then
          updates.applyWriteSet tx.rwSet ⟨blockNum, tx.indexInBlock⟩
        else updates
      prepareTxs hashing db blockNum doMVCCValidation rest (codes ++ [validationCode]) updates

def validateAndPrepareBatch (hashing : QueryHashing K) (db : VersionedDB K) (block : Block K)
    (doMVCCValidation : Bool) : Except String (List TxValidationCode × PubAndHashUpdates K) :=
  prepareTxs hashing db block.num doMVCCValidation block.txs [] PubAndHashUpdates.empty

def keyBytesHashing : QueryHashing String :=
  ⟨id, fun reads => reads.flatMap fun kvRead => kvRead.key.toList.map fun c => c.toNat.toUInt8⟩

def sixKeysDB : VersionedDB String where
  state ns := if ns = "mycc" then
      ["k1", "k2", "k3", "k4", "k5", "k6"].map fun key => (key, ⟨some [1], ⟨1, 0⟩⟩)
    else []
  hashedState _ _ := []
  ordered ns := by
    split
    · decide
    · exact ordered_nil

def rangeGrowthBlock : Block String :=
  let reads (keys : List String) : List (KVRead String) := keys.map fun key => ⟨key, some ⟨1, 0⟩⟩
  let leaf (keys : List String) := keyBytesHashing.hash (keyBytesHashing.serializeKVReads (reads keys))
  ⟨2, [⟨0, "tx0", ⟨[⟨"mycc", [], [], [⟨"k7", false, [2]⟩, ⟨"k8", false, [2]⟩, ⟨"k9", false, [2]⟩], []⟩]⟩⟩,
    ⟨1, "tx1", ⟨[⟨"mycc", [], [⟨"k1", "l", true, .readsMerkleHashes
      ⟨2, 1, [leaf ["k1", "k2", "k3"], leaf ["k4", "k5", "k6"]]⟩⟩], [], []⟩]⟩⟩]⟩

/-- The validation of `tx1` sees the third leaf raise the tree to level 2 with one hash, and
reads index 2 of it: the commit panics instead of marking `tx1` a phantom-read conflict. -/
theorem range_growth_index_out_of_range :
    (validateAndPrepareBatch keyBytesHashing sixKeysDB rangeGrowthBlock true).map Prod.fst =
      .error "runtime error: index out of range [2]" := by
  decide

def recordedSummary (hashing : QueryHashing K) (maxDegree : Nat) (reads : List (KVRead K)) :
    Except String (Option QueryReadsMerkleSummary) := do
  let helper ← newRangeQueryResultsHelper true maxDegree
  pure ((reads.foldl (fun helper kvRead => helper.addResult hashing kvRead) helper).done hashing).2

def nineKeysDB : VersionedDB String where
  state ns := if ns = "mycc" then
      ["k1", "k2", "k3", "k4", "k5", "k6", "k7", "k8", "k9"].map fun key => (key, ⟨some [1], ⟨1, 0⟩⟩)
    else []
  hashedState _ _ := []
  ordered ns := by
    split
    · decide
    · exact ordered_nil

/-- Six reads recorded with `maxDegree` 2 and nine current results give different summaries, yet
validating the recorded one against the nine results panics instead of returning false. -/
theorem hash_validation_of_grown_range_panics :
    let reads (keys : List String) : List (KVRead String) := keys.map fun key => ⟨key, some ⟨1, 0⟩⟩
    recordedSummary keyBytesHashing 2 (reads ["k1", "k2", "k3", "k4", "k5", "k6"]) ≠
        recordedSummary keyBytesHashing 2 (reads ["k1", "k2", "k3", "k4", "k5", "k6", "k7", "k8", "k9"]) ∧
      (recordedSummary keyBytesHashing 2 (reads ["k1", "k2", "k3", "k4", "k5", "k6"])).map
          (Option.map fun summary => validateMerkleSummary keyBytesHashing summary
            (newCombinedIterator nineKeysDB UpdateBatch.empty "mycc" "k1" "l" false)) =
        .ok (some (.error "runtime error: index out of range [2]")) := by
  decide +kernel

end Fabric.Statebasedval
