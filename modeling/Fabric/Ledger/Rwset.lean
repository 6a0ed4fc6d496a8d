import Fabric.Ledger.Statedb

/-! `protos/ledger/rwset/kvrwset` and `txmgmt/rwsetutil`: the read-write set a simulation
records, and the helper that records the results of a range query either as raw reads or,
past `maxDegree` results, as the top of a merkle tree over them. -/

namespace Fabric.Rwset

open Statedb

variable {K : Type}

/-- `kvrwset.KVRead`; `none` is the version of a key that was absent. -/
structure KVRead (K : Type) where
  key : K
  version : Option Height
  deriving DecidableEq, Repr

structure KVWrite (K : Type) where
  key : K
  isDelete : Bool
  value : Bytes
  deriving DecidableEq, Repr

structure QueryReadsMerkleSummary where
  maxDegree : Nat
  maxLevel : Nat
  maxLevelHashes : List Bytes
  deriving DecidableEq, Repr

inductive ReadsInfo (K : Type) where
  | rawReads (kvReads : List (KVRead K))
  | readsMerkleHashes (summary : QueryReadsMerkleSummary)
  deriving DecidableEq, Repr

structure RangeQueryInfo (K : Type) where
  startKey : K
  endKey : K
  itrExhausted : Bool
  readsInfo : ReadsInfo K
  deriving DecidableEq, Repr

structure KVReadHash (K : Type) where
  keyHash : K
  version : Option Height
  deriving DecidableEq, Repr

structure KVWriteHash (K : Type) where
  keyHash : K
  isDelete : Bool
  valueHash : Bytes
  deriving DecidableEq, Repr

/-- `rwsetutil.CollHashedRwSet`, its `HashedRWSet` flattened. -/
structure CollHashedRwSet (K : Type) where
  collectionName : String
  hashedReads : List (KVReadHash K)
  hashedWrites : List (KVWriteHash K)
  pvtRwSetHash : Bytes
  deriving DecidableEq, Repr

/-- `rwsetutil.NsRwSet`, its `KVRWSet` flattened. -/
structure NsRwSet (K : Type) where
  nameSpace : String
  reads : List (KVRead K)
  rangeQueriesInfo : List (RangeQueryInfo K)
  writes : List (KVWrite K)
  collHashedRwSets : List (CollHashedRwSet K)
  deriving DecidableEq, Repr

structure TxRwSet (K : Type) where
  nsRwSets : List (NsRwSet K)
  deriving DecidableEq, Repr

structure QueryHashing (K : Type) where
  hash : Bytes → Bytes
  serializeKVReads : List (KVRead K) → Bytes

/-- `merkleTree`: the hashes of each level (a missing level has none), the highest level and
the degree past which a level is folded into the next. -/
structure MerkleTree where
  tree : Nat → List Bytes
  maxLevel : Nat
  maxDegree : Nat

def newMerkleTree (maxDegree : Nat) : Except String MerkleTree :=
  if maxDegree < 2 then
    .error s!"maxDegree [is {maxDegree}] should not be less than 2 in the merkle tree"
  else .ok ⟨fun _ => [], 1, maxDegree⟩

def computeCombinedHash (hash : Bytes → Bytes) (hashes : List Bytes) : Bytes := hash hashes.flatten

def MerkleTree.setLevel (m : MerkleTree) (level : Nat) (hashes : List Bytes) : MerkleTree :=
  { m with tree := fun l => if l = level then hashes else m.tree l }

def MerkleTree.carry (hash : Bytes → Bytes) : Nat → MerkleTree → Nat → MerkleTree
  | 0, m, _ => m
  | fuel + 1, m, currentLevel =>
      let currentLevelHashes := m.tree currentLevel
      if currentLevelHashes.length ≤ m.maxDegree then m
      else
        let nextLevel := currentLevel + 1
        let m := m.setLevel currentLevel []
        let m := m.setLevel nextLevel (m.tree nextLevel ++ [computeCombinedHash hash currentLevelHashes])
        let m := if m.maxLevel < nextLevel then { m with maxLevel := nextLevel } else m
        carry hash fuel m nextLevel

/-- `merkleTree.update`; the levels above `maxLevel` are empty, so the loop stops by then. -/
def MerkleTree.update (hash : Bytes → Bytes) (m : MerkleTree) (nextLeafLevelHash : Bytes) :
    MerkleTree :=
  let m := m.setLevel 1 (m.tree 1 ++ [nextLeafLevelHash])
  m.carry hash (m.maxLevel + 1) 1

def MerkleTree.finish (hash : Bytes → Bytes) : Nat → MerkleTree → Nat → MerkleTree
  | 0, m, _ => m
  | fuel + 1, m, currentLevel =>
      if m.maxLevel ≤ currentLevel then m
      else
        match m.tree currentLevel with
        | [] => finish hash fuel m (currentLevel + 1)
        | currentLevelHashes =>
            let h := match currentLevelHashes with
              | [single] => single
              | _ => computeCombinedHash hash currentLevelHashes
            let m := m.setLevel currentLevel []
            let m := m.setLevel (currentLevel + 1) (m.tree (currentLevel + 1) ++ [h])
            finish hash fuel m (currentLevel + 1)

def MerkleTree.done (hash : Bytes → Bytes) (m : MerkleTree) : MerkleTree :=
  let m := m.finish hash m.maxLevel 1
  let finalHashes := m.tree m.maxLevel
  if m.maxDegree < finalHashes.length then
    let m := m.setLevel m.maxLevel []
    let m := { m with maxLevel := m.maxLevel + 1 }
    m.setLevel m.maxLevel [computeCombinedHash hash finalHashes]
  else m

def MerkleTree.getSummery (m : MerkleTree) : QueryReadsMerkleSummary :=
  ⟨m.maxDegree, m.maxLevel, m.tree m.maxLevel⟩

def MerkleTree.isEmpty (m : MerkleTree) : Bool := m.maxLevel == 1 && (m.tree m.maxLevel).isEmpty

/-- `RangeQueryResultsHelper`. With hashing off its tree is never used. -/
structure RangeQueryResultsHelper (K : Type) where
  pendingResults : List (KVRead K)
  mt : MerkleTree
  maxDegree : Nat
  hashingEnabled : Bool

def newRangeQueryResultsHelper (enableHashing : Bool) (maxDegree : Nat) :
    Except String (RangeQueryResultsHelper K) :=
  if enableHashing then do
    let mt ← newMerkleTree maxDegree
    return ⟨[], mt, maxDegree, true⟩
  else return ⟨[], ⟨fun _ => [], 1, maxDegree⟩, maxDegree, false⟩

def RangeQueryResultsHelper.processPendingResults (hashing : QueryHashing K)
    (helper : RangeQueryResultsHelper K) : RangeQueryResultsHelper K :=
  let hash := hashing.hash (hashing.serializeKVReads helper.pendingResults)
  { helper with pendingResults := [], mt := helper.mt.update hashing.hash hash }

def RangeQueryResultsHelper.addResult (hashing : QueryHashing K) (helper : RangeQueryResultsHelper K)
    (kvRead : KVRead K) : RangeQueryResultsHelper K :=
  let helper := { helper with pendingResults := helper.pendingResults ++ [kvRead] }
  if helper.hashingEnabled && helper.maxDegree < helper.pendingResults.length then
    helper.processPendingResults hashing
  else helper

def RangeQueryResultsHelper.done (hashing : QueryHashing K) (helper : RangeQueryResultsHelper K) :
    List (KVRead K) × Option QueryReadsMerkleSummary :=
  if !helper.hashingEnabled || helper.mt.isEmpty then (helper.pendingResults, none)
  else
    let helper := if helper.pendingResults.isEmpty then helper else helper.processPendingResults hashing
    (helper.pendingResults, some (helper.mt.done hashing.hash).getSummery)

def RangeQueryResultsHelper.getMerkleSummary (helper : RangeQueryResultsHelper K) :
    Option QueryReadsMerkleSummary :=
  if helper.hashingEnabled then some helper.mt.getSummery else none

end Fabric.Rwset
