import Mathlib.Data.List.Dedup
import Mathlib.Tactic.Ring
import Fabric.Protos.Common
import Fabric.Ledger.Rwset
import Fabric.Lib.Basic

/-! `gossip/privdata/coordinator.go`: StoreBlock gathers the private write sets of a block from
the dissemination payload, the transient store and remote peers, keyed by transaction, namespace,
collection and hash, keeps those the block's valid transactions hash, and hands them to the ledger
with the list of those it could not find. -/

namespace Fabric.Privdata

open Rwset

structure CollectionPvtReadWriteSet where
  collectionName : String
  rwset : Bytes
  deriving DecidableEq, Repr

structure NsPvtReadWriteSet where
  nameSpace : String
  collectionPvtRwset : List CollectionPvtReadWriteSet
  deriving DecidableEq, Repr

structure TxPvtReadWriteSet where
  nsPvtRwset : List NsPvtReadWriteSet
  deriving DecidableEq, Repr

structure TxPvtData where
  seqInBlock : Nat
  writeSet : TxPvtReadWriteSet
  deriving DecidableEq, Repr

structure Transaction where
  txId : String
  channelId : String
  type : HeaderType
  -- The public read-write set, when the chaincode action, the transaction, its chaincode action
  -- payload and the results decode and the action is not nil.
  txRWSet : Option (TxRwSet Bytes)
  deriving DecidableEq, Repr

structure Block where
  number : Nat
  -- One entry per envelope: nothing where the envelope, its payload or its channel header does not
  -- decode.
  data : List (Option Transaction)
  -- The TRANSACTIONS_FILTER metadata, when the block's metadata holds one.
  txsFilter : Option (List TxValidationCode)
  deriving DecidableEq, Repr

structure RwSetKey where
  txID : String
  seqInBlock : Nat
  nameSpace : String
  collection : String
  hash : Bytes
  deriving DecidableEq, Repr

structure CollectionCriteria where
  channel : String
  nameSpace : String
  collection : String
  txId : String
  deriving DecidableEq, Repr

structure PvtDataDigest where
  txId : String
  seqInBlock : Nat
  collection : String
  nameSpace : String
  blockSeq : Nat
  deriving DecidableEq, Repr

structure PvtDataElement where
  digest : PvtDataDigest
  payload : List Bytes
  deriving DecidableEq, Repr

structure FetchedPvtDataContainer where
  availableElemenets : List PvtDataElement
  purgedElements : List PvtDataDigest
  deriving DecidableEq, Repr

structure MissingPrivateData where
  txId : String
  nameSpace : String
  collection : String
  seqInBlock : Nat
  deriving DecidableEq, Repr

structure BlockAndPvtData where
  block : Block
  blockPvtData : List (Nat × TxPvtData)
  missing : List MissingPrivateData
  deriving DecidableEq, Repr

inductive Failure
  | error (message : String)
  -- computeOwnedRWsets: the envelope, payload or channel header of the transaction an entry names
  -- does not decode.
  | undecodable
  -- The runtime panic of `block.Data.Data[txPvtData.SeqInBlock]`.
  | indexOutOfRange
  deriving DecidableEq, Repr

structure Support where
  -- Validator.Validate, which writes the TRANSACTIONS_FILTER into the block.
  validate : Block → Except String Block
  -- RetrieveCollectionAccessPolicy found a policy and this peer's signed data passes its access
  -- filter.
  eligible : CollectionCriteria → Bool
  -- What the transient store's scanner yields for a txid and a namespace/collection filter: nothing
  -- where a result's write set is nil.
  getTxPvtRWSetByTxid : String → List (String × String) → List (Option TxPvtReadWriteSet)
  computeSHA256 : Bytes → Bytes
  commitWithPvtData : BlockAndPvtData → Except String Unit

def goInt (x : Nat) : Int := if x < 2 ^ 63 then x else (x : Int) - 2 ^ 64

def addRWSets (computeSHA256 : Bytes → Bytes) (txID : String) (seqInBlock : Nat)
    (owned : List (RwSetKey × Bytes)) (writeSet : TxPvtReadWriteSet) : List (RwSetKey × Bytes) :=
  writeSet.nsPvtRwset.foldl (fun owned ns =>
    ns.collectionPvtRwset.foldl (fun owned col =>
      owned.setKey ⟨txID, seqInBlock, ns.nameSpace, col.collectionName, computeSHA256 col.rwset⟩
        col.rwset) owned) owned

def computeOwnedRWsets (computeSHA256 : Bytes → Bytes) (block : Block) :
    List TxPvtData → List (RwSetKey × Bytes) → Except Failure (List (RwSetKey × Bytes))
  | [], owned => .ok owned
  | txPvtData :: rest, owned =>
    -- "Claimed SeqInBlock %d but block has only %d transactions"
    if (block.data.length : Int) - 1 < goInt txPvtData.seqInBlock then
      computeOwnedRWsets computeSHA256 block rest owned
    else
      match block.data[txPvtData.seqInBlock]? with
      | none => .error .indexOutOfRange
      | some none => .error .undecodable
      | some (some tx) =>
        computeOwnedRWsets computeSHA256 block rest
          (addRWSets computeSHA256 tx.txId txPvtData.seqInBlock owned txPvtData.writeSet)

def containsWrites (colHashedRWSet : CollHashedRwSet Bytes) : Bool :=
  !colHashedRWSet.hashedWrites.isEmpty

structure Inspection where
  privateRWsetsInBlock : List RwSetKey
  missingKeys : List ((String × Nat) × List RwSetKey)

def inspectCollection (eligible : CollectionCriteria → Bool) (owned : List (RwSetKey × Bytes))
    (tx : Transaction) (seqInBlock : Nat) (nameSpace : String) (st : Inspection)
    (hashedCollection : CollHashedRwSet Bytes) : Inspection :=
  if !containsWrites hashedCollection then st
  else if !eligible ⟨tx.channelId, nameSpace, hashedCollection.collectionName, tx.txId⟩ then st
  else
    let key : RwSetKey :=
      ⟨tx.txId, seqInBlock, nameSpace, hashedCollection.collectionName, hashedCollection.pvtRwSetHash⟩
    let inBlock :=
      if key ∈ st.privateRWsetsInBlock then st.privateRWsetsInBlock else st.privateRWsetsInBlock ++ [key]
    if owned.hasKey key then { st with privateRWsetsInBlock := inBlock }
    else ⟨inBlock, st.missingKeys.appendAt (tx.txId, seqInBlock) key⟩

def inspectTransaction (eligible : CollectionCriteria → Bool) (owned : List (RwSetKey × Bytes))
    (tx : Transaction) (seqInBlock : Nat) (txRWSet : TxRwSet Bytes) (st : Inspection) : Inspection :=
  txRWSet.nsRwSets.foldl (fun st ns =>
    ns.collHashedRwSets.foldl (inspectCollection eligible owned tx seqInBlock ns.nameSpace) st) st

def forEachTxn (eligible : CollectionCriteria → Bool) (owned : List (RwSetKey × Bytes))
    (txsFilter : List TxValidationCode) :
    Nat → List (Option Transaction) → List String × Inspection → List String × Inspection
  | _, [], acc => acc
  | seqInBlock, none :: rest, acc => forEachTxn eligible owned txsFilter (seqInBlock + 1) rest acc
  | seqInBlock, some tx :: rest, (txList, st) =>
    if tx.type ≠ .endorserTransaction then
      forEachTxn eligible owned txsFilter (seqInBlock + 1) rest (txList, st)
    else if txsFilter[seqInBlock]? ≠ some .valid then
      forEachTxn eligible owned txsFilter (seqInBlock + 1) rest (txList ++ [tx.txId], st)
    else
      match tx.txRWSet with
      | none => forEachTxn eligible owned txsFilter (seqInBlock + 1) rest (txList ++ [tx.txId], st)
      | some txRWSet =>
        forEachTxn eligible owned txsFilter (seqInBlock + 1) rest
          (txList ++ [tx.txId], inspectTransaction eligible owned tx seqInBlock txRWSet st)

def fetchFromTransientStore (support : Support) (owned : List (RwSetKey × Bytes))
    (txAndSeq : String × Nat) (filter : List (String × String)) : List (RwSetKey × Bytes) :=
  (support.getTxPvtRWSetByTxid txAndSeq.1 filter).foldl (fun owned res =>
    match res with
    | none => owned
    | some pvtRwset => addRWSets support.computeSHA256 txAndSeq.1 txAndSeq.2 owned pvtRwset) owned

def fetchMissingFromTransientStore (support : Support) (missing : List ((String × Nat) × List RwSetKey))
    (owned : List (RwSetKey × Bytes)) : List (RwSetKey × Bytes) :=
  missing.foldl (fun owned entry =>
    fetchFromTransientStore support owned entry.1 (entry.2.map fun key => (key.nameSpace, key.collection)))
    owned

structure PrivateDataInfo where
  missingKeysByTxIDs : List ((String × Nat) × List RwSetKey)
  missingKeys : List RwSetKey
  txns : List String

def listMissingPrivateData (support : Support) (block : Block) (owned : List (RwSetKey × Bytes)) :
    Except Failure (PrivateDataInfo × List (RwSetKey × Bytes)) :=
  match block.txsFilter with
  | none => .error (.error "Block.Metadata is nil or Block.Metadata lacks a Tx filter bitmap")
  | some txsFilter =>
    let dataSize := block.data.length
    let filterSize := txsFilter.length
    if filterSize ≠ dataSize then
      .error (.error s!"Block data size({dataSize}) is different from Tx filter size({filterSize})")
    else
      let inspected := forEachTxn support.eligible owned txsFilter 0 block.data ([], ⟨[], []⟩)
      let fetched := fetchMissingFromTransientStore support inspected.2.missingKeys owned
      -- what is not in the block is removed from the data passed to the ledger
      let kept := fetched.filter fun entry => entry.1 ∈ inspected.2.privateRWsetsInBlock
      let missingKeys := (inspected.2.missingKeys.flatMap (·.2)).dedup.filter fun key => !kept.hasKey key
      .ok (⟨inspected.2.missingKeys, missingKeys, inspected.1⟩, kept)

def fetchFromPeers (computeSHA256 : Bytes → Bytes) (fetched : Except String FetchedPvtDataContainer)
    (owned : List (RwSetKey × Bytes)) (missingKeys : List RwSetKey) :
    List (RwSetKey × Bytes) × List RwSetKey :=
  match fetched with
  | .error _ => (owned, missingKeys)
  | .ok fetchedData =>
    let available := fetchedData.availableElemenets.foldl (fun acc element =>
      element.payload.foldl (fun acc rws =>
        let key : RwSetKey := ⟨element.digest.txId, element.digest.seqInBlock, element.digest.nameSpace,
          element.digest.collection, computeSHA256 rws⟩
        -- "Ignoring ... because it wasn't found in the block"
        if key ∉ acc.2 then acc
        else (acc.1.setKey key rws, acc.2.filter (· ≠ key))) acc) (owned, missingKeys)
    (available.1, fetchedData.purgedElements.foldl (fun missingKeys dig =>
      missingKeys.filter fun key =>
        !(key.nameSpace = dig.nameSpace && key.collection = dig.collection && key.txID = dig.txId))
      available.2)

def fetchRounds (computeSHA256 : Bytes → Bytes) :
    List (Except String FetchedPvtDataContainer) → List (RwSetKey × Bytes) × List RwSetKey →
      List (RwSetKey × Bytes) × List RwSetKey
  | [], acc => acc
  | fetched :: later, acc =>
    if acc.2.isEmpty then acc
    else fetchRounds computeSHA256 later (fetchFromPeers computeSHA256 fetched acc.1 acc.2)

def bySeqsInBlock (owned : List (RwSetKey × Bytes)) : List (Nat × List (RwSetKey × Bytes)) :=
  owned.foldl (fun res entry => res.appendAt entry.1.seqInBlock entry) []

def toRWSet (rwsets : List (RwSetKey × Bytes)) : TxPvtReadWriteSet :=
  ⟨(rwsets.foldl (fun namespaces rws =>
      namespaces.appendAt rws.1.nameSpace ⟨rws.1.collection, rws.2⟩) []).map
    fun entry => ⟨entry.1, entry.2⟩⟩

def toCommit (support : Support) (block : Block) (privateDataSets : List TxPvtData)
    (answers : List (Except String FetchedPvtDataContainer)) : Except Failure BlockAndPvtData :=
  match support.validate block with
  | .error err => .error (.error err)
  | .ok block => do
    let owned ← computeOwnedRWsets support.computeSHA256 block privateDataSets []
    let listed ← listMissingPrivateData support block owned
    let fetched := fetchRounds support.computeSHA256 answers (listed.2, listed.1.missingKeys)
    return ⟨block, (bySeqsInBlock fetched.1).map fun entry => (entry.1, ⟨entry.1, toRWSet entry.2⟩),
      fetched.2.map fun key => ⟨key.txID, key.nameSpace, key.collection, key.seqInBlock⟩⟩

def storeBlock (support : Support) (block : Block) (privateDataSets : List TxPvtData)
    (answers : List (Except String FetchedPvtDataContainer)) : Except Failure BlockAndPvtData := do
  let blockAndPvtData ← toCommit support block privateDataSets answers
  match support.commitWithPvtData blockAndPvtData with
  | .error err => .error (.error ("commit failed: " ++ err))
  | .ok () => .ok blockAndPvtData

section Passes

variable {computeSHA256 : Bytes → Bytes}

def Hashed (computeSHA256 : Bytes → Bytes) (owned : List (RwSetKey × Bytes)) : Prop :=
  ∀ entry ∈ owned, entry.1.hash = computeSHA256 entry.2

theorem Hashed.setKey {owned : List (RwSetKey × Bytes)} (hashed : Hashed computeSHA256 owned)
    {key : RwSetKey} {rws : Bytes} (keyed : key.hash = computeSHA256 rws) :
    Hashed computeSHA256 (owned.setKey key rws) := by
  intro entry member
  rcases List.mem_of_mem_setKey member with new | old
  · rw [new]
    exact keyed
  · exact hashed entry old

theorem addRWSets_hashed {owned : List (RwSetKey × Bytes)} (hashed : Hashed computeSHA256 owned)
    (txID : String) (seqInBlock : Nat) (writeSet : TxPvtReadWriteSet) :
    Hashed computeSHA256 (addRWSets computeSHA256 txID seqInBlock owned writeSet) := by
  refine List.foldlRecOn (motive := Hashed computeSHA256) writeSet.nsPvtRwset _ hashed ?_
  intro owned' hashed' ns _
  refine List.foldlRecOn (motive := Hashed computeSHA256) ns.collectionPvtRwset _ hashed' ?_
  intro owned'' hashed'' col _
  exact hashed''.setKey rfl

theorem addRWSets_hasKey {owned : List (RwSetKey × Bytes)} {key : RwSetKey}
    (present : owned.hasKey key = true) (txID : String) (seqInBlock : Nat)
    (writeSet : TxPvtReadWriteSet) :
    (addRWSets computeSHA256 txID seqInBlock owned writeSet).hasKey key = true := by
  refine List.foldlRecOn (motive := fun owned' : List (RwSetKey × Bytes) => owned'.hasKey key = true) writeSet.nsPvtRwset _
    present ?_
  intro owned' present' ns _
  refine List.foldlRecOn (motive := fun owned'' : List (RwSetKey × Bytes) => owned''.hasKey key = true) ns.collectionPvtRwset _
    present' ?_
  intro owned'' present'' col _
  simp [present'']

theorem computeOwnedRWsets_hashed (block : Block) :
    ∀ (privateDataSets : List TxPvtData) {owned result : List (RwSetKey × Bytes)},
      Hashed computeSHA256 owned → computeOwnedRWsets computeSHA256 block privateDataSets owned = .ok result →
        Hashed computeSHA256 result
  | [], _, _, hashed, computed => by
    cases computed
    exact hashed
  | txPvtData :: rest, owned, result, hashed, computed => by
    unfold computeOwnedRWsets at computed
    split at computed
    · exact computeOwnedRWsets_hashed block rest hashed computed
    · split at computed
      · cases computed
      · cases computed
      · exact computeOwnedRWsets_hashed block rest (addRWSets_hashed hashed _ _ _) computed

theorem fetchMissingFromTransientStore_hashed (support : Support)
    (missing : List ((String × Nat) × List RwSetKey)) {owned : List (RwSetKey × Bytes)}
    (hashed : Hashed support.computeSHA256 owned) :
    Hashed support.computeSHA256 (fetchMissingFromTransientStore support missing owned) := by
  refine List.foldlRecOn (motive := Hashed support.computeSHA256) missing _ hashed ?_
  intro owned' hashed' entry _
  refine List.foldlRecOn (motive := Hashed support.computeSHA256) _ _ hashed' ?_
  intro owned'' hashed'' res _
  cases res with
  | none => exact hashed''
  | some pvtRwset => exact addRWSets_hashed hashed'' _ _ _

theorem fetchMissingFromTransientStore_hasKey (support : Support)
    (missing : List ((String × Nat) × List RwSetKey)) {owned : List (RwSetKey × Bytes)}
    {key : RwSetKey} (present : owned.hasKey key = true) :
    (fetchMissingFromTransientStore support missing owned).hasKey key = true := by
  refine List.foldlRecOn (motive := fun owned' : List (RwSetKey × Bytes) => owned'.hasKey key = true) missing _ present ?_
  intro owned' present' entry _
  refine List.foldlRecOn (motive := fun owned'' : List (RwSetKey × Bytes) => owned''.hasKey key = true) _ _ present' ?_
  intro owned'' present'' res _
  cases res with
  | none => exact present''
  | some pvtRwset => exact addRWSets_hasKey present'' _ _ _

end Passes

def KeyOf (eligible : CollectionCriteria → Bool) (tx : Transaction) (seqInBlock : Nat)
    (txRWSet : TxRwSet Bytes) (key : RwSetKey) : Prop :=
  key.seqInBlock = seqInBlock ∧ key.txID = tx.txId ∧
    ∃ ns ∈ txRWSet.nsRwSets, ns.nameSpace = key.nameSpace ∧
      ∃ coll ∈ ns.collHashedRwSets, coll.collectionName = key.collection ∧
        containsWrites coll = true ∧ coll.pvtRwSetHash = key.hash ∧
        eligible ⟨tx.channelId, key.nameSpace, key.collection, tx.txId⟩ = true

def InBlock (eligible : CollectionCriteria → Bool) (block : Block) (key : RwSetKey) : Prop :=
  ∃ txsFilter tx txRWSet, block.txsFilter = some txsFilter ∧
    block.data[key.seqInBlock]? = some (some tx) ∧ tx.type = .endorserTransaction ∧
    txsFilter[key.seqInBlock]? = some .valid ∧ tx.txRWSet = some txRWSet ∧
    KeyOf eligible tx key.seqInBlock txRWSet key

structure Sorted (owned : List (RwSetKey × Bytes)) (st : Inspection) : Prop where
  missing : ∀ key ∈ st.missingKeys.flatMap (·.2), key ∈ st.privateRWsetsInBlock ∧ owned.hasKey key = false
  covered : ∀ key ∈ st.privateRWsetsInBlock, owned.hasKey key = true ∨ key ∈ st.missingKeys.flatMap (·.2)

section Inspector

variable {eligible : CollectionCriteria → Bool} {owned : List (RwSetKey × Bytes)}

theorem mem_inspectCollection {tx : Transaction} {seqInBlock : Nat} {nameSpace : String}
    {st : Inspection} {coll : CollHashedRwSet Bytes} {key : RwSetKey} :
    key ∈ (inspectCollection eligible owned tx seqInBlock nameSpace st coll).privateRWsetsInBlock ↔
      key ∈ st.privateRWsetsInBlock ∨
        (containsWrites coll = true ∧ eligible ⟨tx.channelId, nameSpace, coll.collectionName, tx.txId⟩ = true ∧
          key = ⟨tx.txId, seqInBlock, nameSpace, coll.collectionName, coll.pvtRwSetHash⟩) := by
  unfold inspectCollection
  by_cases writes : containsWrites coll = true
  · by_cases allowed : eligible ⟨tx.channelId, nameSpace, coll.collectionName, tx.txId⟩ = true
    · simp only [writes, allowed, Bool.not_true, Bool.false_eq_true, if_false, true_and]
      split <;> split <;> simp_all
    · simp [writes, allowed]
  · simp [writes]

theorem inspectCollection_sorted {tx : Transaction} {seqInBlock : Nat} {nameSpace : String}
    {st : Inspection} (sorted : Sorted owned st) (coll : CollHashedRwSet Bytes) :
    Sorted owned (inspectCollection eligible owned tx seqInBlock nameSpace st coll) := by
  unfold inspectCollection
  split
  · exact sorted
  · split
    · exact sorted
    · dsimp only
      -- the key of the collection joins the block's keys, and the missing ones unless owned
      have grown : ∀ key ∈ st.privateRWsetsInBlock, key ∈
          (if ⟨tx.txId, seqInBlock, nameSpace, coll.collectionName, coll.pvtRwSetHash⟩ ∈ st.privateRWsetsInBlock
            then st.privateRWsetsInBlock
            else st.privateRWsetsInBlock ++ [⟨tx.txId, seqInBlock, nameSpace, coll.collectionName, coll.pvtRwSetHash⟩]) := by
        intro key member
        split
        · exact member
        · exact List.mem_append_left _ member
      split
      · next ownedKey =>
        refine ⟨fun key member => ?_, fun key member => ?_⟩
        · exact ⟨grown key (sorted.missing key member).1, (sorted.missing key member).2⟩
        · split at member
          · exact sorted.covered key member
          · rcases List.mem_append.mp member with old | new
            · exact sorted.covered key old
            · rw [List.mem_singleton.mp new]
              exact Or.inl ownedKey
      · next notOwned =>
        refine ⟨fun key member => ?_, fun key member => ?_⟩
        · rcases List.mem_flatMap_appendAt.mp member with old | new
          · exact ⟨grown key (sorted.missing key old).1, (sorted.missing key old).2⟩
          · subst new
            refine ⟨?_, by simpa using notOwned⟩
            split
            · assumption
            · exact List.mem_append_right _ (List.mem_singleton_self _)
        · have later : key ∈ st.privateRWsetsInBlock ∨
              key = ⟨tx.txId, seqInBlock, nameSpace, coll.collectionName, coll.pvtRwSetHash⟩ := by
            split at member
            · exact Or.inl member
            · simpa using member
          rcases later with old | new
          · rcases sorted.covered key old with ownedKey | missingKey
            · exact Or.inl ownedKey
            · exact Or.inr (List.mem_flatMap_appendAt.mpr (Or.inl missingKey))
          · exact Or.inr (List.mem_flatMap_appendAt.mpr (Or.inr new))

theorem mem_inspectTransaction {tx : Transaction} {seqInBlock : Nat} {txRWSet : TxRwSet Bytes}
    {key : RwSetKey} :
    ∀ {st : Inspection},
      key ∈ (inspectTransaction eligible owned tx seqInBlock txRWSet st).privateRWsetsInBlock ↔
        key ∈ st.privateRWsetsInBlock ∨ KeyOf eligible tx seqInBlock txRWSet key := by
  -- the loop over the namespaces, then the loop over each namespace's collections
  have collections : ∀ (nameSpace : String) (colls : List (CollHashedRwSet Bytes)) (st : Inspection),
      key ∈ (colls.foldl (inspectCollection eligible owned tx seqInBlock nameSpace) st).privateRWsetsInBlock ↔
        key ∈ st.privateRWsetsInBlock ∨ ∃ coll ∈ colls, containsWrites coll = true ∧
          eligible ⟨tx.channelId, nameSpace, coll.collectionName, tx.txId⟩ = true ∧
          key = ⟨tx.txId, seqInBlock, nameSpace, coll.collectionName, coll.pvtRwSetHash⟩ := by
    intro nameSpace colls
    induction colls with
    | nil => simp
    | cons coll rest ih =>
      intro st
      rw [List.foldl_cons, ih, mem_inspectCollection]
      simp only [List.mem_cons, exists_eq_or_imp]
      exact or_assoc
  have namespaces : ∀ (nss : List (NsRwSet Bytes)) (st : Inspection),
      key ∈ (nss.foldl (fun st ns =>
          ns.collHashedRwSets.foldl (inspectCollection eligible owned tx seqInBlock ns.nameSpace) st)
          st).privateRWsetsInBlock ↔
        key ∈ st.privateRWsetsInBlock ∨ ∃ ns ∈ nss, ∃ coll ∈ ns.collHashedRwSets,
          containsWrites coll = true ∧
          eligible ⟨tx.channelId, ns.nameSpace, coll.collectionName, tx.txId⟩ = true ∧
          key = ⟨tx.txId, seqInBlock, ns.nameSpace, coll.collectionName, coll.pvtRwSetHash⟩ := by
    intro nss
    induction nss with
    | nil => simp
    | cons ns rest ih =>
      intro st
      rw [List.foldl_cons, ih, collections]
      simp only [List.mem_cons, exists_eq_or_imp]
      exact or_assoc
  intro st
  rw [inspectTransaction, namespaces]
  apply or_congr_right
  constructor
  · rintro ⟨ns, nsMember, coll, collMember, writes, allowed, rfl⟩
    exact ⟨rfl, rfl, ns, nsMember, rfl, coll, collMember, rfl, writes, rfl, allowed⟩
  · rintro ⟨seq, txID, ns, nsMember, nsName, coll, collMember, collName, writes, hash, allowed⟩
    refine ⟨ns, nsMember, coll, collMember, writes, ?_, ?_⟩
    · rw [nsName, collName]
      exact allowed
    · obtain ⟨txID', seq', nameSpace', collection', hash'⟩ := key
      simp only at seq txID nsName collName hash
      subst seq txID nsName collName hash
      rfl

theorem inspectTransaction_sorted {tx : Transaction} {seqInBlock : Nat} (txRWSet : TxRwSet Bytes)
    {st : Inspection} (sorted : Sorted owned st) :
    Sorted owned (inspectTransaction eligible owned tx seqInBlock txRWSet st) := by
  refine List.foldlRecOn (motive := Sorted owned) txRWSet.nsRwSets _ sorted ?_
  intro st' sorted' ns _
  refine List.foldlRecOn (motive := Sorted owned) ns.collHashedRwSets _ sorted' ?_
  intro st'' sorted'' coll _
  exact inspectCollection_sorted sorted'' coll

end Inspector

section Walk

variable {eligible : CollectionCriteria → Bool} {owned : List (RwSetKey × Bytes)}
  {block : Block} {txsFilter : List TxValidationCode}

theorem InBlock.lt_length {key : RwSetKey} (inBlock : InBlock eligible block key) :
    key.seqInBlock < block.data.length := by
  obtain ⟨_, tx, _, _, data, _⟩ := inBlock
  exact (List.getElem?_eq_some_iff.mp data).1

theorem inBlock_at (filtered : block.txsFilter = some txsFilter) {seqInBlock : Nat}
    {entry : Option Transaction} (here : block.data[seqInBlock]? = some entry) (key : RwSetKey) :
    (key.seqInBlock = seqInBlock ∧ InBlock eligible block key) ↔
      ∃ tx txRWSet, entry = some tx ∧ tx.type = .endorserTransaction ∧
        txsFilter[seqInBlock]? = some .valid ∧ tx.txRWSet = some txRWSet ∧
        KeyOf eligible tx seqInBlock txRWSet key := by
  constructor
  · rintro ⟨rfl, txsFilter', tx, txRWSet, filtered', data, endorser, valid, rwset, keyOf⟩
    obtain rfl : txsFilter' = txsFilter := Option.some.inj (filtered'.symm.trans filtered)
    obtain rfl : entry = some tx := Option.some.inj (here.symm.trans data)
    exact ⟨tx, txRWSet, rfl, endorser, valid, rwset, keyOf⟩
  · rintro ⟨tx, txRWSet, rfl, endorser, valid, rwset, keyOf⟩
    have seq : key.seqInBlock = seqInBlock := keyOf.1
    refine ⟨seq, txsFilter, tx, txRWSet, filtered, ?_, endorser, ?_, rwset, ?_⟩
    · rw [seq]
      exact here
    · rw [seq]
      exact valid
    · rw [seq]
      exact keyOf

theorem from_iff_at_or_after {start : Nat} {key : RwSetKey} :
    (start ≤ key.seqInBlock ∧ InBlock eligible block key) ↔
      (key.seqInBlock = start ∧ InBlock eligible block key) ∨
        (start + 1 ≤ key.seqInBlock ∧ InBlock eligible block key) := by
  constructor
  · rintro ⟨le, inBlock⟩
    rcases Nat.eq_or_lt_of_le le with same | later
    · exact Or.inl ⟨same.symm, inBlock⟩
    · exact Or.inr ⟨later, inBlock⟩
  · rintro (⟨same, inBlock⟩ | ⟨later, inBlock⟩)
    · exact ⟨same.ge, inBlock⟩
    · exact ⟨Nat.le_of_succ_le later, inBlock⟩

theorem after_iff_of_skipped {start : Nat} {key : RwSetKey}
    (skipped : ¬(key.seqInBlock = start ∧ InBlock eligible block key)) :
    (start + 1 ≤ key.seqInBlock ∧ InBlock eligible block key) ↔
      (start ≤ key.seqInBlock ∧ InBlock eligible block key) := by
  constructor
  · rintro ⟨later, inBlock⟩
    exact ⟨Nat.le_of_succ_le later, inBlock⟩
  · intro from_start
    exact (from_iff_at_or_after.mp from_start).resolve_left skipped

theorem mem_forEachTxn (filtered : block.txsFilter = some txsFilter) (start : Nat)
    (rest : List (Option Transaction)) (acc : List String × Inspection)
    (suffix : block.data.drop start = rest) (key : RwSetKey) :
    key ∈ (forEachTxn eligible owned txsFilter start rest acc).2.privateRWsetsInBlock ↔
      key ∈ acc.2.privateRWsetsInBlock ∨ (start ≤ key.seqInBlock ∧ InBlock eligible block key) := by
  fun_induction forEachTxn eligible owned txsFilter start rest acc with
  | case1 start acc =>
    have ended : block.data.length ≤ start := List.drop_eq_nil_iff.mp suffix
    have none : ¬(start ≤ key.seqInBlock ∧ InBlock eligible block key) := by
      rintro ⟨le, inBlock⟩
      have := inBlock.lt_length
      omega
    simp [none]
  | case2 start rest acc ih =>
    obtain ⟨here, later⟩ := List.of_drop_eq_cons suffix
    have skipped : ¬(key.seqInBlock = start ∧ InBlock eligible block key) := by
      rw [inBlock_at filtered here]
      simp
    rw [ih later]
    exact or_congr_right (after_iff_of_skipped skipped)
  | case3 start tx rest txList st notEndorser ih =>
    obtain ⟨here, later⟩ := List.of_drop_eq_cons suffix
    have skipped : ¬(key.seqInBlock = start ∧ InBlock eligible block key) := by
      rw [inBlock_at filtered here]
      rintro ⟨tx', _, same, endorser, _⟩
      cases same
      exact notEndorser endorser
    rw [ih later]
    exact or_congr_right (after_iff_of_skipped skipped)
  | case4 start tx rest txList st _ invalid ih =>
    obtain ⟨here, later⟩ := List.of_drop_eq_cons suffix
    have skipped : ¬(key.seqInBlock = start ∧ InBlock eligible block key) := by
      rw [inBlock_at filtered here]
      rintro ⟨_, _, _, _, valid, _⟩
      exact invalid valid
    rw [ih later]
    exact or_congr_right (after_iff_of_skipped skipped)
  | case5 start tx rest txList st _ _ noRWSet ih =>
    obtain ⟨here, later⟩ := List.of_drop_eq_cons suffix
    have skipped : ¬(key.seqInBlock = start ∧ InBlock eligible block key) := by
      rw [inBlock_at filtered here]
      rintro ⟨tx', _, same, _, _, rwset, _⟩
      cases same
      rw [noRWSet] at rwset
      cases rwset
    rw [ih later]
    exact or_congr_right (after_iff_of_skipped skipped)
  | case6 start tx rest txList st endorser valid txRWSet hasRWSet ih =>
    obtain ⟨here, later⟩ := List.of_drop_eq_cons suffix
    -- the keys at this position are the ones the transaction's inspection records
    have split : (start ≤ key.seqInBlock ∧ InBlock eligible block key) ↔
        KeyOf eligible tx start txRWSet key ∨ (start + 1 ≤ key.seqInBlock ∧ InBlock eligible block key) := by
      refine from_iff_at_or_after.trans (or_congr_left ?_)
      rw [inBlock_at filtered here]
      constructor
      · rintro ⟨tx', txRWSet', same, _, _, rwset, keyOf⟩
        cases same
        rw [hasRWSet] at rwset
        cases rwset
        exact keyOf
      · intro keyOf
        exact ⟨tx, txRWSet, rfl, not_not.mp endorser, not_not.mp valid, hasRWSet, keyOf⟩
    rw [ih later]
    dsimp only
    rw [mem_inspectTransaction, split, or_assoc]

theorem forEachTxn_sorted (start : Nat) (rest : List (Option Transaction))
    (acc : List String × Inspection) (sorted : Sorted owned acc.2) :
    Sorted owned (forEachTxn eligible owned txsFilter start rest acc).2 := by
  fun_induction forEachTxn eligible owned txsFilter start rest acc with
  | case1 => exact sorted
  | case2 _ _ _ ih => exact ih sorted
  | case3 _ _ _ _ _ _ ih => exact ih sorted
  | case4 _ _ _ _ _ _ _ ih => exact ih sorted
  | case5 _ _ _ _ _ _ _ _ ih => exact ih sorted
  | case6 _ _ _ _ _ _ _ txRWSet _ ih => exact ih (inspectTransaction_sorted txRWSet sorted)

end Walk

structure Gathered (support : Support) (block : Block) (owned : List (RwSetKey × Bytes))
    (missing : List RwSetKey) : Prop where
  owned_inBlock : ∀ entry ∈ owned, InBlock support.eligible block entry.1
  hashed : Hashed support.computeSHA256 owned
  missing_inBlock : ∀ key ∈ missing, InBlock support.eligible block key
  missing_not_owned : ∀ key ∈ missing, owned.hasKey key = false

def Purged (answers : List (Except String FetchedPvtDataContainer)) (key : RwSetKey) : Prop :=
  ∃ container, .ok container ∈ answers ∧ ∃ dig ∈ container.purgedElements,
    dig.nameSpace = key.nameSpace ∧ dig.collection = key.collection ∧ dig.txId = key.txID

section Listing

variable {support : Support} {block : Block}

theorem listMissingPrivateData_gathered {owned : List (RwSetKey × Bytes)}
    (hashed : Hashed support.computeSHA256 owned) {info : PrivateDataInfo}
    {kept : List (RwSetKey × Bytes)} (listed : listMissingPrivateData support block owned = .ok (info, kept)) :
    Gathered support block kept info.missingKeys ∧
      ∀ key, InBlock support.eligible block key → kept.hasKey key = true ∨ key ∈ info.missingKeys := by
  unfold listMissingPrivateData at listed
  split at listed
  · cases listed
  · next txsFilter filtered =>
    dsimp only at listed
    split at listed
    · cases listed
    · injection listed with listed
      injection listed with info_eq kept_eq
      subst info_eq kept_eq
      -- the inspection of the whole block, from an empty one
      let inspected := forEachTxn support.eligible owned txsFilter 0 block.data ([], ⟨[], []⟩)
      have sorted : Sorted owned inspected.2 :=
        forEachTxn_sorted 0 block.data _ ⟨by simp, by simp⟩
      have recorded : ∀ key, key ∈ inspected.2.privateRWsetsInBlock ↔ InBlock support.eligible block key := by
        intro key
        rw [mem_forEachTxn filtered 0 block.data _ (List.drop_zero) key]
        simp
      have fetchedHashed := fetchMissingFromTransientStore_hashed support inspected.2.missingKeys hashed
      refine ⟨⟨?_, ?_, ?_, ?_⟩, ?_⟩
      · intro entry member
        exact (recorded entry.1).mp (by simpa using (List.mem_filter.mp member).2)
      · intro entry member
        exact fetchedHashed entry (List.mem_filter.mp member).1
      · intro key member
        have listedKey := (List.mem_dedup.mp (List.mem_filter.mp member).1)
        exact (recorded key).mp (sorted.missing key listedKey).1
      · intro key member
        simpa using (List.mem_filter.mp member).2
      · intro key inBlock
        have inInspected := (recorded key).mpr inBlock
        by_cases keptKey : (List.filter (fun entry => decide (entry.1 ∈ inspected.2.privateRWsetsInBlock))
            (fetchMissingFromTransientStore support inspected.2.missingKeys owned)).hasKey key = true
        · exact Or.inl keptKey
        · right
          refine List.mem_filter.mpr ⟨?_, by simpa using keptKey⟩
          refine List.mem_dedup.mpr ((sorted.covered key inInspected).resolve_left ?_)
          -- an owned key is still there after the transient store and is not pruned
          intro ownedKey
          apply keptKey
          rw [List.hasKey_filter_fst (fun key => decide (key ∈ inspected.2.privateRWsetsInBlock))]
          simp only [inInspected, decide_true, Bool.true_and]
          exact fetchMissingFromTransientStore_hasKey support _ ownedKey

end Listing

section Fetching

variable {support : Support} {block : Block}

theorem Gathered.take {owned : List (RwSetKey × Bytes)} {missing : List RwSetKey}
    (gathered : Gathered support block owned missing) {key : RwSetKey} {rws : Bytes}
    (wanted : key ∈ missing) (keyed : key.hash = support.computeSHA256 rws) :
    Gathered support block (owned.setKey key rws) (missing.filter (· ≠ key)) := by
  refine ⟨?_, gathered.hashed.setKey keyed, ?_, ?_⟩
  · intro entry member
    rcases List.mem_of_mem_setKey member with new | old
    · rw [new]
      exact gathered.missing_inBlock key wanted
    · exact gathered.owned_inBlock entry old
  · intro key' member
    exact gathered.missing_inBlock key' (List.mem_filter.mp member).1
  · intro key' member
    obtain ⟨stillMissing, other⟩ := List.mem_filter.mp member
    simpa [of_decide_eq_true other] using gathered.missing_not_owned key' stillMissing

theorem Gathered.drop {owned : List (RwSetKey × Bytes)} {missing : List RwSetKey}
    (gathered : Gathered support block owned missing) (p : RwSetKey → Bool) :
    Gathered support block owned (missing.filter p) :=
  ⟨gathered.owned_inBlock, gathered.hashed,
    fun key member => gathered.missing_inBlock key (List.mem_filter.mp member).1,
    fun key member => gathered.missing_not_owned key (List.mem_filter.mp member).1⟩

def Covered (owned : List (RwSetKey × Bytes)) (missing : List RwSetKey) (key : RwSetKey) : Prop :=
  owned.hasKey key = true ∨ key ∈ missing

theorem Covered.take {owned : List (RwSetKey × Bytes)} {missing : List RwSetKey} {key : RwSetKey}
    (covered : Covered owned missing key) (taken : RwSetKey) (rws : Bytes) :
    Covered (owned.setKey taken rws) (missing.filter (· ≠ taken)) key := by
  by_cases same : key = taken
  · left
    simp [same]
  · rcases covered with ownedKey | missingKey
    · left
      simp [ownedKey]
    · right
      exact List.mem_filter.mpr ⟨missingKey, decide_eq_true same⟩

theorem available_spec (computeSHA256 : Bytes → Bytes) (elements : List PvtDataElement)
    (acc : List (RwSetKey × Bytes) × List RwSetKey) (gathered : Gathered support block acc.1 acc.2)
    (sha : computeSHA256 = support.computeSHA256) :
    let available := elements.foldl (fun acc element =>
      element.payload.foldl (fun acc rws =>
        let key : RwSetKey := ⟨element.digest.txId, element.digest.seqInBlock, element.digest.nameSpace,
          element.digest.collection, computeSHA256 rws⟩
        if key ∉ acc.2 then acc
        else (acc.1.setKey key rws, acc.2.filter (· ≠ key))) acc) acc
    Gathered support block available.1 available.2 ∧
      ∀ key, Covered acc.1 acc.2 key → Covered available.1 available.2 key := by
  subst sha
  -- both facts are kept by every payload, so by both loops
  refine List.foldlRecOn (motive := fun acc' : List (RwSetKey × Bytes) × List RwSetKey =>
    Gathered support block acc'.1 acc'.2 ∧ ∀ key, Covered acc.1 acc.2 key → Covered acc'.1 acc'.2 key)
    elements _ ⟨gathered, fun _ covered => covered⟩ ?_
  intro acc' kept' element _
  refine List.foldlRecOn (motive := fun acc'' : List (RwSetKey × Bytes) × List RwSetKey =>
    Gathered support block acc''.1 acc''.2 ∧ ∀ key, Covered acc.1 acc.2 key → Covered acc''.1 acc''.2 key)
    element.payload _ kept' ?_
  intro acc'' ⟨gathered'', covered''⟩ rws _
  dsimp only
  split
  · exact ⟨gathered'', covered''⟩
  · next wanted =>
    exact ⟨gathered''.take (not_not.mp wanted) rfl,
      fun key covered => (covered'' key covered).take _ rws⟩

theorem mem_purged_or (purged : List PvtDataDigest) :
    ∀ (missing : List RwSetKey) (key : RwSetKey), key ∈ missing →
      key ∈ purged.foldl (fun missingKeys dig => missingKeys.filter fun key =>
        !(key.nameSpace = dig.nameSpace && key.collection = dig.collection && key.txID = dig.txId)) missing ∨
      ∃ dig ∈ purged, dig.nameSpace = key.nameSpace ∧ dig.collection = key.collection ∧ dig.txId = key.txID := by
  induction purged with
  | nil =>
    intro missing key member
    exact Or.inl member
  | cons dig rest ih =>
    intro missing key member
    by_cases named : dig.nameSpace = key.nameSpace ∧ dig.collection = key.collection ∧ dig.txId = key.txID
    · exact Or.inr ⟨dig, List.mem_cons_self, named⟩
    · have kept : key ∈ missing.filter fun key =>
          !(key.nameSpace = dig.nameSpace && key.collection = dig.collection && key.txID = dig.txId) := by
        refine List.mem_filter.mpr ⟨member, ?_⟩
        simp only [Bool.not_eq_true', Bool.and_eq_false_iff, decide_eq_false_iff_not]
        grind
      rcases ih _ key kept with later | ⟨dig', member', named'⟩
      · exact Or.inl later
      · exact Or.inr ⟨dig', List.mem_cons_of_mem dig member', named'⟩

theorem fetchFromPeers_gathered {owned : List (RwSetKey × Bytes)} {missing : List RwSetKey}
    (gathered : Gathered support block owned missing) (fetched : Except String FetchedPvtDataContainer) :
    Gathered support block (fetchFromPeers support.computeSHA256 fetched owned missing).1
      (fetchFromPeers support.computeSHA256 fetched owned missing).2 := by
  unfold fetchFromPeers
  split
  · exact gathered
  · next container =>
    obtain ⟨available, _⟩ := available_spec support.computeSHA256 container.availableElemenets
      (owned, missing) gathered rfl
    refine List.foldlRecOn (motive := fun missing' => Gathered support block _ missing')
      container.purgedElements _ available ?_
    intro missing' gathered' dig _
    exact gathered'.drop _

theorem fetchFromPeers_covered {owned : List (RwSetKey × Bytes)} {missing : List RwSetKey}
    (gathered : Gathered support block owned missing) (fetched : Except String FetchedPvtDataContainer)
    {key : RwSetKey} (covered : Covered owned missing key) :
    Covered (fetchFromPeers support.computeSHA256 fetched owned missing).1
      (fetchFromPeers support.computeSHA256 fetched owned missing).2 key ∨ Purged [fetched] key := by
  unfold fetchFromPeers
  split
  · exact Or.inl covered
  · next container =>
    obtain ⟨_, keeps⟩ := available_spec support.computeSHA256 container.availableElemenets
      (owned, missing) gathered rfl
    rcases keeps key covered with ownedKey | missingKey
    · exact Or.inl (Or.inl ownedKey)
    · rcases mem_purged_or container.purgedElements _ key missingKey with later | named
      · exact Or.inl (Or.inr later)
      · exact Or.inr ⟨container, List.mem_singleton_self _, named⟩

theorem fetchRounds_spec (answers : List (Except String FetchedPvtDataContainer)) :
    ∀ (acc : List (RwSetKey × Bytes) × List RwSetKey), Gathered support block acc.1 acc.2 →
      Gathered support block (fetchRounds support.computeSHA256 answers acc).1
        (fetchRounds support.computeSHA256 answers acc).2 ∧
      ∀ key, Covered acc.1 acc.2 key →
        Covered (fetchRounds support.computeSHA256 answers acc).1
          (fetchRounds support.computeSHA256 answers acc).2 key ∨ Purged answers key := by
  -- one round per answer: each keeps the gathered data and covers a key or reports it purged
  induction answers with
  | nil =>
    intro acc gathered
    exact ⟨gathered, fun _ covered => Or.inl covered⟩
  | cons fetched later ih =>
    intro acc gathered
    unfold fetchRounds
    split
    · exact ⟨gathered, fun _ covered => Or.inl covered⟩
    · obtain ⟨gathered', keeps'⟩ := ih _ (fetchFromPeers_gathered gathered fetched)
      refine ⟨gathered', fun key covered => ?_⟩
      rcases fetchFromPeers_covered gathered fetched covered with stillCovered | ⟨container, answer, named⟩
      · rcases keeps' key stillCovered with covered' | ⟨container, answer, named⟩
        · exact Or.inl covered'
        · exact Or.inr ⟨container, List.mem_cons_of_mem _ answer, named⟩
      · exact Or.inr ⟨container, List.mem_cons.mpr (Or.inl (List.mem_singleton.mp answer)), named⟩

end Fetching

section Committed

variable {support : Support} {block : Block} {privateDataSets : List TxPvtData}
  {answers : List (Except String FetchedPvtDataContainer)} {out : BlockAndPvtData}

theorem toCommit_gathers (committed : toCommit support block privateDataSets answers = .ok out) :
    ∃ owned missing, Gathered support out.block owned missing ∧
      (∀ key, InBlock support.eligible out.block key → Covered owned missing key ∨ Purged answers key) ∧
      out.blockPvtData = (bySeqsInBlock owned).map (fun entry => (entry.1, ⟨entry.1, toRWSet entry.2⟩)) ∧
      out.missing = missing.map fun key => ⟨key.txID, key.nameSpace, key.collection, key.seqInBlock⟩ := by
  unfold toCommit at committed
  split at committed
  · cases committed
  · next validated _ =>
    cases computed : computeOwnedRWsets support.computeSHA256 validated privateDataSets [] with
    | error failure =>
      rw [computed] at committed
      cases committed
    | ok owned =>
      cases listed : listMissingPrivateData support validated owned with
      | error failure =>
        rw [computed] at committed
        simp only [bind, Except.bind, listed] at committed
        cases committed
      | ok listing =>
        obtain ⟨info, kept⟩ := listing
        rw [computed] at committed
        simp only [bind, Except.bind, listed, pure, Except.pure] at committed
        cases committed
        have hashed := computeOwnedRWsets_hashed validated privateDataSets (fun _ member => by cases member)
          computed
        obtain ⟨gathered, covered⟩ := listMissingPrivateData_gathered hashed listed
        obtain ⟨gathered', keeps⟩ := fetchRounds_spec answers (kept, info.missingKeys) gathered
        exact ⟨_, _, gathered', fun key inBlock => keeps key (covered key inBlock), rfl, rfl⟩

theorem mem_bySeqsInBlock {owned : List (RwSetKey × Bytes)} {seqInBlock : Nat}
    {group : List (RwSetKey × Bytes)} (member : (seqInBlock, group) ∈ bySeqsInBlock owned) :
    ∀ entry ∈ group, entry ∈ owned ∧ entry.1.seqInBlock = seqInBlock := by
  intro entry listed
  obtain ⟨entry', member', grouped, rfl⟩ :=
    List.mem_foldl_appendAt (fun entry => entry.1.seqInBlock) id owned _ member entry listed
  exact ⟨member', grouped⟩

theorem mem_toRWSet {rwsets : List (RwSetKey × Bytes)} {ns : NsPvtReadWriteSet}
    (member : ns ∈ (toRWSet rwsets).nsPvtRwset) {col : CollectionPvtReadWriteSet}
    (colMember : col ∈ ns.collectionPvtRwset) :
    ∃ entry ∈ rwsets, entry.1.nameSpace = ns.nameSpace ∧ entry.1.collection = col.collectionName ∧
      entry.2 = col.rwset := by
  obtain ⟨⟨nameSpace, cols⟩, grouped, rfl⟩ := List.mem_map.mp member
  obtain ⟨entry, entryMember, sameNs, rfl⟩ :=
    List.mem_foldl_appendAt (fun rws : RwSetKey × Bytes => rws.1.nameSpace)
      (fun rws => (⟨rws.1.collection, rws.2⟩ : CollectionPvtReadWriteSet)) rwsets _ grouped col colMember
  exact ⟨entry, entryMember, sameNs, rfl, rfl⟩

theorem supplied_of_mem {owned : List (RwSetKey × Bytes)} {key : RwSetKey} {rws : Bytes}
    (member : (key, rws) ∈ owned) :
    ∃ group ∈ bySeqsInBlock owned, group.1 = key.seqInBlock ∧
      ∃ ns ∈ (toRWSet group.2).nsPvtRwset, ns.nameSpace = key.nameSpace ∧
        ⟨key.collection, rws⟩ ∈ ns.collectionPvtRwset := by
  have bySeq := List.lookup_foldl_appendAt (fun entry : RwSetKey × Bytes => entry.1.seqInBlock) id
    owned [] key.seqInBlock (key, rws) (Or.inr ⟨_, member, rfl, rfl⟩)
  obtain ⟨group, groupMember, listed⟩ := List.mem_of_mem_lookup_getD bySeq
  have byNs := List.lookup_foldl_appendAt (fun rws : RwSetKey × Bytes => rws.1.nameSpace)
    (fun rws => (⟨rws.1.collection, rws.2⟩ : CollectionPvtReadWriteSet)) group [] key.nameSpace
    ⟨key.collection, rws⟩ (Or.inr ⟨_, listed, rfl, rfl⟩)
  obtain ⟨cols, colsMember, colListed⟩ := List.mem_of_mem_lookup_getD byNs
  exact ⟨(key.seqInBlock, group), groupMember, rfl, ⟨key.nameSpace, cols⟩,
    List.mem_map.mpr ⟨_, colsMember, rfl⟩, rfl, colListed⟩

/-- A write set handed to the ledger is one of the block's, under the hash the block records
for it. -/
theorem toCommit_supplies_block_data (committed : toCommit support block privateDataSets answers = .ok out)
    {seqInBlock : Nat} {txPvtData : TxPvtData} (supplied : (seqInBlock, txPvtData) ∈ out.blockPvtData)
    {ns : NsPvtReadWriteSet} (nsMember : ns ∈ txPvtData.writeSet.nsPvtRwset)
    {col : CollectionPvtReadWriteSet} (colMember : col ∈ ns.collectionPvtRwset) :
    txPvtData.seqInBlock = seqInBlock ∧
      ∃ key, InBlock support.eligible out.block key ∧ key.seqInBlock = seqInBlock ∧
        key.nameSpace = ns.nameSpace ∧ key.collection = col.collectionName ∧
        key.hash = support.computeSHA256 col.rwset := by
  obtain ⟨owned, missing, gathered, _, assembled, _⟩ := toCommit_gathers committed
  rw [assembled] at supplied
  obtain ⟨⟨seq, group⟩, grouped, same⟩ := List.mem_map.mp supplied
  cases same
  obtain ⟨entry, listed, sameNs, sameCol, sameRws⟩ := mem_toRWSet nsMember colMember
  obtain ⟨owns, seq⟩ := mem_bySeqsInBlock grouped entry listed
  refine ⟨rfl, entry.1, gathered.owned_inBlock entry owns, seq, sameNs, sameCol, ?_⟩
  rw [← sameRws]
  exact gathered.hashed entry owns

/-- Every key of the block is handed to the ledger with a write set of its hash, or listed as
missing, unless a remote peer reported it purged. -/
theorem toCommit_covers_block (committed : toCommit support block privateDataSets answers = .ok out)
    {key : RwSetKey} (inBlock : InBlock support.eligible out.block key) :
    (∃ txPvtData, (key.seqInBlock, txPvtData) ∈ out.blockPvtData ∧
      ∃ ns ∈ txPvtData.writeSet.nsPvtRwset, ns.nameSpace = key.nameSpace ∧
        ∃ col ∈ ns.collectionPvtRwset, col.collectionName = key.collection ∧
          support.computeSHA256 col.rwset = key.hash) ∨
      ⟨key.txID, key.nameSpace, key.collection, key.seqInBlock⟩ ∈ out.missing ∨ Purged answers key := by
  obtain ⟨owned, missing, gathered, covered, assembled, listedMissing⟩ := toCommit_gathers committed
  rcases covered key inBlock with (ownedKey | missingKey) | purged
  · left
    obtain ⟨rws, found⟩ := Option.isSome_iff_exists.mp ownedKey
    have member := List.mem_of_lookup_eq_some found
    obtain ⟨group, groupMember, seq, ns, nsMember, sameNs, colMember⟩ := supplied_of_mem member
    refine ⟨⟨group.1, toRWSet group.2⟩, ?_, ns, nsMember, sameNs, _, colMember, rfl, ?_⟩
    · rw [assembled, ← seq]
      exact List.mem_map.mpr ⟨group, groupMember, rfl⟩
    · exact (gathered.hashed _ member).symm
  · right
    left
    rw [listedMissing]
    exact List.mem_map.mpr ⟨key, missingKey, rfl⟩
  · right
    right
    exact purged

end Committed

-- The keys of the block carry the hash, so a transaction whose hashed read-write set names one
-- collection twice, with two hashes, has two keys for one (transaction, namespace, collection).

section Failures

def trustingSupport (computeSHA256 : Bytes → Bytes) : Support :=
  ⟨.ok, fun _ => true, fun _ _ => [], computeSHA256, fun _ => .ok ()⟩

def hashedCollection (hash : Bytes) : CollHashedRwSet Bytes :=
  ⟨"coll", [], [⟨[1], false, [2]⟩], hash⟩

def collectionHashedTwice (hash1 hash2 : Bytes) : Block :=
  ⟨1, [some ⟨"tx0", "mychannel", .endorserTransaction,
    some ⟨[⟨"ns", [], [], [], [hashedCollection hash1, hashedCollection hash2]⟩]⟩⟩], some [.valid]⟩

def collectionWriteSet (rws : Bytes) : TxPvtData :=
  ⟨0, ⟨[⟨"ns", [⟨"coll", rws⟩]⟩]⟩⟩

def collectionHashedOnce (hash : Bytes) : Block :=
  ⟨1, [some ⟨"tx0", "mychannel", .endorserTransaction,
    some ⟨[⟨"ns", [], [], [], [hashedCollection hash]⟩]⟩⟩], some [.valid]⟩

theorem toCommit_collectionHashedOnce :
    toCommit (trustingSupport id) (collectionHashedOnce [1]) [collectionWriteSet [1]] [] =
      .ok ⟨collectionHashedOnce [1], [(0, collectionWriteSet [1])], []⟩ := by
  decide

theorem toCommit_supplies_block_data_of_one_collection :
    toCommit (trustingSupport id) (collectionHashedOnce [1]) [collectionWriteSet [1]] [] =
        .ok ⟨collectionHashedOnce [1], [(0, collectionWriteSet [1])], []⟩ ∧
      (0, collectionWriteSet [1]) ∈ [(0, collectionWriteSet [1])] ∧
      (⟨"ns", [⟨"coll", [1]⟩]⟩ : NsPvtReadWriteSet) ∈ (collectionWriteSet [1]).writeSet.nsPvtRwset ∧
      (⟨"coll", [1]⟩ : CollectionPvtReadWriteSet) ∈ [(⟨"coll", [1]⟩ : CollectionPvtReadWriteSet)] ∧
      (collectionWriteSet [1]).seqInBlock = 0 ∧
      ∃ key, InBlock (trustingSupport id).eligible (collectionHashedOnce [1]) key ∧ key.seqInBlock = 0 ∧
        key.nameSpace = "ns" ∧ key.collection = "coll" ∧ key.hash = (trustingSupport id).computeSHA256 [1] :=
  ⟨toCommit_collectionHashedOnce, List.mem_singleton_self _, List.mem_singleton_self _,
    List.mem_singleton_self _, toCommit_supplies_block_data toCommit_collectionHashedOnce
      (List.mem_singleton_self _) (List.mem_singleton_self _) (List.mem_singleton_self _)⟩

theorem toCommit_covers_block_of_one_collection :
    toCommit (trustingSupport id) (collectionHashedOnce [1]) [collectionWriteSet [1]] [] =
        .ok ⟨collectionHashedOnce [1], [(0, collectionWriteSet [1])], []⟩ ∧
      InBlock (trustingSupport id).eligible (collectionHashedOnce [1]) ⟨"tx0", 0, "ns", "coll", [1]⟩ ∧
      ((∃ txPvtData, (0, txPvtData) ∈ [(0, collectionWriteSet [1])] ∧
        ∃ ns ∈ txPvtData.writeSet.nsPvtRwset, ns.nameSpace = "ns" ∧
          ∃ col ∈ ns.collectionPvtRwset, col.collectionName = "coll" ∧
            (trustingSupport id).computeSHA256 col.rwset = [1]) ∨
        (⟨"tx0", "ns", "coll", 0⟩ : MissingPrivateData) ∈ [] ∨ Purged [] ⟨"tx0", 0, "ns", "coll", [1]⟩) := by
  have inBlock : InBlock (trustingSupport id).eligible (collectionHashedOnce [1]) ⟨"tx0", 0, "ns", "coll", [1]⟩ :=
    ⟨[.valid], _, _, rfl, rfl, rfl, rfl, rfl, rfl, rfl, _, List.mem_singleton_self _, rfl, _,
      List.mem_singleton_self _, rfl, rfl, rfl, rfl⟩
  exact ⟨toCommit_collectionHashedOnce, inBlock, toCommit_covers_block toCommit_collectionHashedOnce inBlock⟩

theorem collection_hashed_twice_is_supplied_and_missing (computeSHA256 : Bytes → Bytes) (b1 b2 : Bytes)
    (distinct : computeSHA256 b1 ≠ computeSHA256 b2) :
    let block := collectionHashedTwice (computeSHA256 b1) (computeSHA256 b2)
    toCommit (trustingSupport computeSHA256) block [collectionWriteSet b1] [] =
        .ok ⟨block, [(0, collectionWriteSet b1)], [⟨"tx0", "ns", "coll", 0⟩]⟩ ∧
      toCommit (trustingSupport computeSHA256) block [collectionWriteSet b1, collectionWriteSet b2] [] =
        .ok ⟨block, [(0, ⟨0, ⟨[⟨"ns", [⟨"coll", b1⟩, ⟨"coll", b2⟩]⟩]⟩⟩)], []⟩ := by
  intro block
  let key1 : RwSetKey := ⟨"tx0", 0, "ns", "coll", computeSHA256 b1⟩
  let key2 : RwSetKey := ⟨"tx0", 0, "ns", "coll", computeSHA256 b2⟩
  -- the block asks for both keys; the dissemination payload of b1 owns the first only
  have owned1 : computeOwnedRWsets computeSHA256 block [collectionWriteSet b1] [] = .ok [(key1, b1)] := by
    simp [block, key1, computeOwnedRWsets, collectionHashedTwice, collectionWriteSet, goInt, addRWSets,
      List.setKey]
  have owned2 : computeOwnedRWsets computeSHA256 block [collectionWriteSet b1, collectionWriteSet b2] [] =
      .ok [(key1, b1), (key2, b2)] := by
    simp [block, key1, key2, computeOwnedRWsets, collectionHashedTwice, collectionWriteSet, goInt,
      addRWSets, List.setKey, distinct]
  have listed1 : listMissingPrivateData (trustingSupport computeSHA256) block [(key1, b1)] =
      .ok (⟨[(("tx0", 0), [key2])], [key2], ["tx0"]⟩, [(key1, b1)]) := by
    simp [block, key1, key2, listMissingPrivateData, trustingSupport, collectionHashedTwice, forEachTxn,
      inspectTransaction, inspectCollection, hashedCollection, containsWrites, fetchMissingFromTransientStore,
      fetchFromTransientStore, List.hasKey, List.appendAt, List.setKey, distinct, Ne.symm distinct]
  have listed2 : listMissingPrivateData (trustingSupport computeSHA256) block [(key1, b1), (key2, b2)] =
      .ok (⟨[], [], ["tx0"]⟩, [(key1, b1), (key2, b2)]) := by
    simp [block, key1, key2, listMissingPrivateData, trustingSupport, collectionHashedTwice, forEachTxn,
      inspectTransaction, inspectCollection, hashedCollection, containsWrites, fetchMissingFromTransientStore,
      fetchFromTransientStore, List.hasKey, distinct, Ne.symm distinct]
  have validated : (trustingSupport computeSHA256).validate block = .ok block := rfl
  have sha : (trustingSupport computeSHA256).computeSHA256 = computeSHA256 := rfl
  -- no peer answers; the owned write sets are grouped under transaction 0
  constructor
  · rw [toCommit, validated]
    simp only [sha, owned1, listed1, bind, Except.bind, pure, Except.pure]
    simp [fetchRounds, bySeqsInBlock, toRWSet, key1, key2, collectionWriteSet, List.appendAt, List.setKey]
  · rw [toCommit, validated]
    simp only [sha, owned2, listed2, bind, Except.bind, pure, Except.pure]
    simp [fetchRounds, bySeqsInBlock, toRWSet, key1, key2, List.appendAt, List.setKey]

theorem collection_hashed_twice_is_supplied_and_missing_at_one_two :
    (id [1] : Bytes) ≠ id [2] ∧
      let block := collectionHashedTwice (id [1]) (id [2])
      toCommit (trustingSupport id) block [collectionWriteSet [1]] [] =
          .ok ⟨block, [(0, collectionWriteSet [1])], [⟨"tx0", "ns", "coll", 0⟩]⟩ ∧
        toCommit (trustingSupport id) block [collectionWriteSet [1], collectionWriteSet [2]] [] =
          .ok ⟨block, [(0, ⟨0, ⟨[⟨"ns", [⟨"coll", [1]⟩, ⟨"coll", [2]⟩]⟩]⟩⟩)], []⟩ :=
  ⟨by decide, collection_hashed_twice_is_supplied_and_missing id [1] [2] (by decide)⟩

end Failures

end Fabric.Privdata
