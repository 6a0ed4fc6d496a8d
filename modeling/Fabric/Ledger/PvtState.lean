import Fabric.Ledger.HistoryDb

/-! `txmgmt/privacyenabledstate` and the private-data half of block validation
(`valimpl.validateAndPreparePvtBatch`): each valid transaction updates the key hashes of the
collections it writes, and the private values only when this peer has its private write set.
Then the reads of private data by a simulator or query executor (`queryHelper`). -/

namespace Fabric.Privacyenabledstate

open Rwset Statedb Historydb

abbrev CollKey := String × String × Bytes

structure CollPvtRwSet where
  collectionName : String
  writes : List (KVWrite Bytes)
  deriving DecidableEq, Repr

structure NsPvtRwSet where
  nameSpace : String
  collPvtRwSets : List CollPvtRwSet
  deriving DecidableEq, Repr

/-- `ledger.TxPvtData`: the private write set of the transaction at `seqInBlock`. -/
structure TxPvtData where
  seqInBlock : Nat
  writeSet : List NsPvtRwSet
  deriving DecidableEq, Repr

structure Hashing where
  computeStringHash : Bytes → Bytes
  computeHash : CollPvtRwSet → Bytes

def applyUpdates {κ : Type} [DecidableEq κ] (entries updates : List (κ × VersionedValue)) :
    List (κ × VersionedValue) :=
  updates.foldl (fun entries update =>
    match update.2.value with
    | none => entries.filter fun entry => entry.1 ≠ update.1
    | some _ => entries.setKey update.1 update.2) entries

/-- `HashedUpdateBatch` and `PvtUpdateBatch`: the last update of each key, a delete as `none`. -/
structure UpdateBatch where
  hashUpdates : List (CollKey × VersionedValue)
  pvtUpdates : List (CollKey × VersionedValue)

structure DB where
  hashedState : List (CollKey × VersionedValue)
  pvtState : List (CollKey × VersionedValue)

def DB.getKeyHashVersion (db : DB) (ns coll : String) (keyHash : Bytes) : Option Height :=
  (db.hashedState.lookup (ns, coll, keyHash)).map VersionedValue.version

def DB.getPrivateData (db : DB) (ns coll : String) (key : Bytes) : Option VersionedValue :=
  db.pvtState.lookup (ns, coll, key)

/-- `ApplyPrivacyAwareUpdates`, for its hashed and private parts. -/
def DB.applyPrivacyAwareUpdates (db : DB) (batch : UpdateBatch) : DB :=
  ⟨applyUpdates db.hashedState batch.hashUpdates, applyUpdates db.pvtState batch.pvtUpdates⟩

def applyHashedWrites (txHeight : Height) (hashUpdates : List (CollKey × VersionedValue))
    (txRWSet : TxRwSet Bytes) : List (CollKey × VersionedValue) :=
  txRWSet.nsRwSets.foldl (fun hashUpdates nsRWSet =>
    nsRWSet.collHashedRwSets.foldl (fun hashUpdates collHashRWset =>
      collHashRWset.hashedWrites.foldl (fun hashUpdates hashedWrite =>
        hashUpdates.setKey (nsRWSet.nameSpace, collHashRWset.collectionName, hashedWrite.keyHash)
          ⟨if hashedWrite.isDelete then none else some hashedWrite.valueHash, txHeight⟩)
        hashUpdates) hashUpdates) hashUpdates

def addPvtRWSetToPvtUpdateBatch (ver : Height) (pvtUpdates : List (CollKey × VersionedValue))
    (pvtRWSet : List NsPvtRwSet) : List (CollKey × VersionedValue) :=
  pvtRWSet.foldl (fun pvtUpdates ns =>
    ns.collPvtRwSets.foldl (fun pvtUpdates coll =>
      coll.writes.foldl (fun pvtUpdates kvwrite =>
        pvtUpdates.setKey (ns.nameSpace, coll.collectionName, kvwrite.key)
          ⟨if kvwrite.isDelete then none else some kvwrite.value, ver⟩) pvtUpdates) pvtUpdates)
    pvtUpdates

def containsPvtWrites (tx : Transaction) : Bool :=
  tx.rwSet.nsRwSets.any fun ns => ns.collHashedRwSets.any fun coll => !coll.pvtRwSetHash.isEmpty

/-- `Transaction.RetrieveHash`: the hash of the collection's private write set in the first
read-write set of the namespace. -/
def retrieveHash (tx : Transaction) (ns coll : String) : Bytes :=
  match tx.rwSet.nsRwSets.find? (fun nsData => nsData.nameSpace = ns) with
  | none => []
  | some nsData =>
      match nsData.collHashedRwSets.find? (fun collData => collData.collectionName = coll) with
      | none => []
      | some collData => collData.pvtRwSetHash

/-- `validator.ErrPvtdataHashMissmatch`, with what its message prints. -/
structure ErrPvtdataHashMissmatch where
  namespace_ : String
  collection : String
  publicHash : Bytes
  pvtHash : Bytes
  deriving DecidableEq, Repr

variable (hashing : Hashing)

/-- `validatePvtdata`: each collection's private write set hashes to what the public data says. -/
def validatePvtdata (tx : Transaction) (pvtdata : TxPvtData) : Except ErrPvtdataHashMissmatch Unit :=
  pvtdata.writeSet.forM fun nsPvtdata => nsPvtdata.collPvtRwSets.forM fun collPvtdata =>
    let collPvtdataHash := hashing.computeHash collPvtdata
    let hashInPubdata := retrieveHash tx nsPvtdata.nameSpace collPvtdata.collectionName
    if collPvtdataHash = hashInPubdata then pure ()
    else throw ⟨nsPvtdata.nameSpace, collPvtdata.collectionName, hashInPubdata, collPvtdataHash⟩

def prepareUpdates (blockNum : Nat) (txsFilter : List TxValidationCode) (pvtdata : List TxPvtData) :
    Nat → UpdateBatch → List Transaction → Except ErrPvtdataHashMissmatch UpdateBatch
  | _, batch, [] => .ok batch
  | txNum, batch, tx :: txs =>
      if txsFilter[txNum]? ≠ some .valid then prepareUpdates blockNum txsFilter pvtdata (txNum + 1) batch txs
      else
        let hashUpdates := applyHashedWrites ⟨blockNum, txNum⟩ batch.hashUpdates tx.rwSet
        -- the private data of this transaction is missing at this peer, or it has none
        match (pvtdata.find? fun txPvtdata => txPvtdata.seqInBlock = txNum), containsPvtWrites tx with
        | some txPvtdata, true => do
            validatePvtdata hashing tx txPvtdata
            prepareUpdates blockNum txsFilter pvtdata (txNum + 1)
              ⟨hashUpdates, addPvtRWSetToPvtUpdateBatch ⟨blockNum, txNum⟩ batch.pvtUpdates
                txPvtdata.writeSet⟩ txs
        | _, _ => prepareUpdates blockNum txsFilter pvtdata (txNum + 1) ⟨hashUpdates, batch.pvtUpdates⟩ txs

def prepareBlock (block : Block) (pvtdata : List TxPvtData) :
    Except ErrPvtdataHashMissmatch UpdateBatch :=
  prepareUpdates hashing block.number.toNat block.txsFilter pvtdata 0 ⟨[], []⟩ block.transactions

def DB.commitBlock (db : DB) (block : Block) (pvtdata : List TxPvtData) :
    Except ErrPvtdataHashMissmatch DB :=
  (prepareBlock hashing block pvtdata).map db.applyPrivacyAwareUpdates

end Fabric.Privacyenabledstate

namespace Fabric.Lockbasedtxmgr

open Rwset Statedb Historydb Privacyenabledstate

inductive ReadError where
  | pvtdataNotAvailable (msg : String)
  | other (msg : String)
  deriving DecidableEq, Repr

def hexDigits (n : Nat) : String := String.ofList (Nat.toDigits 16 n)

def formatHeight : Option Height → String
  | none => "(*version.Height)(nil)"
  | some height =>
      "&version.Height" ++ "\x7bBlockNum:0x" ++ hexDigits height.blockNum ++ ", TxNum:0x" ++
        hexDigits height.txNum ++ "\x7d"

structure QueryHelper where
  db : DB
  doneInvoked : Bool
  validateCollName : String → String → Except String Unit
  hashedReads : Option (List (CollKey × Option Height))

def QueryHelper.addToHashedReadSet (h : QueryHelper) (ns coll : String) (key : Bytes)
    (ver : Option Height) : QueryHelper :=
  { h with hashedReads := h.hashedReads.map fun reads => reads.setKey (ns, coll, key) ver }

def QueryHelper.checkRead (h : QueryHelper) (ns coll : String) : Except ReadError Unit :=
  match h.validateCollName ns coll with
  | .error err => .error (.other err)
  | .ok () =>
      if h.doneInvoked then .error (.other "This instance should not be used after calling Done()")
      else .ok ()

variable (hashing : Hashing)

def QueryHelper.getPrivateData (h : QueryHelper) (ns coll : String) (key : Bytes) :
    Except ReadError (Option Bytes) × QueryHelper :=
  match h.checkRead ns coll with
  | .error err => (.error err, h)
  | .ok () =>
      let versionedValue := h.db.getPrivateData ns coll key
      let val := versionedValue.bind VersionedValue.value
      let ver := versionedValue.map VersionedValue.version
      let hashVersion := h.db.getKeyHashVersion ns coll (hashing.computeStringHash key)
      if hashVersion ≠ ver then
        (.error (.pvtdataNotAvailable
          ("Private data matching public hash version is not available. Public hash version = " ++
            formatHeight hashVersion ++ ", Private data version = " ++ formatHeight ver)), h)
      else (.ok val, h.addToHashedReadSet ns coll key ver)

def QueryHelper.getPrivateDataMultipleKeys (h : QueryHelper) (ns coll : String) (keys : List Bytes) :
    Except ReadError (List (Option Bytes)) × QueryHelper :=
  match h.checkRead ns coll with
  | .error err => (.error err, h)
  | .ok () =>
      let versionedValues := keys.map (h.db.getPrivateData ns coll)
      (.ok (versionedValues.map fun versionedValue => versionedValue.bind VersionedValue.value),
        (keys.zip versionedValues).foldl (fun h read =>
          h.addToHashedReadSet ns coll read.1 (read.2.map VersionedValue.version)) h)

def sampleHashing : Hashing where
  computeStringHash key := 0xff :: key
  computeHash coll := coll.writes.flatMap fun kvWrite => kvWrite.key ++ kvWrite.value

def secretWrite (value : Bytes) : CollPvtRwSet := ⟨"secret", [⟨[0x6b], false, value⟩]⟩

def secretWriteTx (value : Bytes) : Transaction :=
  ⟨.endorserTransaction, "tx", 0, ⟨[⟨"mycc", [], [], [],
    [⟨"secret", [], [⟨sampleHashing.computeStringHash [0x6b], false, value⟩],
      sampleHashing.computeHash (secretWrite value)⟩]⟩]⟩⟩

def firstWriteBlock : Block := ⟨1, [secretWriteTx [1]], [.valid]⟩

def secondWriteBlock : Block := ⟨2, [secretWriteTx [2]], [.valid]⟩

def staleState : Except ErrPvtdataHashMissmatch DB :=
  ((⟨[], []⟩ : DB).commitBlock sampleHashing firstWriteBlock [⟨0, [⟨"mycc", [secretWrite [1]]⟩]⟩]) >>=
    fun db => db.commitBlock sampleHashing secondWriteBlock []

def queryExecutor (db : DB) : QueryHelper := ⟨db, false, fun _ _ => .ok (), none⟩

/-- After the two blocks the key hash is at version (2, 0) and the private value at (1, 0).
`GetPrivateData` refuses the stale value, but `GetPrivateDataMultipleKeys` returns it. -/
theorem getPrivateDataMultipleKeys_returns_stale_value :
    staleState.map (fun db => db.getKeyHashVersion "mycc" "secret" (sampleHashing.computeStringHash [0x6b])) =
        .ok (some ⟨2, 0⟩) ∧
      staleState.map (fun db => (db.getPrivateData "mycc" "secret" [0x6b]).map VersionedValue.version) =
        .ok (some ⟨1, 0⟩) ∧
      staleState.map (fun db =>
        ((queryExecutor db).getPrivateDataMultipleKeys "mycc" "secret" [[0x6b]]).1) =
        .ok (.ok [some [1]]) ∧
      staleState.map (fun db => ((queryExecutor db).getPrivateData sampleHashing "mycc" "secret" [0x6b]).1) =
        .ok (.error (.pvtdataNotAvailable
          "Private data matching public hash version is not available. Public hash version = &version.Height\x7bBlockNum:0x2, TxNum:0x0\x7d, Private data version = &version.Height\x7bBlockNum:0x1, TxNum:0x0\x7d")) := by
  refine ⟨by decide +kernel, by decide +kernel, by decide +kernel, by decide +kernel⟩

end Fabric.Lockbasedtxmgr
