import Fabric.Transientstore.Keys
import Fabric.Ledger.ExpiryKeeper
import Fabric.Ledger.PvtdataStore

/-! `core/transientstore/store.go`: the transient store, which keeps the private write sets of
endorsed transactions until their block is committed. `Persist` and `PersistWithConfig` write
one batch with the write set under its key and the two index keys; `PurgeByTxids` and
`PurgeByHeight` scan an index and delete the three keys of every write set they find there;
`GetTxPvtRWSetByTxid` scans the write sets of a transaction, and `GetMinTransientBlkHt` reads the
first key of the height index.

The store is there for a list of live entries, each a write set with its transaction, uuid and
height. The database represents the live entries after every run of operations whose txids have
one length, whose txids and uuids are free of the separator and whose uuids differ, and each
query reads what the entries say. `PurgeByHeight(0)` computes the last height to purge as
`0 - 1`, which wraps to the largest height: it purges every entry. -/

namespace Fabric.Transientstore

open SortedAssoc
open Pvtstatepurgemgmt.Bookkeeping (UpdateBatch UpdateBatch.put UpdateBatch.delete)
open Pvtdatastorage (PvtNsCollFilter)

attribute [local instance] Stateleveldb.byteOrder

/-- `rwset.CollectionPvtReadWriteSet`: a collection's private writes, marshalled. -/
structure CollectionPvtReadWriteSet where
  collectionName : String
  rwset : Bytes
  deriving DecidableEq, Repr

structure NsPvtReadWriteSet where
  nameSpace : String
  collectionPvtRwset : List CollectionPvtReadWriteSet
  deriving DecidableEq, Repr

inductive DataModel where
  | KV
  deriving DecidableEq, Repr

structure TxPvtReadWriteSet where
  dataModel : DataModel
  nsPvtRwset : List NsPvtReadWriteSet
  deriving DecidableEq, Repr

/-- `common.StaticCollectionConfig`, its name: the one field the store reads. -/
structure StaticCollectionConfig where
  name : String
  deriving DecidableEq, Repr

/-- `common.CollectionConfig`: its payload, a static collection config or nil. -/
structure CollectionConfig where
  payload : Option StaticCollectionConfig
  deriving DecidableEq, Repr

structure CollectionConfigPackage where
  config : List CollectionConfig
  deriving DecidableEq, Repr

/-- `transientstore.TxPvtReadWriteSetWithConfigInfo`; the map of collection configs is a list of
distinct namespaces. -/
structure TxPvtReadWriteSetWithConfigInfo where
  endorsedAt : UInt64
  pvtRwset : Option TxPvtReadWriteSet
  collectionConfigs : List (String × CollectionConfigPackage)
  deriving DecidableEq, Repr

def trimNsPvtRwset (filter : PvtNsCollFilter) (ns : NsPvtReadWriteSet) : Option NsPvtReadWriteSet :=
  match ns.collectionPvtRwset.filter fun coll => filter.contains (ns.nameSpace, coll.collectionName) with
  | [] => none
  | filteredCollRwSet => some ⟨ns.nameSpace, filteredCollRwSet⟩

/-- `trimPvtWSet`. A nil filter keeps the set; otherwise the set's namespaces are read, a nil
pointer dereference when the set is nil. -/
def trimPvtWSet (pvtWSet : Option TxPvtReadWriteSet) (filter : Option PvtNsCollFilter) :
    Except String (Option TxPvtReadWriteSet) :=
  match filter, pvtWSet with
  | none, _ => .ok pvtWSet
  | some _, none => .error "runtime error: invalid memory address or nil pointer dereference"
  | some filter, some pvtWSet =>
      match pvtWSet.nsPvtRwset.filterMap (trimNsPvtRwset filter) with
      | [] => .ok none
      | filteredNsRwSet => .ok (some ⟨pvtWSet.dataModel, filteredNsRwSet⟩)

/-- `trimPvtCollectionConfigs`: the static configs the filter has; a config of any other kind is an
error, whichever namespace the map's range reaches first. -/
def trimPvtCollectionConfigs (configs : List (String × CollectionConfigPackage)) (filter : Option PvtNsCollFilter) :
    Except String (List (String × CollectionConfigPackage)) :=
  match filter with
  | none => .ok configs
  | some filter => configs.mapM fun (ns, pkg) => do
      let config ← pkg.config.foldlM (fun (config : List CollectionConfig) colConf =>
        match colConf.payload with
        | some cconf => .ok (if filter.contains (ns, cconf.name) then config ++ [colConf] else config)
        | none => .error "unexpected collection type") []
      pure (ns, ⟨config⟩)

def emptyValue : Bytes := []

def nilByte : UInt8 := 0x00

def errStoreEmpty : String := "Transient store is empty"

structure Store where
  db : List (Bytes × Bytes)

def Store.writeBatch (s : Store) (dbBatch : UpdateBatch) : Store := ⟨applyBatch dbBatch s.db⟩

def Store.persistValue (s : Store) (txid : Bytes) (blockHeight : UInt64) (uuid value : Bytes) : Store :=
  let dbBatch : UpdateBatch := []
  let compositeKeyPvtRWSet := createCompositeKeyForPvtRWSet txid uuid blockHeight
  let dbBatch := dbBatch.put compositeKeyPvtRWSet value
  let compositeKeyPurgeIndexByHeight := createCompositeKeyForPurgeIndexByHeight blockHeight txid uuid
  let dbBatch := dbBatch.put compositeKeyPurgeIndexByHeight emptyValue
  let compositeKeyPurgeIndexByTxid := createCompositeKeyForPurgeIndexByTxid txid uuid blockHeight
  let dbBatch := dbBatch.put compositeKeyPurgeIndexByTxid emptyValue
  s.writeBatch dbBatch

def Store.persist (marshal : TxPvtReadWriteSet → Bytes) (s : Store) (txid : Bytes) (blockHeight : UInt64)
    (privateSimulationResults : TxPvtReadWriteSet) (uuid : Bytes) : Store :=
  s.persistValue txid blockHeight uuid (marshal privateSimulationResults)

def Store.persistWithConfig (marshal : TxPvtReadWriteSetWithConfigInfo → Bytes) (s : Store) (txid : Bytes)
    (blockHeight : UInt64) (privateSimulationResultsWithConfig : TxPvtReadWriteSetWithConfigInfo) (uuid : Bytes) :
    Store :=
  s.persistValue txid blockHeight uuid (nilByte :: marshal privateSimulationResultsWithConfig)

def purgeByTxidRecord (txid : Bytes) (dbBatch : UpdateBatch) (compositeKeyPurgeIndexByTxid : Bytes) :
    Except String UpdateBatch := do
  let (uuid, blockHeight) ← splitCompositeKeyOfPurgeIndexByTxid compositeKeyPurgeIndexByTxid
  let compositeKeyPvtRWSet := createCompositeKeyForPvtRWSet txid uuid blockHeight
  let dbBatch := dbBatch.delete compositeKeyPvtRWSet
  let compositeKeyPurgeIndexByHeight := createCompositeKeyForPurgeIndexByHeight blockHeight txid uuid
  let dbBatch := dbBatch.delete compositeKeyPurgeIndexByHeight
  pure (dbBatch.delete compositeKeyPurgeIndexByTxid)

def Store.purgeByTxids (s : Store) (txids : List Bytes) : Except String Store := do
  let dbBatch ← txids.foldlM (fun (dbBatch : UpdateBatch) txid =>
    let startKey := createPurgeIndexByTxidRangeStartKey txid
    let endKey := createPurgeIndexByTxidRangeEndKey txid
    (OrderedStore.scan startKey (some endKey) s.db).foldlM
      (fun dbBatch record => purgeByTxidRecord txid dbBatch record.1) dbBatch) []
  pure (s.writeBatch dbBatch)

def purgeByHeightRecord (dbBatch : UpdateBatch) (compositeKeyPurgeIndexByHeight : Bytes) :
    Except String UpdateBatch := do
  let (txid, uuid, blockHeight) ← splitCompositeKeyOfPurgeIndexByHeight compositeKeyPurgeIndexByHeight
  let compositeKeyPvtRWSet := createCompositeKeyForPvtRWSet txid uuid blockHeight
  let dbBatch := dbBatch.delete compositeKeyPvtRWSet
  let compositeKeyPurgeIndexByTxid := createCompositeKeyForPurgeIndexByTxid txid uuid blockHeight
  let dbBatch := dbBatch.delete compositeKeyPurgeIndexByTxid
  pure (dbBatch.delete compositeKeyPurgeIndexByHeight)

def Store.purgeByHeight (s : Store) (maxBlockNumToRetain : UInt64) : Except String Store := do
  let startKey := createPurgeIndexByHeightRangeStartKey 0
  let endKey := createPurgeIndexByHeightRangeEndKey (maxBlockNumToRetain - 1)
  let dbBatch ← (OrderedStore.scan startKey (some endKey) s.db).foldlM
    (fun dbBatch record => purgeByHeightRecord dbBatch record.1) []
  pure (s.writeBatch dbBatch)

def Store.getMinTransientBlkHt (s : Store) : Except String UInt64 :=
  match OrderedStore.scan (createPurgeIndexByHeightRangeStartKey 0) none s.db with
  | (dbKey, _) :: _ => do
      let (_, _, blockHeight) ← splitCompositeKeyOfPurgeIndexByHeight dbKey
      pure blockHeight
  | [] => .error errStoreEmpty

structure RwsetScanner where
  txid : Bytes
  dbItr : List (Bytes × Bytes)
  filter : Option PvtNsCollFilter

def Store.getTxPvtRWSetByTxid (s : Store) (txid : Bytes) (filter : Option PvtNsCollFilter) : RwsetScanner :=
  let startKey := createTxidRangeStartKey txid
  let endKey := createTxidRangeEndKey txid
  ⟨txid, OrderedStore.scan startKey (some endKey) s.db, filter⟩

structure EndorserPvtSimulationResultsWithConfig where
  receivedAtBlockHeight : UInt64
  pvtSimulationResultsWithConfig : TxPvtReadWriteSetWithConfigInfo
  deriving DecidableEq, Repr

section Scanner

variable (unmarshal : Bytes → Except String TxPvtReadWriteSet)
  (unmarshalWithConfig : Bytes → Except String TxPvtReadWriteSetWithConfigInfo)

def readWithConfig (filter : Option PvtNsCollFilter) (blockHeight : UInt64) (dbVal : Bytes) :
    Except String EndorserPvtSimulationResultsWithConfig :=
  match dbVal with
  | [] => .error "runtime error: index out of range [0] with length 0"
  | b :: rest =>
      if b = nilByte then do
        let txPvtRWSetWithConfig ← unmarshalWithConfig rest
        let filteredTxPvtRWSet ← trimPvtWSet txPvtRWSetWithConfig.pvtRwset filter
        let configs ← trimPvtCollectionConfigs txPvtRWSetWithConfig.collectionConfigs filter
        pure ⟨blockHeight, { txPvtRWSetWithConfig with collectionConfigs := configs, pvtRwset := filteredTxPvtRWSet }⟩
      else do
        let txPvtRWSet ← unmarshal (b :: rest)
        let filteredTxPvtRWSet ← trimPvtWSet (some txPvtRWSet) filter
        pure ⟨blockHeight, ⟨0, filteredTxPvtRWSet, []⟩⟩

def nextWithConfigRecord (filter : Option PvtNsCollFilter) (dbKey dbVal : Bytes) :
    Except String EndorserPvtSimulationResultsWithConfig := do
  let (_, blockHeight) ← splitCompositeKeyOfPvtRWSet dbKey
  readWithConfig unmarshal unmarshalWithConfig filter blockHeight dbVal

def RwsetScanner.nextWithConfig (scanner : RwsetScanner) :
    Except String (Option EndorserPvtSimulationResultsWithConfig × RwsetScanner) :=
  match scanner.dbItr with
  | [] => .ok (none, scanner)
  | (dbKey, dbVal) :: rest => do
      let result ← nextWithConfigRecord unmarshal unmarshalWithConfig scanner.filter dbKey dbVal
      pure (some result, { scanner with dbItr := rest })

def RwsetScanner.drainWithConfig (scanner : RwsetScanner) :
    Except String (List EndorserPvtSimulationResultsWithConfig) :=
  scanner.dbItr.mapM fun record => nextWithConfigRecord unmarshal unmarshalWithConfig scanner.filter record.1 record.2

end Scanner

structure Entry where
  txid : Bytes
  uuid : Bytes
  blockHeight : UInt64
  value : Bytes
  deriving DecidableEq, Repr

namespace Entry

def heightKey (e : Entry) : Bytes := createCompositeKeyForPurgeIndexByHeight e.blockHeight e.txid e.uuid

def pvtKey (e : Entry) : Bytes := createCompositeKeyForPvtRWSet e.txid e.uuid e.blockHeight

def txidKey (e : Entry) : Bytes := createCompositeKeyForPurgeIndexByTxid e.txid e.uuid e.blockHeight

def records (e : Entry) : List (Bytes × Bytes) :=
  [(e.heightKey, emptyValue), (e.pvtKey, e.value), (e.txidKey, emptyValue)]

def keys (e : Entry) : List Bytes := [e.heightKey, e.pvtKey, e.txidKey]

structure WellFormed (txidLength : Nat) (e : Entry) : Prop where
  txid_length : e.txid.length = txidLength
  txid_free : compositeKeySep ∉ e.txid
  uuid_free : compositeKeySep ∉ e.uuid

theorem fst_mem_keys {e : Entry} {record : Bytes × Bytes} (member : record ∈ e.records) : record.1 ∈ e.keys := by
  simp only [records, List.mem_cons, List.not_mem_nil, or_false] at member
  rcases member with rfl | rfl | rfl <;> simp [keys]

theorem index_ne {a b : UInt8} (other : a ≠ b) (rest rest' : Bytes) :
    a :: compositeKeySep :: rest ≠ b :: compositeKeySep :: rest' :=
  fun same => other (List.cons.inj same).1

theorem heightKey_ne_pvtKey (e e' : Entry) : e.heightKey ≠ e'.pvtKey := by
  rw [heightKey, pvtKey, createCompositeKeyForPurgeIndexByHeight_eq, createCompositeKeyForPvtRWSet_eq]
  exact index_ne (by decide) _ _

theorem heightKey_ne_txidKey (e e' : Entry) : e.heightKey ≠ e'.txidKey := by
  rw [heightKey, txidKey, createCompositeKeyForPurgeIndexByHeight_eq, createCompositeKeyForPurgeIndexByTxid_eq]
  exact index_ne (by decide) _ _

theorem pvtKey_ne_txidKey (e e' : Entry) : e.pvtKey ≠ e'.txidKey := by
  rw [pvtKey, txidKey, createCompositeKeyForPvtRWSet_eq, createCompositeKeyForPurgeIndexByTxid_eq]
  exact index_ne (by decide) _ _

variable {txidLength : Nat} {e e' : Entry}

theorem uuid_eq_of_mem_keys (wellFormed : e.WellFormed txidLength) (wellFormed' : e'.WellFormed txidLength)
    {key : Bytes} (member : key ∈ e.keys) (member' : key ∈ e'.keys) : e.uuid = e'.uuid := by
  have free := wellFormed.txid_free
  have free' := wellFormed'.txid_free
  have uuidFree := wellFormed.uuid_free
  have uuidFree' := wellFormed'.uuid_free
  simp only [keys, List.mem_cons, List.not_mem_nil, or_false] at member member'
  rcases member with rfl | rfl | rfl <;> rcases member' with same | same | same
  · exact (createCompositeKeyForPurgeIndexByHeight_inj free free' uuidFree uuidFree' same).2.1
  · exact absurd same (heightKey_ne_pvtKey e e')
  · exact absurd same (heightKey_ne_txidKey e e')
  · exact absurd same.symm (heightKey_ne_pvtKey e' e)
  · exact (createCompositeKeyWithoutPrefixForTxid_inj free free' uuidFree uuidFree' (List.append_cancel_left same)).2.1
  · exact absurd same (pvtKey_ne_txidKey e e')
  · exact absurd same.symm (heightKey_ne_txidKey e' e)
  · exact absurd same.symm (pvtKey_ne_txidKey e' e)
  · exact (createCompositeKeyWithoutPrefixForTxid_inj free free' uuidFree uuidFree' (List.append_cancel_left same)).2.1

end Entry

section Represents

variable (txidLength : Nat)

structure Represents (db : List (Bytes × Bytes)) (entries : List Entry) : Prop where
  ordered : Ordered db
  wellFormed : ∀ e ∈ entries, e.WellFormed txidLength
  uuids : (entries.map Entry.uuid).Nodup
  mem_iff : ∀ record, record ∈ db ↔ ∃ e ∈ entries, record ∈ e.records

theorem represents_nil : Represents txidLength [] [] :=
  ⟨ordered_nil, by simp, List.nodup_nil, by simp⟩

variable {txidLength} {db : List (Bytes × Bytes)} {entries : List Entry}

theorem Represents.eq_of_mem_keys (represents : Represents txidLength db entries) {e e' : Entry} (live : e ∈ entries)
    (live' : e' ∈ entries) {key : Bytes} (member : key ∈ e.keys) (member' : key ∈ e'.keys) : e = e' :=
  List.inj_on_of_nodup_map represents.uuids live live'
    (Entry.uuid_eq_of_mem_keys (represents.wellFormed e live) (represents.wellFormed e' live') member member')

theorem Represents.filter (represents : Represents txidLength db entries) (keep : Entry → Bool)
    {db' : List (Bytes × Bytes)} (ordered : Ordered db')
    (mem_iff : ∀ record, record ∈ db' ↔ record ∈ db ∧ ¬∃ e ∈ entries, keep e = false ∧ record.1 ∈ e.keys) :
    Represents txidLength db' (entries.filter keep) := by
  refine ⟨ordered, fun e member => represents.wellFormed e (List.mem_of_mem_filter member),
    (represents.uuids.sublist (List.filter_sublist.map _)), fun record => ?_⟩
  rw [mem_iff, represents.mem_iff]
  constructor
  · rintro ⟨⟨e, live, member⟩, kept⟩
    refine ⟨e, List.mem_filter.mpr ⟨live, ?_⟩, member⟩
    by_contra gone
    exact kept ⟨e, live, by simpa using gone, Entry.fst_mem_keys member⟩
  · rintro ⟨e, kept, member⟩
    obtain ⟨live, keeps⟩ := List.mem_filter.mp kept
    refine ⟨⟨e, live, member⟩, ?_⟩
    rintro ⟨e', live', gone, key⟩
    rw [represents.eq_of_mem_keys live live' (Entry.fst_mem_keys member) key] at keeps
    rw [keeps] at gone
    exact Bool.noConfusion gone

end Represents

namespace Entry

theorem mem_records {e : Entry} {record : Bytes × Bytes} :
    record ∈ e.records ↔
      record = (e.heightKey, emptyValue) ∨ record = (e.pvtKey, e.value) ∨ record = (e.txidKey, emptyValue) := by
  simp [records]

variable {e : Entry}

theorem pvtKey_between_iff {index : UInt8} {txid : Bytes} (length : e.txid.length = txid.length) :
    (¬e.pvtKey < rangeStartKey index txid ∧ e.pvtKey < rangeEndKey index txid) ↔
      prwsetPrefix = index ∧ e.txid = txid := by
  rw [pvtKey, createCompositeKeyForPvtRWSet_eq]
  exact between_range_iff length _

theorem txidKey_between_iff {index : UInt8} {txid : Bytes} (length : e.txid.length = txid.length) :
    (¬e.txidKey < rangeStartKey index txid ∧ e.txidKey < rangeEndKey index txid) ↔
      purgeIndexByTxidPrefix = index ∧ e.txid = txid := by
  rw [txidKey, createCompositeKeyForPurgeIndexByTxid_eq]
  exact between_range_iff length _

theorem heightKey_not_between {index : UInt8} (other : purgeIndexByHeightPrefix ≠ index) (part : Bytes) :
    ¬(¬e.heightKey < rangeStartKey index part ∧ e.heightKey < rangeEndKey index part) := by
  rw [heightKey, createCompositeKeyForPurgeIndexByHeight_eq, rangeStartKey_eq, rangeEndKey_eq]
  exact not_between_of_ne other _ _ _

theorem pvtKey_not_between {index : UInt8} (other : prwsetPrefix ≠ index) (start stop : Bytes) :
    ¬(¬e.pvtKey < rangeStartKey index start ∧ e.pvtKey < rangeEndKey index stop) := by
  rw [pvtKey, createCompositeKeyForPvtRWSet_eq, rangeStartKey_eq, rangeEndKey_eq]
  exact not_between_of_ne other _ _ _

theorem txidKey_not_between {index : UInt8} (other : purgeIndexByTxidPrefix ≠ index) (start stop : Bytes) :
    ¬(¬e.txidKey < rangeStartKey index start ∧ e.txidKey < rangeEndKey index stop) := by
  rw [txidKey, createCompositeKeyForPurgeIndexByTxid_eq, rangeStartKey_eq, rangeEndKey_eq]
  exact not_between_of_ne other _ _ _

end Entry

section Scans

variable {txidLength : Nat} {s : Store} {entries : List Entry}

theorem Represents.mem_scan (represents : Represents txidLength s.db entries) (start stop : Bytes)
    (record : Bytes × Bytes) :
    record ∈ OrderedStore.scan start (some stop) s.db ↔
      ∃ e ∈ entries, record ∈ e.records ∧ ¬record.1 < start ∧ record.1 < stop := by
  rw [OrderedStore.mem_scan, represents.mem_iff]
  simp only [Option.mem_def, Option.some.injEq, forall_eq']
  constructor
  · rintro ⟨⟨e, live, member⟩, above, below⟩
    exact ⟨e, live, member, above, below⟩
  · rintro ⟨e, live, member, above, below⟩
    exact ⟨⟨e, live, member⟩, above, below⟩

theorem Represents.mem_scan_txid (represents : Represents txidLength s.db entries) {txid : Bytes}
    (length : txid.length = txidLength) (record : Bytes × Bytes) :
    record ∈ OrderedStore.scan (createTxidRangeStartKey txid) (some (createTxidRangeEndKey txid)) s.db ↔
      ∃ e ∈ entries, e.txid = txid ∧ record = (e.pvtKey, e.value) := by
  rw [represents.mem_scan]
  constructor
  · rintro ⟨e, live, member, between⟩
    have same : e.txid.length = txid.length := ((represents.wellFormed e live).txid_length).trans length.symm
    rcases Entry.mem_records.mp member with rfl | rfl | rfl
    · exact absurd between (Entry.heightKey_not_between (by decide) txid)
    · exact ⟨e, live, ((Entry.pvtKey_between_iff same).mp between).2, rfl⟩
    · exact absurd ((Entry.txidKey_between_iff same).mp between).1 (by decide)
  · rintro ⟨e, live, rfl, rfl⟩
    have same : e.txid.length = e.txid.length := rfl
    exact ⟨e, live, Entry.mem_records.mpr (.inr (.inl rfl)), (Entry.pvtKey_between_iff same).mpr ⟨rfl, rfl⟩⟩

theorem Represents.mem_scan_purgeIndexByTxid (represents : Represents txidLength s.db entries) {txid : Bytes}
    (length : txid.length = txidLength) (record : Bytes × Bytes) :
    record ∈ OrderedStore.scan (createPurgeIndexByTxidRangeStartKey txid)
        (some (createPurgeIndexByTxidRangeEndKey txid)) s.db ↔
      ∃ e ∈ entries, e.txid = txid ∧ record = (e.txidKey, emptyValue) := by
  rw [represents.mem_scan]
  constructor
  · rintro ⟨e, live, member, between⟩
    have same : e.txid.length = txid.length := ((represents.wellFormed e live).txid_length).trans length.symm
    rcases Entry.mem_records.mp member with rfl | rfl | rfl
    · exact absurd between (Entry.heightKey_not_between (by decide) txid)
    · exact absurd ((Entry.pvtKey_between_iff same).mp between).1 (by decide)
    · exact ⟨e, live, ((Entry.txidKey_between_iff same).mp between).2, rfl⟩
  · rintro ⟨e, live, rfl, rfl⟩
    have same : e.txid.length = e.txid.length := rfl
    exact ⟨e, live, Entry.mem_records.mpr (.inr (.inr rfl)), (Entry.txidKey_between_iff same).mpr ⟨rfl, rfl⟩⟩

theorem Represents.mem_scan_purgeIndexByHeight (represents : Represents txidLength s.db entries) (bound : UInt64)
    (record : Bytes × Bytes) :
    record ∈ OrderedStore.scan (createPurgeIndexByHeightRangeStartKey 0)
        (some (createPurgeIndexByHeightRangeEndKey bound)) s.db ↔
      ∃ e ∈ entries, e.blockHeight ≤ bound ∧ record = (e.heightKey, emptyValue) := by
  rw [represents.mem_scan]
  constructor
  · rintro ⟨e, live, member, between⟩
    rcases Entry.mem_records.mp member with rfl | rfl | rfl
    · exact ⟨e, live, (between_height_range_iff _ _ _ _).mp between, rfl⟩
    · exact absurd between (Entry.pvtKey_not_between (by decide) _ _)
    · exact absurd between (Entry.txidKey_not_between (by decide) _ _)
  · rintro ⟨e, live, below, rfl⟩
    exact ⟨e, live, Entry.mem_records.mpr (.inl rfl), (between_height_range_iff _ _ _ _).mpr below⟩

end Scans

section Steps

variable {txidLength : Nat} {s : Store} {entries : List Entry}

theorem mem_persistValue (ordered : Ordered s.db) (e : Entry) (record : Bytes × Bytes) :
    record ∈ (s.persistValue e.txid e.blockHeight e.uuid e.value).db ↔
      record ∈ e.records ∨ record.1 ∉ e.keys ∧ record ∈ s.db := by
  have batch : Ordered (insert e.txidKey (some emptyValue) (insert e.heightKey (some emptyValue)
      (insert e.pvtKey (some e.value) ([] : List (Bytes × Option Bytes))))) :=
    insert_ordered (insert_ordered (insert_ordered ordered_nil))
  have db : (s.persistValue e.txid e.blockHeight e.uuid e.value).db = applyBatch (insert e.txidKey (some emptyValue)
      (insert e.heightKey (some emptyValue) (insert e.pvtKey (some e.value) []))) s.db := rfl
  have heightPvt := Entry.heightKey_ne_pvtKey e e
  have heightTxid := Entry.heightKey_ne_txidKey e e
  have pvtTxid := Entry.pvtKey_ne_txidKey e e
  rw [db, mem_applyBatch_iff batch ordered]
  obtain ⟨key, value⟩ := record
  simp only [find_insert, find_nil, Entry.records, Entry.keys, List.mem_cons, List.not_mem_nil, or_false,
    Prod.mk.injEq]
  -- the batch writes the three keys of the entry, which differ
  by_cases isTxid : e.txidKey = key
  · subst isTxid
    simp [heightTxid.symm, pvtTxid.symm, eq_comm]
  by_cases isHeight : e.heightKey = key
  · subst isHeight
    simp [heightTxid, heightPvt, eq_comm]
  by_cases isPvt : e.pvtKey = key
  · subst isPvt
    simp [heightPvt, pvtTxid, isTxid, eq_comm]
  simp [isTxid, isHeight, isPvt, Ne.symm isTxid, Ne.symm isHeight, Ne.symm isPvt]

theorem Represents.persistValue (represents : Represents txidLength s.db entries) (e : Entry)
    (wellFormed : e.WellFormed txidLength) (fresh : e.uuid ∉ entries.map Entry.uuid) :
    Represents txidLength (s.persistValue e.txid e.blockHeight e.uuid e.value).db (entries ++ [e]) := by
  refine ⟨applyBatch_ordered _ represents.ordered, fun e' member => ?_, ?_, fun record => ?_⟩
  · rcases List.mem_append.mp member with live | added
    · exact represents.wellFormed e' live
    · rw [List.mem_singleton.mp added]
      exact wellFormed
  · rw [List.map_append, List.map_singleton, List.nodup_append]
    exact ⟨represents.uuids, List.nodup_singleton _, fun u live u' added => by
      rw [List.mem_singleton.mp added]
      exact fun same => fresh (same ▸ live)⟩
  rw [mem_persistValue represents.ordered, represents.mem_iff]
  constructor
  · rintro (added | ⟨-, e', live, member⟩)
    · exact ⟨e, List.mem_append_right _ List.mem_cons_self, added⟩
    · exact ⟨e', List.mem_append_left _ live, member⟩
  · rintro ⟨e', member', member⟩
    rcases List.mem_append.mp member' with live | added
    · -- an old record keeps its key, which the new entry cannot share
      refine .inr ⟨fun key => fresh ?_, e', live, member⟩
      rw [Entry.uuid_eq_of_mem_keys wellFormed (represents.wellFormed e' live) key (Entry.fst_mem_keys member)]
      exact List.mem_map_of_mem live
    · rw [List.mem_singleton.mp added] at member
      exact .inl member

theorem purgeByTxidRecord_deletes {e : Entry} (wellFormed : e.WellFormed txidLength) {dbBatch : UpdateBatch}
    (ordered : Ordered dbBatch) :
    ∃ dbBatch', purgeByTxidRecord e.txid dbBatch e.txidKey = .ok dbBatch' ∧ Deletes dbBatch dbBatch' (· ∈ e.keys) := by
  refine ⟨insert e.txidKey none (insert e.heightKey none (insert e.pvtKey none dbBatch)), ?_, ?_⟩
  · have split : splitCompositeKeyOfPurgeIndexByTxid e.txidKey = .ok (e.uuid, e.blockHeight) :=
      splitCompositeKeyOfPurgeIndexByTxid_create wellFormed.txid_free wellFormed.uuid_free e.blockHeight
    rw [purgeByTxidRecord, split]
    rfl
  · -- the write set's key, the height index key, then the scanned key
    have pvt := deletes_insert ordered e.pvtKey
    have height := deletes_insert pvt.1 e.heightKey
    have txid := deletes_insert height.1 e.txidKey
    exact ((pvt.trans height).trans txid).congr fun key => by simp [Entry.keys]; tauto

theorem purgeByHeightRecord_deletes {e : Entry} (wellFormed : e.WellFormed txidLength) {dbBatch : UpdateBatch}
    (ordered : Ordered dbBatch) :
    ∃ dbBatch', purgeByHeightRecord dbBatch e.heightKey = .ok dbBatch' ∧ Deletes dbBatch dbBatch' (· ∈ e.keys) := by
  refine ⟨insert e.heightKey none (insert e.txidKey none (insert e.pvtKey none dbBatch)), ?_, ?_⟩
  · have split : splitCompositeKeyOfPurgeIndexByHeight e.heightKey = .ok (e.txid, e.uuid, e.blockHeight) :=
      splitCompositeKeyOfPurgeIndexByHeight_create wellFormed.txid_free wellFormed.uuid_free e.blockHeight
    rw [purgeByHeightRecord, split]
    rfl
  · -- the write set's key, the txid index key, then the scanned key
    have pvt := deletes_insert ordered e.pvtKey
    have txid := deletes_insert pvt.1 e.txidKey
    have height := deletes_insert txid.1 e.heightKey
    exact ((pvt.trans txid).trans height).congr fun key => by simp [Entry.keys]; tauto

theorem Represents.foldlM_purge (represents : Represents txidLength s.db entries) (key : Entry → Bytes)
    (key_mem : ∀ e, key e ∈ e.keys) (found : Entry → Prop) {records : List (Bytes × Bytes)}
    (scanned : ∀ record, record ∈ records ↔ ∃ e ∈ entries, found e ∧ record = (key e, emptyValue))
    (step : UpdateBatch → Bytes → Except String UpdateBatch)
    (each : ∀ e ∈ entries, found e → ∀ dbBatch, Ordered dbBatch →
      ∃ dbBatch', step dbBatch (key e) = .ok dbBatch' ∧ Deletes dbBatch dbBatch' (· ∈ e.keys))
    (dbBatch : UpdateBatch) (ordered : Ordered dbBatch) :
    ∃ dbBatch', records.foldlM (fun dbBatch record => step dbBatch record.1) dbBatch = .ok dbBatch' ∧
      Deletes dbBatch dbBatch' fun k => ∃ e ∈ entries, found e ∧ k ∈ e.keys := by
  -- a record deletes the keys of the one live entry that has its key
  have owner : ∀ e ∈ entries, ∀ k, k ∈ e.keys ↔ ∃ e' ∈ entries, key e = key e' ∧ k ∈ e'.keys := by
    intro e live k
    refine ⟨fun member => ⟨e, live, rfl, member⟩, ?_⟩
    rintro ⟨e', live', same, member⟩
    have shared : key e ∈ e'.keys := by
      rw [same]
      exact key_mem e'
    rwa [represents.eq_of_mem_keys live live' (key_mem e) shared]
  obtain ⟨dbBatch', fold, deletes⟩ :=
    foldlM_deletes (fun dbBatch (record : Bytes × Bytes) => step dbBatch record.1)
      (fun record k => ∃ e ∈ entries, record.1 = key e ∧ k ∈ e.keys) (fun record member batch batched => by
        obtain ⟨e, live, isFound, rfl⟩ := (scanned record).mp member
        obtain ⟨batch', stepped, deletes⟩ := each e live isFound batch batched
        exact ⟨batch', stepped, deletes.congr (owner e live)⟩) dbBatch ordered
  refine ⟨dbBatch', fold, deletes.congr fun k => ⟨?_, ?_⟩⟩
  · rintro ⟨record, member, e, live, same, gone⟩
    obtain ⟨e', live', isFound, rfl⟩ := (scanned record).mp member
    exact ⟨e', live', isFound, (owner e' live' k).mpr ⟨e, live, same, gone⟩⟩
  · rintro ⟨e, live, isFound, gone⟩
    exact ⟨(key e, emptyValue), (scanned _).mpr ⟨e, live, isFound, rfl⟩, e, live, rfl, gone⟩

theorem Represents.purgeByTxids (represents : Represents txidLength s.db entries) {txids : List Bytes}
    (lengths : ∀ txid ∈ txids, txid.length = txidLength) :
    ∃ s', s.purgeByTxids txids = .ok s' ∧
      Represents txidLength s'.db (entries.filter fun e => !txids.contains e.txid) := by
  obtain ⟨dbBatch, fold, deletes⟩ :=
    foldlM_deletes _ (fun txid k => ∃ e ∈ entries, e.txid = txid ∧ k ∈ e.keys)
      (fun txid member batch batched =>
        represents.foldlM_purge Entry.txidKey (fun e => by simp [Entry.keys]) (fun e => e.txid = txid)
          (represents.mem_scan_purgeIndexByTxid (lengths txid member)) (purgeByTxidRecord txid)
          (fun e live same batch batched => by
            subst same
            exact purgeByTxidRecord_deletes (represents.wellFormed e live) batched) batch batched) [] ordered_nil
  refine ⟨⟨applyBatch dbBatch s.db⟩, by rw [Store.purgeByTxids, fold]; rfl,
    represents.filter _ (applyBatch_ordered _ represents.ordered) fun record => ?_⟩
  rw [mem_applyBatch_of_deletes deletes represents.ordered]
  refine and_congr_right fun _ => not_congr ⟨?_, ?_⟩
  · rintro ⟨txid, member, e, live, rfl, gone⟩
    exact ⟨e, live, by simpa using member, gone⟩
  · rintro ⟨e, live, purged, gone⟩
    exact ⟨e.txid, by simpa using purged, e, live, rfl, gone⟩

theorem Represents.purgeByHeight (represents : Represents txidLength s.db entries) (maxBlockNumToRetain : UInt64) :
    ∃ s', s.purgeByHeight maxBlockNumToRetain = .ok s' ∧
      Represents txidLength s'.db (entries.filter fun e => maxBlockNumToRetain - 1 < e.blockHeight) := by
  obtain ⟨dbBatch, fold, deletes⟩ :=
    represents.foldlM_purge Entry.heightKey (fun e => by simp [Entry.keys])
      (fun e => e.blockHeight ≤ maxBlockNumToRetain - 1)
      (represents.mem_scan_purgeIndexByHeight (maxBlockNumToRetain - 1)) purgeByHeightRecord
      (fun e live _ batch batched => purgeByHeightRecord_deletes (represents.wellFormed e live) batched) [] ordered_nil
  refine ⟨⟨applyBatch dbBatch s.db⟩, by rw [Store.purgeByHeight, fold]; rfl,
    represents.filter _ (applyBatch_ordered _ represents.ordered) fun record => ?_⟩
  rw [mem_applyBatch_of_deletes deletes represents.ordered]
  simp [UInt64.not_lt]

end Steps

namespace Entry

theorem heightKey_lt_pvtKey (e e' : Entry) : e.heightKey < e'.pvtKey := by
  rw [heightKey, pvtKey, createCompositeKeyForPurgeIndexByHeight_eq, createCompositeKeyForPvtRWSet_eq,
    index_lt_index_iff]
  exact .inl (by decide)

theorem heightKey_lt_txidKey (e e' : Entry) : e.heightKey < e'.txidKey := by
  rw [heightKey, txidKey, createCompositeKeyForPurgeIndexByHeight_eq, createCompositeKeyForPurgeIndexByTxid_eq,
    index_lt_index_iff]
  exact .inl (by decide)

theorem not_lt_start {e : Entry} {record : Bytes × Bytes} (member : record ∈ e.records) :
    ¬record.1 < createPurgeIndexByHeightRangeStartKey 0 := by
  have start : ¬e.heightKey < createPurgeIndexByHeightRangeStartKey 0 :=
    ((between_height_range_iff e.blockHeight e.blockHeight e.txid e.uuid).mpr (UInt64.le_refl _)).1
  rcases mem_records.mp member with rfl | rfl | rfl
  · exact start
  · exact fun below => start (lt_trans (heightKey_lt_pvtKey e e) below)
  · exact fun below => start (lt_trans (heightKey_lt_txidKey e e) below)

end Entry

section Queries

variable {txidLength : Nat} {s : Store} {entries : List Entry}

theorem Represents.getMinTransientBlkHt (represents : Represents txidLength s.db entries) :
    entries = [] ∧ s.getMinTransientBlkHt = .error errStoreEmpty ∨
      ∃ e ∈ entries, s.getMinTransientBlkHt = .ok e.blockHeight ∧ ∀ e' ∈ entries, e.blockHeight ≤ e'.blockHeight := by
  -- the scan has no end and every record is past its start: it walks the whole database
  have whole : OrderedStore.scan (createPurgeIndexByHeightRangeStartKey 0) none s.db = s.db := by
    apply List.filter_eq_self.mpr
    intro record member
    obtain ⟨e, -, belongs⟩ := (represents.mem_iff record).mp member
    simp [Entry.not_lt_start belongs]
  have records : ∀ e ∈ entries, (e.heightKey, emptyValue) ∈ s.db := fun e live =>
    (represents.mem_iff _).mpr ⟨e, live, Entry.mem_records.mpr (.inl rfl)⟩
  rw [Store.getMinTransientBlkHt, whole]
  cases db : s.db with
  | nil =>
    refine .inl ⟨List.eq_nil_iff_forall_not_mem.mpr fun e live => ?_, rfl⟩
    simpa [db] using records e live
  | cons first rest =>
    have ordered := represents.ordered
    rw [db, ordered_cons] at ordered
    obtain ⟨e, live, belongs⟩ := (represents.mem_iff first).mp (db ▸ List.mem_cons_self)
    -- the first record is a height index key: the entry's height index key is not after it
    have height : first = (e.heightKey, emptyValue) := by
      rcases Entry.mem_records.mp belongs with same | rfl | rfl
      · exact same
      all_goals
        have stored := records e live
        rw [db] at stored
        rcases List.mem_cons.mp stored with same | later
        · exact absurd (congrArg Prod.fst same) (by simp [Entry.heightKey_ne_pvtKey, Entry.heightKey_ne_txidKey])
        · have below := ordered.1 _ later
          first
            | exact absurd (lt_trans below (Entry.heightKey_lt_pvtKey e e)) (lt_irrefl _)
            | exact absurd (lt_trans below (Entry.heightKey_lt_txidKey e e)) (lt_irrefl _)
    have split := splitCompositeKeyOfPurgeIndexByHeight_create (represents.wellFormed e live).txid_free
      (represents.wellFormed e live).uuid_free e.blockHeight
    refine .inr ⟨e, live, by rw [height]; simp only [Entry.heightKey] at split ⊢; rw [split]; rfl, fun e' live' => ?_⟩
    have stored := records e' live'
    rw [db, height] at stored
    rcases List.mem_cons.mp stored with same | later
    · have shared : e'.heightKey ∈ e.keys := by
        rw [(Prod.mk.inj same).1]
        simp [Entry.keys]
      rw [represents.eq_of_mem_keys live' live (by simp [Entry.keys]) shared]
      exact UInt64.le_refl _
    · have below := ordered.1 _ later
      rw [height] at below
      exact le_of_heightKey_lt below

theorem Represents.getTxPvtRWSetByTxid (represents : Represents txidLength s.db entries) {txid : Bytes}
    (length : txid.length = txidLength) (filter : Option PvtNsCollFilter) :
    ∃ sorted : List Entry, sorted.Perm (entries.filter fun e => e.txid == txid) ∧
      sorted.Pairwise (fun e e' => e.uuid < e'.uuid) ∧
      (s.getTxPvtRWSetByTxid txid filter).dbItr = sorted.map fun e => (e.pvtKey, e.value) := by
  have scanned := represents.mem_scan_txid length
  have images : ∀ record ∈ OrderedStore.scan (createTxidRangeStartKey txid) (some (createTxidRangeEndKey txid)) s.db,
      ∃ e : Entry, (e ∈ entries ∧ e.txid = txid) ∧ (e.pvtKey, e.value) = record := by
    intro record member
    obtain ⟨e, live, same, rfl⟩ := (scanned record).mp member
    exact ⟨e, ⟨live, same⟩, rfl⟩
  obtain ⟨sorted, found, mapped⟩ := List.exists_map_eq_of_forall images
  have ordered : Ordered (sorted.map fun e => (e.pvtKey, e.value)) := by
    rw [mapped]
    exact represents.ordered.filter _
  have pairs : (sorted.map fun e => (e.pvtKey, e.value)).Pairwise fun a b => a.1 < b.1 := ordered
  have keys : sorted.Pairwise fun e e' => e.pvtKey < e'.pvtKey := by
    rw [List.pairwise_map] at pairs
    exact pairs
  have distinct : sorted.Nodup := keys.imp fun below same => by
    rw [same] at below
    exact lt_irrefl _ below
  refine ⟨sorted, ?_, ?_, mapped.symm⟩
  · refine (List.perm_ext_iff_of_nodup distinct ((represents.uuids.of_map _).filter _)).mpr fun e => ?_
    rw [List.mem_filter, beq_iff_eq]
    refine ⟨fun member => found e member, fun ⟨live, same⟩ => ?_⟩
    -- the write set's record is scanned, and only the entry itself has its key
    have stored : (e.pvtKey, e.value) ∈ sorted.map fun e => (e.pvtKey, e.value) := by
      rw [mapped]
      exact (scanned _).mpr ⟨e, live, same, rfl⟩
    obtain ⟨e', member, image⟩ := List.mem_map.mp stored
    have shared : e.pvtKey ∈ e'.keys := by
      rw [← (Prod.mk.inj image).1]
      simp [Entry.keys]
    rwa [represents.eq_of_mem_keys (found e' member).1 live shared (by simp [Entry.keys])] at member
  · refine keys.imp_of_mem fun {e e'} member member' below => ?_
    obtain ⟨live, same⟩ := found e member
    obtain ⟨live', same'⟩ := found e' member'
    have free := (represents.wellFormed e live).uuid_free
    have free' := (represents.wellFormed e' live').uuid_free
    rw [Entry.pvtKey, Entry.pvtKey, same, same', createCompositeKeyForPvtRWSet_lt_iff free free'] at below
    rcases below with less | ⟨uuid, lower⟩
    · exact less
    · -- one uuid is one entry
      rw [List.inj_on_of_nodup_map represents.uuids live live' uuid] at lower
      exact absurd lower (UInt64.lt_irrefl _)

theorem Represents.drainWithConfig (represents : Represents txidLength s.db entries) {txid : Bytes}
    (length : txid.length = txidLength) (filter : Option PvtNsCollFilter)
    (unmarshal : Bytes → Except String TxPvtReadWriteSet)
    (unmarshalWithConfig : Bytes → Except String TxPvtReadWriteSetWithConfigInfo) :
    ∃ sorted : List Entry, sorted.Perm (entries.filter fun e => e.txid == txid) ∧
      sorted.Pairwise (fun e e' => e.uuid < e'.uuid) ∧
      (s.getTxPvtRWSetByTxid txid filter).drainWithConfig unmarshal unmarshalWithConfig =
        sorted.mapM fun e => readWithConfig unmarshal unmarshalWithConfig filter e.blockHeight e.value := by
  obtain ⟨sorted, perm, ordered, walked⟩ := represents.getTxPvtRWSetByTxid length filter
  refine ⟨sorted, perm, ordered, ?_⟩
  rw [RwsetScanner.drainWithConfig, walked, List.mapM_map]
  apply List.mapM_congr
  intro e member
  have live := List.mem_of_mem_filter (perm.subset member)
  have split := splitCompositeKeyOfPvtRWSet_create (represents.wellFormed e live).txid_free
    (represents.wellFormed e live).uuid_free e.blockHeight
  simp only [Function.comp, nextWithConfigRecord, Entry.pvtKey, split, Except.ok_bind]
  rfl

end Queries

inductive Op where
  | persist (txid : Bytes) (blockHeight : UInt64) (privateSimulationResults : TxPvtReadWriteSet) (uuid : Bytes)
  | persistWithConfig (txid : Bytes) (blockHeight : UInt64)
      (privateSimulationResultsWithConfig : TxPvtReadWriteSetWithConfigInfo) (uuid : Bytes)
  | purgeByTxids (txids : List Bytes)
  | purgeByHeight (maxBlockNumToRetain : UInt64)

namespace Op

variable (marshal : TxPvtReadWriteSet → Bytes) (marshalWithConfig : TxPvtReadWriteSetWithConfigInfo → Bytes)

def apply (s : Store) : Op → Except String Store
  | persist txid blockHeight set uuid => .ok (s.persist marshal txid blockHeight set uuid)
  | persistWithConfig txid blockHeight info uuid => .ok (s.persistWithConfig marshalWithConfig txid blockHeight info uuid)
  | purgeByTxids txids => s.purgeByTxids txids
  | purgeByHeight maxBlockNumToRetain => s.purgeByHeight maxBlockNumToRetain

def uuid? : Op → Option Bytes
  | persist _ _ _ uuid | persistWithConfig _ _ _ uuid => some uuid
  | purgeByTxids _ | purgeByHeight _ => none

def contents (entries : List Entry) : Op → List Entry
  | persist txid blockHeight set uuid => entries ++ [⟨txid, uuid, blockHeight, marshal set⟩]
  | persistWithConfig txid blockHeight info uuid =>
      entries ++ [⟨txid, uuid, blockHeight, nilByte :: marshalWithConfig info⟩]
  | purgeByTxids txids => entries.filter fun e => !txids.contains e.txid
  | purgeByHeight maxBlockNumToRetain => entries.filter fun e => maxBlockNumToRetain ≤ e.blockHeight

variable (txidLength : Nat)

def Valid : Op → Prop
  | persist txid _ _ uuid | persistWithConfig txid _ _ uuid =>
      txid.length = txidLength ∧ compositeKeySep ∉ txid ∧ compositeKeySep ∉ uuid
  | purgeByTxids txids => ∀ txid ∈ txids, txid.length = txidLength
  | purgeByHeight maxBlockNumToRetain => maxBlockNumToRetain ≠ 0

instance decidableValid : (op : Op) → Decidable (op.Valid txidLength)
  | persist txid _ _ uuid | persistWithConfig txid _ _ uuid =>
      inferInstanceAs (Decidable (txid.length = txidLength ∧ compositeKeySep ∉ txid ∧ compositeKeySep ∉ uuid))
  | purgeByTxids txids => inferInstanceAs (Decidable (∀ txid ∈ txids, txid.length = txidLength))
  | purgeByHeight maxBlockNumToRetain => inferInstanceAs (Decidable (maxBlockNumToRetain ≠ 0))

variable {marshal marshalWithConfig}

theorem mem_contents {op : Op} {entries : List Entry} {e : Entry}
    (member : e ∈ op.contents marshal marshalWithConfig entries) : e ∈ entries ∨ op.uuid? = some e.uuid := by
  cases op with
  | persist txid blockHeight set uuid =>
    rcases List.mem_append.mp member with live | added
    · exact .inl live
    · rw [List.mem_singleton.mp added]
      exact .inr rfl
  | persistWithConfig txid blockHeight info uuid =>
    rcases List.mem_append.mp member with live | added
    · exact .inl live
    · rw [List.mem_singleton.mp added]
      exact .inr rfl
  | purgeByTxids txids => exact .inl (List.mem_of_mem_filter member)
  | purgeByHeight maxBlockNumToRetain => exact .inl (List.mem_of_mem_filter member)

end Op

theorem sub_one_lt_iff {maxBlockNumToRetain : UInt64} (nonzero : maxBlockNumToRetain ≠ 0) (blockHeight : UInt64) :
    maxBlockNumToRetain - 1 < blockHeight ↔ maxBlockNumToRetain ≤ blockHeight := by
  have positive : maxBlockNumToRetain.toNat ≠ 0 := fun zero => nonzero (UInt64.toNat_inj.mp zero)
  have one : (1 : UInt64) ≤ maxBlockNumToRetain := by
    rw [UInt64.le_iff_toNat_le, UInt64.toNat_one]
    omega
  rw [UInt64.lt_iff_toNat_lt, UInt64.le_iff_toNat_le, UInt64.toNat_sub_of_le _ _ one, UInt64.toNat_one]
  omega

theorem zero_sub_one_not_lt (blockHeight : UInt64) : ¬(0 : UInt64) - 1 < blockHeight := by
  rw [UInt64.lt_iff_toNat_lt]
  have top : ((0 : UInt64) - 1).toNat = 2 ^ 64 - 1 := rfl
  have fits := blockHeight.toNat_lt
  omega

theorem filter_zero_sub_one_lt (entries : List Entry) :
    (entries.filter fun e => (0 : UInt64) - 1 < e.blockHeight) = [] :=
  List.filter_eq_nil_iff.mpr fun e _ => by
    simp only [zero_sub_one_not_lt, decide_false, Bool.false_eq_true, not_false_eq_true]

section Run

variable (marshal : TxPvtReadWriteSet → Bytes) (marshalWithConfig : TxPvtReadWriteSetWithConfigInfo → Bytes)

def run (ops : List Op) : Except String Store := ops.foldlM (Op.apply marshal marshalWithConfig) ⟨[]⟩

def runContents (ops : List Op) : List Entry := ops.foldl (Op.contents marshal marshalWithConfig) []

variable {marshal marshalWithConfig} {txidLength : Nat} {s : Store} {entries : List Entry}

theorem Represents.apply (represents : Represents txidLength s.db entries) {op : Op}
    (valid : op.Valid txidLength) (fresh : ∀ uuid ∈ op.uuid?, uuid ∉ entries.map Entry.uuid) :
    ∃ s', op.apply marshal marshalWithConfig s = .ok s' ∧
      Represents txidLength s'.db (op.contents marshal marshalWithConfig entries) := by
  cases op with
  | persist txid blockHeight set uuid =>
    exact ⟨_, rfl, represents.persistValue ⟨txid, uuid, blockHeight, marshal set⟩ ⟨valid.1, valid.2.1, valid.2.2⟩
      (fresh uuid rfl)⟩
  | persistWithConfig txid blockHeight info uuid =>
    exact ⟨_, rfl, represents.persistValue ⟨txid, uuid, blockHeight, nilByte :: marshalWithConfig info⟩
      ⟨valid.1, valid.2.1, valid.2.2⟩ (fresh uuid rfl)⟩
  | purgeByTxids txids => exact represents.purgeByTxids valid
  | purgeByHeight maxBlockNumToRetain =>
    obtain ⟨s', purged, represents'⟩ := represents.purgeByHeight maxBlockNumToRetain
    have kept : (entries.filter fun e => maxBlockNumToRetain - 1 < e.blockHeight) =
        entries.filter fun e => maxBlockNumToRetain ≤ e.blockHeight :=
      List.filter_congr fun e _ => by simp only [sub_one_lt_iff valid]
    refine ⟨s', purged, ?_⟩
    show Represents txidLength s'.db (entries.filter fun e => maxBlockNumToRetain ≤ e.blockHeight)
    rw [← kept]
    exact represents'

variable (marshal marshalWithConfig) in
theorem Represents.run :
    ∀ (ops : List Op) {s : Store} {entries : List Entry}, Represents txidLength s.db entries →
      (∀ op ∈ ops, op.Valid txidLength) → (ops.filterMap Op.uuid?).Nodup →
      (∀ uuid ∈ ops.filterMap Op.uuid?, uuid ∉ entries.map Entry.uuid) →
      ∃ s', ops.foldlM (Op.apply marshal marshalWithConfig) s = .ok s' ∧
        Represents txidLength s'.db (ops.foldl (Op.contents marshal marshalWithConfig) entries)
  | [], s, _, represents, _, _, _ => ⟨s, rfl, represents⟩
  | op :: rest, _, entries, represents, valid, distinct, fresh => by
    have uuids : (op :: rest).filterMap Op.uuid? = op.uuid?.toList ++ rest.filterMap Op.uuid? := by
      cases op <;> rfl
    rw [uuids] at distinct fresh
    obtain ⟨s', applied, represents'⟩ := represents.apply (valid op List.mem_cons_self)
      fun uuid member => fresh uuid (List.mem_append_left _ (Option.mem_toList.mpr member))
    -- the later uuids are neither the old entries' nor the one this call stored
    have fresh' : ∀ uuid ∈ rest.filterMap Op.uuid?,
        uuid ∉ (op.contents marshal marshalWithConfig entries).map Entry.uuid := by
      intro uuid later stored
      obtain ⟨e, member, rfl⟩ := List.mem_map.mp stored
      rcases Op.mem_contents member with live | added
      · exact fresh e.uuid (List.mem_append_right _ later) (List.mem_map_of_mem live)
      · rw [List.nodup_append] at distinct
        exact distinct.2.2 e.uuid (Option.mem_toList.mpr added) e.uuid later rfl
    obtain ⟨s'', later, represents''⟩ := Represents.run rest represents'
      (fun other member => valid other (List.mem_cons_of_mem op member)) (List.nodup_append.mp distinct).2.1 fresh'
    exact ⟨s'', by rw [List.foldlM_cons, applied, Except.ok_bind, later], represents''⟩

end Run

section Calls

variable {marshal : TxPvtReadWriteSet → Bytes} {marshalWithConfig : TxPvtReadWriteSetWithConfigInfo → Bytes}
  {txidLength : Nat}

/-- `PurgeByHeight(0)` is to keep every entry, but its range ends at `0 - 1`, the largest height:
after any run it purges every entry and leaves the store empty. -/
theorem purgeByHeight_zero_purges_every_entry (ops : List Op) (valid : ∀ op ∈ ops, op.Valid txidLength)
    (distinct : (ops.filterMap Op.uuid?).Nodup) :
    ∃ s s', run marshal marshalWithConfig ops = .ok s ∧
      Represents txidLength s.db (runContents marshal marshalWithConfig ops) ∧
      (Op.purgeByHeight 0).contents marshal marshalWithConfig (runContents marshal marshalWithConfig ops) =
        runContents marshal marshalWithConfig ops ∧
      s.purgeByHeight 0 = .ok s' ∧ Represents txidLength s'.db [] ∧
      s'.getMinTransientBlkHt = .error errStoreEmpty := by
  obtain ⟨s, ran, represents⟩ := (represents_nil txidLength).run marshal marshalWithConfig ops valid distinct fun _ _ => List.not_mem_nil
  obtain ⟨s', purged, represents'⟩ := represents.purgeByHeight 0
  have kept : (Op.purgeByHeight 0).contents marshal marshalWithConfig (runContents marshal marshalWithConfig ops) =
      runContents marshal marshalWithConfig ops :=
    List.filter_eq_self.mpr fun e _ => decide_eq_true UInt64.zero_le
  rw [filter_zero_sub_one_lt] at represents'
  refine ⟨s, s', ran, represents, kept, purged, represents', ?_⟩
  rcases represents'.getMinTransientBlkHt with ⟨-, empty⟩ | ⟨e, live, -⟩
  · exact empty
  · exact absurd live List.not_mem_nil

theorem purgeByHeight_zero_purges_persisted_write_set :
    (∀ op ∈ [Op.persist [0x74] 7 ⟨.KV, []⟩ [0x75]], op.Valid 1) ∧
    ([Op.persist [0x74] 7 ⟨.KV, []⟩ [0x75]].filterMap Op.uuid?).Nodup ∧
    runContents (fun _ => [0x0a]) (fun _ => []) [Op.persist [0x74] 7 ⟨.KV, []⟩ [0x75]] =
      [⟨[0x74], [0x75], 7, [0x0a]⟩] ∧
    ∃ s s', run (fun _ => [0x0a]) (fun _ => []) [Op.persist [0x74] 7 ⟨.KV, []⟩ [0x75]] = .ok s ∧
      Represents 1 s.db (runContents (fun _ => [0x0a]) (fun _ => []) [Op.persist [0x74] 7 ⟨.KV, []⟩ [0x75]]) ∧
      (Op.purgeByHeight 0).contents (fun _ => [0x0a]) (fun _ => [])
          (runContents (fun _ => [0x0a]) (fun _ => []) [Op.persist [0x74] 7 ⟨.KV, []⟩ [0x75]]) =
        runContents (fun _ => [0x0a]) (fun _ => []) [Op.persist [0x74] 7 ⟨.KV, []⟩ [0x75]] ∧
      s.purgeByHeight 0 = .ok s' ∧ Represents 1 s'.db [] ∧ s'.getMinTransientBlkHt = .error errStoreEmpty :=
  ⟨by decide, by decide, rfl, purgeByHeight_zero_purges_every_entry _ (by decide) (by decide)⟩

end Calls

end Fabric.Transientstore
