import Mathlib.Data.List.Lex
import Fabric.Ledger.Statedb
import Fabric.Ledger.HistoryDb

/-! `core/ledger/kvledger/txmgmt/statedb/stateleveldb`: the state database on leveldb. The value
of key `key` of namespace `ns` is stored under `ns 0x00 key`, as the bytes of its version
followed by the value, and the savepoint under `0x00`. A range scan of a namespace walks the
keys from `ns 0x00 startKey` up to `ns 0x00 endKey`, or up to `ns 0x01` when the end key is
empty, and cuts each key at its first `0x00`.

Keys and values are byte strings, which leveldb compares lexicographically; a namespace is a
string, stored as its UTF-8 bytes. The database is a sorted association list. -/

namespace Fabric.Statedb

open Historydb

/-- `Height.ToBytes`; a Go height is a pair of uint64. -/
def Height.toBytes (h : Height) : Bytes :=
  encodeOrderPreservingVarUint64 h.blockNum.toUInt64 ++ encodeOrderPreservingVarUint64 h.txNum.toUInt64

/-- `NewHeightFromBytes`: the height and the bytes it takes. -/
def newHeightFromBytes (b : Bytes) : Except String (Height × Nat) := do
  let (blockNum, n1) ← decodeOrderPreservingVarUint64 b
  let (txNum, n2) ← decodeOrderPreservingVarUint64 (b.drop n1)
  pure (⟨blockNum.toNat, txNum.toNat⟩, n1 + n2)

def Height.Fits (h : Height) : Prop := h.blockNum < 2 ^ 64 ∧ h.txNum < 2 ^ 64

instance decidableFits : DecidablePred Height.Fits := fun h =>
  inferInstanceAs (Decidable (h.blockNum < 2 ^ 64 ∧ h.txNum < 2 ^ 64))

theorem newHeightFromBytes_toBytes_append {h : Height} (fits : h.Fits) (rest : Bytes) :
    newHeightFromBytes (h.toBytes ++ rest) = .ok (h, h.toBytes.length) := by
  have split : h.toBytes ++ rest = encodeOrderPreservingVarUint64 h.blockNum.toUInt64 ++
      (encodeOrderPreservingVarUint64 h.txNum.toUInt64 ++ rest) := by
    simp [Height.toBytes]
  have block := decodeOrderPreservingVarUint64_encode_append h.blockNum.toUInt64
    (encodeOrderPreservingVarUint64 h.txNum.toUInt64 ++ rest)
  have tx := decodeOrderPreservingVarUint64_encode_append h.txNum.toUInt64 rest
  -- the numbers come back as they were, since they fit in uint64
  have block' : h.blockNum.toUInt64.toNat = h.blockNum := UInt64.toNat_ofNat_of_lt' fits.1
  have tx' : h.txNum.toUInt64.toNat = h.txNum := UInt64.toNat_ofNat_of_lt' fits.2
  rw [split, newHeightFromBytes, block]
  simp only [Except.ok_bind]
  rw [List.drop_left, tx]
  simp only [Except.ok_bind, block', tx', Height.toBytes, List.length_append]
  rfl

end Fabric.Statedb

namespace Fabric.Stateleveldb

open Statedb SortedAssoc

@[reducible] def byteOrder : LinearOrder UInt8 where
  le a b := a ≤ b
  lt a b := a < b
  le_refl := UInt8.le_refl
  le_trans _ _ _ := UInt8.le_trans
  lt_iff_le_not_ge a b := by
    simp only [UInt8.le_iff_toNat_le, UInt8.lt_iff_toNat_lt]
    omega
  le_antisymm _ _ := UInt8.le_antisymm
  le_total := UInt8.le_total
  toDecidableLE := inferInstance
  toDecidableLT := inferInstance

attribute [local instance] byteOrder

@[reducible] def emptyKeyBot : OrderBot Bytes where
  bot := []
  bot_le key := by
    cases key with
    | nil => exact le_rfl
    | cons b rest => exact le_of_lt (List.Lex.nil : List.Lex (· < ·) [] (b :: rest))

attribute [local instance] emptyKeyBot

@[simp] theorem bot_eq_nil : (⊥ : Bytes) = [] := rfl

def compositeKeySep : Bytes := [0x00]

def lastKeyIndicator : UInt8 := 0x01

def savePointKey : Bytes := [0x00]

def nsBytes (ns : String) : Bytes := ns.toUTF8.data.toList

def constructCompositeKey (ns : String) (key : Bytes) : Bytes :=
  nsBytes ns ++ compositeKeySep ++ key

/-- `splitCompositeKey`: `bytes.SplitN(compositeKey, compositeKeySep, 2)`, whose second part is
out of range when the key holds no separator. -/
def splitCompositeKey (compositeKey : Bytes) : Except String (Bytes × Bytes) :=
  match Historydb.splitFirst compositeKeySep compositeKey with
  | some parts => .ok parts
  | none => .error "runtime error: index out of range [1] with length 1"

/-- `EncodeValue`: the version's bytes, then the value unless it is nil. -/
def encodeValue (value : Option Bytes) (version : Height) : Bytes :=
  version.toBytes ++ value.getD []

def decodeValue (encodedValue : Bytes) : Except String (Bytes × Height) := do
  let (height, n) ← newHeightFromBytes encodedValue
  pure (encodedValue.drop n, height)

def applyUpdate (ns : String) (db : List (Bytes × Bytes)) (update : Bytes × VersionedValue) :
    List (Bytes × Bytes) :=
  let compositeKey := constructCompositeKey ns update.1
  match update.2.value with
  | none => erase compositeKey db
  | some value => insert compositeKey (encodeValue (some value) update.2.version) db

/-- `ApplyUpdates` from an update batch whose `GetUpdatedNamespaces` are `namespaces`: every
update goes into one leveldb batch, followed by the savepoint. -/
def applyUpdates (db : List (Bytes × Bytes)) (batch : UpdateBatch Bytes) (namespaces : List String)
    (height : Height) : List (Bytes × Bytes) :=
  let updated := namespaces.foldl (fun db ns => (batch.updates ns).foldl (applyUpdate ns) db) db
  insert savePointKey height.toBytes updated

/-- `kvScanner.Next`: the key after the namespace, and the value and version decoded. -/
def kvScannerNext (entry : Bytes × Bytes) : Except String (Bytes × VersionedValue) := do
  let (_, key) ← splitCompositeKey entry.1
  let (value, version) ← decodeValue entry.2
  pure (key, ⟨some value, version⟩)

def getStateRangeScanIterator (db : List (Bytes × Bytes)) (ns : String) (startKey endKey : Bytes) :
    Except String (List (Bytes × VersionedValue)) :=
  let compositeStartKey := constructCompositeKey ns startKey
  let compositeEndKey :=
    if endKey = [] then (constructCompositeKey ns endKey).set ((constructCompositeKey ns endKey).length - 1)
      lastKeyIndicator
    else constructCompositeKey ns endKey
  (OrderedStore.scan compositeStartKey (some compositeEndKey) db).mapM kvScannerNext

-- A namespace free of the byte `0x00` is cut off a composite key exactly, and the composite keys of
-- one namespace are ordered as their keys.

section Keys

variable {ns : String}

theorem nsBytes_injective : Function.Injective nsBytes := fun ns ns' same => by
  have bytes : ns.toUTF8 = ns'.toUTF8 := ByteArray.ext (Array.ext' same)
  rwa [String.toUTF8_eq_toByteArray, String.toUTF8_eq_toByteArray, String.toByteArray_inj] at bytes

theorem splitFirst_sep_append : ∀ {pre : Bytes}, 0 ∉ pre → ∀ key : Bytes,
    Historydb.splitFirst compositeKeySep (pre ++ compositeKeySep ++ key) = some (pre, key)
  | [], _, key => Historydb.splitFirst_append (by decide) key
  | b :: pre, free, key => by
    have other : b ≠ 0 := fun same => free (same ▸ List.mem_cons_self)
    have rest : 0 ∉ pre := fun member => free (List.mem_cons_of_mem b member)
    -- the separator does not start at `b`
    have skipped : compositeKeySep.isPrefixOf (b :: (pre ++ compositeKeySep ++ key)) = false := by
      simp [compositeKeySep, List.isPrefixOf, Ne.symm other]
    show Historydb.splitFirst compositeKeySep (b :: (pre ++ compositeKeySep ++ key)) = some (b :: pre, key)
    rw [Historydb.splitFirst, skipped, if_neg Bool.false_ne_true, splitFirst_sep_append rest key]
    rfl

theorem splitCompositeKey_constructCompositeKey (free : 0 ∉ nsBytes ns) (key : Bytes) :
    splitCompositeKey (constructCompositeKey ns key) = .ok (nsBytes ns, key) := by
  rw [splitCompositeKey, constructCompositeKey, splitFirst_sep_append free]

theorem constructCompositeKey_lt_iff (ns : String) {key key' : Bytes} :
    constructCompositeKey ns key < constructCompositeKey ns key' ↔ key < key' := by
  rw [constructCompositeKey, constructCompositeKey, List.append_assoc, List.append_assoc]
  exact (OrderedStore.append_left_lt_iff _).trans (OrderedStore.append_left_lt_iff _)

theorem constructCompositeKey_strictMono (ns : String) : StrictMono (constructCompositeKey ns) :=
  fun _ _ below => (constructCompositeKey_lt_iff ns).mpr below

theorem constructCompositeKey_injective (ns : String) : Function.Injective (constructCompositeKey ns) :=
  fun _ _ same => List.append_cancel_left same

theorem constructCompositeKey_ne (free : 0 ∉ nsBytes ns) {ns' : String} (other : ns' ≠ ns)
    (apart : ¬(nsBytes ns ++ compositeKeySep) <+: nsBytes ns') (key key' : Bytes) :
    constructCompositeKey ns' key' ≠ constructCompositeKey ns key := by
  intro same
  rw [constructCompositeKey, constructCompositeKey, List.append_assoc, List.append_assoc,
    List.append_eq_append_iff] at same
  rcases same with ⟨more, longer, rest⟩ | ⟨more, longer, rest⟩
  · -- `ns` is `ns'` followed by `more`, which starts with the separator
    cases more with
    | nil => exact other (nsBytes_injective (by simpa using longer.symm))
    | cons b more =>
      have zero : b = 0 := (List.cons.inj rest).1.symm
      exact free (longer ▸ List.mem_append_right _ (zero ▸ List.mem_cons_self))
  · cases more with
    | nil => exact other (nsBytes_injective (by simpa using longer))
    | cons b more =>
      have zero : b = 0 := (List.cons.inj rest).1.symm
      exact apart ⟨more, by rw [longer, zero, compositeKeySep, List.append_assoc, List.singleton_append]⟩

theorem compositeEndKey_eq (ns : String) (endKey : Bytes) :
    (if endKey = [] then (constructCompositeKey ns endKey).set ((constructCompositeKey ns endKey).length - 1)
        lastKeyIndicator
      else constructCompositeKey ns endKey) =
      if endKey = [] then nsBytes ns ++ [lastKeyIndicator] else constructCompositeKey ns endKey := by
  split_ifs with unbounded
  · subst unbounded
    simp [constructCompositeKey, compositeKeySep, List.set_append_right]
  · rfl

theorem exists_key_of_between {startKey compositeKey : Bytes}
    (notBelow : ¬compositeKey < constructCompositeKey ns startKey)
    (below : compositeKey < nsBytes ns ++ [lastKeyIndicator]) :
    ∃ key, compositeKey = constructCompositeKey ns key := by
  have notBelowNs : ¬compositeKey < nsBytes ns := fun less => notBelow (by
    rw [constructCompositeKey, List.append_assoc]
    exact List.Lex.append_right _ _ less)
  obtain ⟨rest, rfl⟩ := OrderedStore.prefix_of_between notBelowNs below
  rw [OrderedStore.append_left_lt_iff] at below
  rw [constructCompositeKey, List.append_assoc, OrderedStore.append_left_lt_iff] at notBelow
  cases rest with
  | nil => exact absurd (List.nil_lt_cons _ _) notBelow
  | cons b key =>
    -- the rest starts below `0x01`, so with the separator
    have zero : b = 0 := by
      rcases List.cons_lt_cons_iff.mp below with less | ⟨_, never⟩
      · simpa [lastKeyIndicator, UInt8.lt_iff_toNat_lt, ← UInt8.toNat_inj] using less
      · exact absurd never (List.not_lt_nil _)
    exact ⟨key, by rw [zero, constructCompositeKey, compositeKeySep, List.append_assoc, List.singleton_append]⟩

theorem composite_between_iff (ns : String) (startKey endKey key : Bytes) :
    (¬constructCompositeKey ns key < constructCompositeKey ns startKey ∧
      constructCompositeKey ns key <
        if endKey = [] then nsBytes ns ++ [lastKeyIndicator] else constructCompositeKey ns endKey) ↔
      inRange startKey endKey key = true := by
  rw [constructCompositeKey_lt_iff]
  split_ifs with unbounded
  · have below : constructCompositeKey ns key < nsBytes ns ++ [lastKeyIndicator] := by
      rw [constructCompositeKey, List.append_assoc]
      exact List.append_left_lt (List.cons_lt_cons_iff.mpr (.inl (by decide)))
    simp [inRange, unbounded, below]
  · rw [constructCompositeKey_lt_iff]
    simp [inRange, unbounded]

end Keys

section Apply

variable {batch : UpdateBatch Bytes} {ns : String}

theorem applyUpdate_ordered (ns : String) {db : List (Bytes × Bytes)} (ordered : Ordered db)
    (update : Bytes × VersionedValue) : Ordered (applyUpdate ns db update) := by
  unfold applyUpdate
  split
  · exact erase_ordered ordered
  · exact insert_ordered ordered

theorem foldl_applyUpdate_ordered (ns : String) :
    ∀ (updates : List (Bytes × VersionedValue)) {db : List (Bytes × Bytes)}, Ordered db →
      Ordered (updates.foldl (applyUpdate ns) db)
  | [], _, ordered => ordered
  | update :: rest, _, ordered => foldl_applyUpdate_ordered ns rest (applyUpdate_ordered ns ordered update)

theorem applyUpdates_ordered (batch : UpdateBatch Bytes) (namespaces : List String) (height : Height)
    {db : List (Bytes × Bytes)} (ordered : Ordered db) : Ordered (applyUpdates db batch namespaces height) := by
  have updated : ∀ (namespaces : List String) {db : List (Bytes × Bytes)}, Ordered db →
      Ordered (namespaces.foldl (fun db ns => (batch.updates ns).foldl (applyUpdate ns) db) db) := by
    intro namespaces
    induction namespaces with
    | nil => exact id
    | cons ns rest ih => exact fun ordered => ih (foldl_applyUpdate_ordered ns _ ordered)
  exact insert_ordered (updated namespaces ordered)

theorem find_foldl_applyUpdate_of_ne {compositeKey : Bytes} :
    ∀ {updates : List (Bytes × VersionedValue)} {db : List (Bytes × Bytes)},
      (∀ update ∈ updates, constructCompositeKey ns update.1 ≠ compositeKey) →
      find compositeKey (updates.foldl (applyUpdate ns) db) = find compositeKey db
  | [], _, _ => rfl
  | update :: rest, db, other => by
    rw [List.foldl_cons, find_foldl_applyUpdate_of_ne fun later member => other later (List.mem_cons_of_mem _ member)]
    have apart := other update List.mem_cons_self
    unfold applyUpdate
    split
    · rw [find_erase, if_neg apart]
    · rw [find_insert, if_neg apart]

theorem find_foldl_applyUpdate (key : Bytes) :
    ∀ {updates : List (Bytes × VersionedValue)} {db : List (Bytes × Bytes)},
      (∀ update ∈ updates, update.2.value.isSome) → Ordered updates →
      find (constructCompositeKey ns key) (updates.foldl (applyUpdate ns) db) =
        ((find key updates).map fun vv => encodeValue vv.value vv.version).or
          (find (constructCompositeKey ns key) db)
  | [], _, _, _ => rfl
  | update :: rest, db, puts, ordered => by
    rw [ordered_cons] at ordered
    rw [List.foldl_cons, find_foldl_applyUpdate key (fun later member => puts later (List.mem_cons_of_mem _ member))
      ordered.2]
    obtain ⟨value, put⟩ := Option.isSome_iff_exists.mp (puts update List.mem_cons_self)
    have step : applyUpdate ns db update =
        insert (constructCompositeKey ns update.1) (encodeValue update.2.value update.2.version) db := by
      simp [applyUpdate, put]
    rw [step, find_insert, find_cons]
    by_cases same : update.1 = key
    · -- the later updates have larger keys
      have later : find key rest = none := find_eq_none_of_lt fun entry member => same ▸ ordered.1 entry member
      simp [same, later]
    · simp [same, (constructCompositeKey_injective ns).ne same]

variable (free : 0 ∉ nsBytes ns)
  (puts : ∀ ns' update, update ∈ batch.updates ns' → update.2.value.isSome)
  (apart : ∀ ns', ns' ≠ ns → batch.updates ns' ≠ [] → ¬(nsBytes ns ++ compositeKeySep) <+: nsBytes ns')
include free puts apart

theorem find_pass (ns' : String) (db : List (Bytes × Bytes)) (key : Bytes) :
    find (constructCompositeKey ns key) ((batch.updates ns').foldl (applyUpdate ns') db) =
      if ns' = ns then
        ((find key (batch.updates ns)).map fun vv => encodeValue vv.value vv.version).or
          (find (constructCompositeKey ns key) db)
      else find (constructCompositeKey ns key) db := by
  split_ifs with same
  · subst same
    exact find_foldl_applyUpdate key (puts ns') (batch.ordered ns')
  · by_cases empty : batch.updates ns' = []
    · rw [empty, List.foldl_nil]
    · exact find_foldl_applyUpdate_of_ne fun update _ =>
        constructCompositeKey_ne free same (apart ns' same empty) key update.1

theorem find_passes (key : Bytes) :
    ∀ (namespaces : List String) (db : List (Bytes × Bytes)),
      (find (constructCompositeKey ns key) db = none ∨
        find (constructCompositeKey ns key) db =
          (find key (batch.updates ns)).map fun vv => encodeValue vv.value vv.version) →
      find (constructCompositeKey ns key)
          (namespaces.foldl (fun db ns => (batch.updates ns).foldl (applyUpdate ns) db) db) =
        if ns ∈ namespaces then (find key (batch.updates ns)).map fun vv => encodeValue vv.value vv.version
        else find (constructCompositeKey ns key) db
  | [], _, _ => rfl
  | ns' :: rest, db, before => by
    have pass := find_pass free puts apart ns' db key
    -- after this namespace, the key holds nothing or the encoded update, as before
    have after : find (constructCompositeKey ns key) ((batch.updates ns').foldl (applyUpdate ns') db) = none ∨
        find (constructCompositeKey ns key) ((batch.updates ns').foldl (applyUpdate ns') db) =
          (find key (batch.updates ns)).map fun vv => encodeValue vv.value vv.version := by
      rw [pass]
      split_ifs
      · rcases before with known | known <;> rw [known] <;>
          cases find key (batch.updates ns) <;> simp
      · exact before
    rw [List.foldl_cons, find_passes key rest _ after, pass]
    by_cases later : ns ∈ rest
    · simp [later]
    · by_cases same : ns' = ns
      · subst same
        rcases before with known | known <;> rw [known] <;> cases find key (batch.updates ns') <;> simp
      · simp [later, Ne.symm same, same]

theorem find_applyUpdates (named : nsBytes ns ≠ []) {namespaces : List String}
    (listed : ∀ ns', batch.updates ns' ≠ [] → ns' ∈ namespaces) (height : Height) (key : Bytes) :
    find (constructCompositeKey ns key) (applyUpdates [] batch namespaces height) =
      (find key (batch.updates ns)).map fun vv => encodeValue vv.value vv.version := by
  -- the savepoint is not a composite key of `ns`
  have notSavePoint : savePointKey ≠ constructCompositeKey ns key := by
    intro same
    have lengths := congrArg List.length same
    simp [savePointKey, constructCompositeKey, compositeKeySep] at lengths
    exact named (List.length_eq_zero_iff.mp (by omega))
  rw [applyUpdates, find_insert, if_neg notSavePoint, find_passes free puts apart key namespaces [] (.inl rfl)]
  split_ifs with applied
  · rfl
  · -- a namespace that is not applied has no updates
    have empty : batch.updates ns = [] := by
      by_contra updated
      exact applied (listed ns updated)
    simp [empty]

end Apply

section Scan

variable {ns : String}

theorem nsBytes_ne_nil {ns : String} (named : ns ≠ "") : nsBytes ns ≠ [] := fun empty =>
  named (nsBytes_injective (empty.trans rfl))

theorem decodeValue_encodeValue {version : Height} (fits : version.Fits) (value : Bytes) :
    decodeValue (encodeValue (some value) version) = .ok (value, version) := by
  rw [decodeValue, encodeValue, Option.getD_some, newHeightFromBytes_toBytes_append fits]
  simp only [Except.ok_bind, List.drop_left]
  rfl

theorem kvScannerNext_put (free : 0 ∉ nsBytes ns) {version : Height} (fits : version.Fits)
    (key value : Bytes) :
    kvScannerNext (constructCompositeKey ns key, encodeValue (some value) version) =
      .ok (key, ⟨some value, version⟩) := by
  rw [kvScannerNext, splitCompositeKey_constructCompositeKey free]
  simp only [Except.ok_bind, decodeValue_encodeValue fits]
  rfl

theorem scan_applyUpdates {batch : UpdateBatch Bytes} (named : ns ≠ "") (free : 0 ∉ nsBytes ns)
    (puts : ∀ ns' update, update ∈ batch.updates ns' → update.2.value.isSome)
    (apart : ∀ ns', ns' ≠ ns → batch.updates ns' ≠ [] → ¬(nsBytes ns ++ compositeKeySep) <+: nsBytes ns')
    {namespaces : List String} (listed : ∀ ns', batch.updates ns' ≠ [] → ns' ∈ namespaces)
    (height : Height) (startKey endKey : Bytes) :
    OrderedStore.scan (constructCompositeKey ns startKey)
        (some (if endKey = [] then nsBytes ns ++ [lastKeyIndicator] else constructCompositeKey ns endKey))
        (applyUpdates [] batch namespaces height) =
      ((batch.updates ns).filter fun update => inRange startKey endKey update.1).map
        fun update => (constructCompositeKey ns update.1, encodeValue update.2.value update.2.version) := by
  have ordered := applyUpdates_ordered batch namespaces height (ordered_nil : Ordered ([] : List (Bytes × Bytes)))
  rw [OrderedStore.scan]
  apply eq_of_find_eq (ordered.filter _) (((batch.ordered ns).filter _).map
    (constructCompositeKey_strictMono ns) fun vv => encodeValue vv.value vv.version)
  intro compositeKey
  rw [find_filter ordered]
  by_cases composite : ∃ key, compositeKey = constructCompositeKey ns key
  · obtain ⟨key, rfl⟩ := composite
    have mapped := find_map (constructCompositeKey_injective ns)
      (fun vv : VersionedValue => encodeValue vv.value vv.version) key
      ((batch.updates ns).filter fun update => inRange startKey endKey update.1)
    rw [mapped, find_filter (batch.ordered ns), find_applyUpdates free puts apart (nsBytes_ne_nil named) listed]
    have range := composite_between_iff ns startKey endKey key
    cases find key (batch.updates ns) <;> simp [Option.filter, ← range, Option.all]
  · -- a key in the scanned range is a composite key of `ns`
    have outside : ∀ key, constructCompositeKey ns key ≠ compositeKey := fun key same => composite ⟨key, same.symm⟩
    have mapped := find_map_of_not_mem_range (fun vv : VersionedValue => encodeValue vv.value vv.version)
      outside ((batch.updates ns).filter fun update => inRange startKey endKey update.1)
    rw [mapped]
    cases find compositeKey (applyUpdates [] batch namespaces height) with
    | none => rfl
    | some value =>
      simp only [Option.filter, Option.all, Bool.and_eq_true, Bool.not_eq_true', decide_eq_false_iff_not,
        decide_eq_true_eq, ite_eq_right_iff, reduceCtorEq, imp_false, not_and]
      intro notBelow below
      have belowNs : compositeKey < nsBytes ns ++ [lastKeyIndicator] := by
        split_ifs at below with unbounded
        · exact below
        · refine lt_trans below ?_
          rw [constructCompositeKey, List.append_assoc]
          exact List.append_left_lt (List.cons_lt_cons_iff.mpr (.inl (by decide)))
      exact composite (exists_key_of_between notBelow belowNs)

end Scan

/-- For a non-empty namespace free of `0x00`, whose bytes followed by `0x00` start no other
namespace of the batch, the leveldb scan of the database that `ApplyUpdates` writes from a batch
of puts yields what the batch's own scan yields: the same keys in the same order, with the same
values and versions. -/
theorem leveldb_range_scan_matches_batch (batch : UpdateBatch Bytes) (namespaces : List String)
    (height : Height) (ns : String) (startKey endKey : Bytes) (named : ns ≠ "") (free : 0 ∉ nsBytes ns)
    (puts : ∀ ns' update, update ∈ batch.updates ns' → update.2.value.isSome)
    (fits : ∀ ns' update, update ∈ batch.updates ns' → update.2.version.Fits)
    (apart : ∀ ns', ns' ≠ ns → batch.updates ns' ≠ [] → ¬(nsBytes ns ++ compositeKeySep) <+: nsBytes ns')
    (listed : ∀ ns', batch.updates ns' ≠ [] → ns' ∈ namespaces) :
    getStateRangeScanIterator (applyUpdates [] batch namespaces height) ns startKey endKey =
      .ok (batch.getRangeScanIterator ns startKey endKey) := by
  rw [getStateRangeScanIterator, compositeEndKey_eq, scan_applyUpdates named free puts apart listed, List.mapM_map,
    UpdateBatch.getRangeScanIterator_eq_filter]
  -- every scanned entry decodes to the update it was written from
  have decoded : ∀ update ∈ (batch.updates ns).filter fun update => inRange startKey endKey update.1,
      (kvScannerNext ∘ fun update => (constructCompositeKey ns update.1,
        encodeValue update.2.value update.2.version)) update = pure update := by
    rintro ⟨key, ⟨value, version⟩⟩ member
    have written := (List.mem_filter.mp member).1
    obtain ⟨bytes, rfl⟩ := Option.isSome_iff_exists.mp (puts ns _ written)
    exact kvScannerNext_put free (fits ns _ written) key bytes
  rw [List.mapM_congr decoded, List.mapM_pure, List.map_id']
  rfl

def lsccPuts : UpdateBatch Bytes :=
  ((UpdateBatch.empty : UpdateBatch Bytes).put "lscc" [1, 0, 2] [7] ⟨3, 1⟩).put "lscc" [1] [8] ⟨3, 2⟩

theorem lsccPuts_updates (ns' : String) :
    lsccPuts.updates ns' =
      if ns' = "lscc" then [([1], ⟨some [8], ⟨3, 2⟩⟩), ([1, 0, 2], ⟨some [7], ⟨3, 1⟩⟩)] else [] := by
  by_cases lscc : ns' = "lscc"
  · subst lscc
    rfl
  · simp [lsccPuts, UpdateBatch.put, UpdateBatch.update, UpdateBatch.empty, lscc]

theorem leveldb_range_scan_matches_batch_on_lscc :
    getStateRangeScanIterator (applyUpdates [] lsccPuts ["lscc"] ⟨3, 2⟩) "lscc" [] [] =
      .ok (lsccPuts.getRangeScanIterator "lscc" [] []) := by
  refine leveldb_range_scan_matches_batch lsccPuts ["lscc"] ⟨3, 2⟩ "lscc" [] [] (by decide) (by decide)
    (fun ns' => ?_) (fun ns' => ?_) (fun ns' other => ?_) (fun ns' => ?_)
  all_goals rw [lsccPuts_updates]
  · split_ifs <;> decide
  · split_ifs <;> decide
  · rw [if_neg other]
    exact fun updated => absurd rfl updated
  · split_ifs with lscc
    · exact fun _ => List.mem_singleton.mpr lscc
    · exact fun updated => absurd rfl updated

/-- The savepoint is stored under `0x00`, the composite key of the empty key of the empty
namespace, so the scan of the empty namespace from the empty key returns it as a key of its own,
which the batch does not have. -/
theorem empty_namespace_scan_returns_the_savepoint :
    let batch := (UpdateBatch.empty : UpdateBatch Bytes).put "" [107] [118] ⟨1, 0⟩
    getStateRangeScanIterator (applyUpdates [] batch [""] ⟨1, 0⟩) "" [] [] =
        .ok [([], ⟨some [], ⟨1, 0⟩⟩), ([107], ⟨some [118], ⟨1, 0⟩⟩)] ∧
      batch.getRangeScanIterator "" [] [] = [([107], ⟨some [118], ⟨1, 0⟩⟩)] :=
  ⟨rfl, rfl⟩

/-- The namespaces of a batch must not extend the scanned one by `0x00`: the keys of the namespace
`a 0x00 b` are stored inside the range of `a`, and the scan of `a` returns one of them as a key of
its own, which the batch does not have in `a`. -/
theorem nested_namespace_scan_returns_its_keys :
    getStateRangeScanIterator
        (applyUpdates [] (((UpdateBatch.empty : UpdateBatch Bytes).put "a" [1] [7] ⟨1, 0⟩).put
          "a\x00b" [2] [8] ⟨1, 0⟩) ["a", "a\x00b"] ⟨1, 0⟩) "a" [] [] =
        .ok [([1], ⟨some [7], ⟨1, 0⟩⟩), ([0x62, 0, 2], ⟨some [8], ⟨1, 0⟩⟩)] ∧
      (((UpdateBatch.empty : UpdateBatch Bytes).put "a" [1] [7] ⟨1, 0⟩).put
          "a\x00b" [2] [8] ⟨1, 0⟩).getRangeScanIterator "a" [] [] =
        [([1], ⟨some [7], ⟨1, 0⟩⟩)] :=
  ⟨rfl, rfl⟩

end Fabric.Stateleveldb
