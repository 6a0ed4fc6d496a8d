import Fabric.Ledger.Version
import Fabric.Ledger.PurgeMgr

/-! The expiry keeper as `expKeeper` stores it (`pvtstatepurgemgmt/expiry_keeper.go`). Each
schedule entry lives in the bookkeeping leveldb under the key `'1' enc(expiryBlk)
enc(committingBlk)`, `enc` being the order-preserving encoding of `common/ledger/util`, with the
marshalled private data keys as its value. `updateBookkeeping` writes one batch of puts and
deletes, and `retrieve` scans the keys from `(n, 0)` up to `(n + 1, 0)`.

The keeper is there for a schedule: a map from expiry keys to the private data keys last tracked
under them and not cleared since. The database represents the schedule after every call, and the
scan at `n` finds exactly the schedule's entries that expire at `n`. -/

namespace Fabric.Pvtstatepurgemgmt.Bookkeeping

open SortedAssoc Historydb

attribute [local instance] Stateleveldb.byteOrder

def expiryPrefix : UInt8 := 0x31

structure ExpiryInfoKey where
  committingBlk : UInt64
  expiryBlk : UInt64
  deriving DecidableEq, Repr

/-- `proto.Marshal` and `proto.Unmarshal` of the private data keys, the only use the keeper
makes of them: unmarshalling reads back what marshalling writes. -/
structure ProtoCodec (V : Type) where
  marshal : V → Bytes
  unmarshal : Bytes → Except String V
  unmarshal_marshal : ∀ value, unmarshal (marshal value) = .ok value

variable {V : Type} (codec : ProtoCodec V)

def encodeExpiryInfoKey (expinfoKey : ExpiryInfoKey) : Bytes :=
  expiryPrefix :: (encodeOrderPreservingVarUint64 expinfoKey.expiryBlk ++
    encodeOrderPreservingVarUint64 expinfoKey.committingBlk)

def encodeExpiryInfoValue (pvtdataKeys : V) : Bytes := codec.marshal pvtdataKeys

def encodeKV (expinfo : ExpiryInfoKey × V) : Bytes × Bytes :=
  (encodeExpiryInfoKey expinfo.1, encodeExpiryInfoValue codec expinfo.2)

/-- `decodeExpiryInfo`; Go's `key[1:]` panics on an empty key. -/
def decodeExpiryInfo (key value : Bytes) : Except String (ExpiryInfoKey × V) := do
  if key = [] then throw "runtime error: slice bounds out of range [1:0]"
  let (expiryBlk, n) ← decodeOrderPreservingVarUint64 (key.drop 1)
  let (committingBlk, _) ← decodeOrderPreservingVarUint64 (key.drop (n + 1))
  let pvtdataKeys ← codec.unmarshal value
  pure (⟨committingBlk, expiryBlk⟩, pvtdataKeys)

/-- `leveldbhelper.UpdateBatch`: one write per key, `none` for a delete. -/
abbrev UpdateBatch := List (Bytes × Option Bytes)

def UpdateBatch.put (batch : UpdateBatch) (key value : Bytes) : UpdateBatch := insert key (some value) batch

def UpdateBatch.delete (batch : UpdateBatch) (key : Bytes) : UpdateBatch := insert key none batch

/-- `expKeeper`: the bookkeeping database, its keys in leveldb's order. -/
structure ExpKeeper where
  db : List (Bytes × Bytes)

/-- `DBHandle.WriteBatch`. Go walks the batch's map in no fixed order; its keys are distinct, so
the order does not change the database. -/
def ExpKeeper.writeBatch (ek : ExpKeeper) (updateBatch : UpdateBatch) : ExpKeeper :=
  ⟨applyBatch updateBatch ek.db⟩

def ExpKeeper.updateBookkeeping (ek : ExpKeeper) (toTrack : List (ExpiryInfoKey × V))
    (toClear : List ExpiryInfoKey) : ExpKeeper :=
  let updateBatch := toTrack.foldl (fun (batch : UpdateBatch) expinfo =>
    batch.put (encodeKV codec expinfo).1 (encodeKV codec expinfo).2) []
  let updateBatch := toClear.foldl (fun (batch : UpdateBatch) expinfokey =>
    batch.delete (encodeExpiryInfoKey expinfokey)) updateBatch
  ek.writeBatch updateBatch

def ExpKeeper.retrieve (ek : ExpKeeper) (expiringAtBlkNum : UInt64) :
    Except String (List (ExpiryInfoKey × V)) :=
  let startKey := encodeExpiryInfoKey ⟨0, expiringAtBlkNum⟩
  let endKey := encodeExpiryInfoKey ⟨0, expiringAtBlkNum + 1⟩
  (OrderedStore.scan startKey (some endKey) ek.db).mapM fun entry => decodeExpiryInfo codec entry.1 entry.2

theorem ProtoCodec.marshal_injective : Function.Injective codec.marshal := by
  intro value value' same
  have read := codec.unmarshal_marshal value
  rw [same, codec.unmarshal_marshal] at read
  exact (Except.ok.inj read).symm

theorem encodeExpiryInfoKey_injective : Function.Injective encodeExpiryInfoKey := by
  intro key key' same
  obtain ⟨committing, expiry⟩ := key
  obtain ⟨committing', expiry'⟩ := key'
  simp only [encodeExpiryInfoKey, List.cons.injEq, true_and] at same
  -- the expiry blocks are read back alike, and then what follows them is equal
  have decoded := decodeOrderPreservingVarUint64_encode_append expiry (encodeOrderPreservingVarUint64 committing)
  rw [same, decodeOrderPreservingVarUint64_encode_append] at decoded
  obtain rfl : expiry' = expiry := (Prod.mk.inj (Except.ok.inj decoded)).1
  rw [ExpiryInfoKey.mk.injEq]
  exact ⟨encodeOrderPreservingVarUint64_injective (List.append_cancel_left same), rfl⟩

theorem encodeKV_injective : Function.Injective (encodeKV codec) := by
  intro expinfo expinfo' same
  rw [encodeKV, encodeKV, Prod.mk.injEq] at same
  exact Prod.ext (encodeExpiryInfoKey_injective same.1) (codec.marshal_injective same.2)

theorem decodeExpiryInfo_encodeKV (expinfo : ExpiryInfoKey × V) :
    decodeExpiryInfo codec (encodeKV codec expinfo).1 (encodeKV codec expinfo).2 = .ok expinfo := by
  obtain ⟨⟨committing, expiry⟩, pvtdataKeys⟩ := expinfo
  have rest : encodeOrderPreservingVarUint64 committing = encodeOrderPreservingVarUint64 committing ++ [] :=
    (List.append_nil _).symm
  simp only [decodeExpiryInfo, encodeKV, encodeExpiryInfoKey, encodeExpiryInfoValue, reduceCtorEq, if_false,
    List.drop_succ_cons, List.drop_zero, decodeOrderPreservingVarUint64_encode_append, Except.ok_bind, List.drop_left]
  rw [rest, decodeOrderPreservingVarUint64_encode_append, Except.ok_bind, codec.unmarshal_marshal, Except.ok_bind]
  rfl

theorem encodeExpiryInfoKey_lt_iff (key key' : ExpiryInfoKey) :
    encodeExpiryInfoKey key < encodeExpiryInfoKey key' ↔
      key.expiryBlk < key'.expiryBlk ∨ key.expiryBlk = key'.expiryBlk ∧ key.committingBlk < key'.committingBlk := by
  rw [encodeExpiryInfoKey, encodeExpiryInfoKey, List.cons_lt_cons_iff, encode_append_lt_encode_append_iff,
    encodeOrderPreservingVarUint64_lt_iff]
  simp only [lt_irrefl, true_and, false_or]

theorem encodeExpiryInfoKey_between_iff (key : ExpiryInfoKey) {n : UInt64} (notLast : n.toNat < 2 ^ 64 - 1) :
    (¬encodeExpiryInfoKey key < encodeExpiryInfoKey ⟨0, n⟩ ∧
      encodeExpiryInfoKey key < encodeExpiryInfoKey ⟨0, n + 1⟩) ↔ key.expiryBlk = n := by
  have next : (n + 1).toNat = n.toNat + 1 := by
    rw [UInt64.toNat_add, UInt64.toNat_one]
    omega
  rw [encodeExpiryInfoKey_lt_iff, encodeExpiryInfoKey_lt_iff]
  simp only [UInt64.lt_iff_toNat_lt, ← UInt64.toNat_inj, next, UInt64.toNat_zero]
  omega

section Schedule

variable {κ : Type} [DecidableEq κ]

def track (schedule : κ → Option V) (toTrack : List (κ × V)) (toClear : List κ) : κ → Option V :=
  toClear.foldl (fun schedule expinfoKey => Function.update schedule expinfoKey none)
    (toTrack.foldl (fun schedule expinfo => Function.update schedule expinfo.1 (some expinfo.2)) schedule)

def scheduleOf (calls : List (List (κ × V) × List κ)) : κ → Option V :=
  calls.foldl (fun schedule call => track schedule call.1 call.2) fun _ => none

def bookkeepingWrites (toTrack : List (κ × V)) (toClear : List κ) : List (κ × Option V) :=
  toTrack.map (fun expinfo => (expinfo.1, some expinfo.2)) ++ toClear.map fun expinfoKey => (expinfoKey, none)

theorem track_eq (schedule : κ → Option V) (toTrack : List (κ × V)) (toClear : List κ) :
    track schedule toTrack toClear =
      (bookkeepingWrites toTrack toClear).foldl (fun schedule w => Function.update schedule w.1 w.2) schedule := by
  rw [track, bookkeepingWrites, List.foldl_append, List.foldl_map, List.foldl_map]

end Schedule

structure Represents (db : List (Bytes × Bytes)) (schedule : ExpiryInfoKey → Option V) : Prop where
  ordered : Ordered db
  encoded : ∀ entry ∈ db, ∃ key, entry.1 = encodeExpiryInfoKey key
  find_encoded : ∀ key, find (encodeExpiryInfoKey key) db = (schedule key).map codec.marshal

theorem represents_nil : Represents codec [] fun _ => none :=
  ⟨ordered_nil, by simp, fun _ => rfl⟩

variable {codec}

theorem Represents.update {db : List (Bytes × Bytes)} {schedule : ExpiryInfoKey → Option V}
    (represents : Represents codec db schedule) (key : ExpiryInfoKey) (value : Option V) :
    Represents codec (write db (encodeExpiryInfoKey key, value.map codec.marshal))
      (Function.update schedule key value) := by
  constructor
  · exact write_ordered represents.ordered _
  · intro entry member
    rcases mem_write member with same | kept
    · exact ⟨key, same⟩
    · exact represents.encoded entry kept
  · intro other
    by_cases same : other = key
    · rw [same, find_write, if_pos rfl, Function.update_self]
    · rw [find_write, if_neg (encodeExpiryInfoKey_injective.ne (Ne.symm same)), Function.update_of_ne same,
        represents.find_encoded]

theorem Represents.foldl_update :
    ∀ (writes : List (ExpiryInfoKey × Option V)) {db : List (Bytes × Bytes)} {schedule : ExpiryInfoKey → Option V},
      Represents codec db schedule →
        Represents codec (writes.foldl (fun db w => write db (encodeExpiryInfoKey w.1, w.2.map codec.marshal)) db)
          (writes.foldl (fun schedule w => Function.update schedule w.1 w.2) schedule)
  | [], _, _, represents => represents
  | w :: rest, _, _, represents => Represents.foldl_update rest (represents.update w.1 w.2)

variable (codec)

theorem updateBookkeeping_db {ek : ExpKeeper} (ordered : Ordered ek.db) (toTrack : List (ExpiryInfoKey × V))
    (toClear : List ExpiryInfoKey) :
    (ek.updateBookkeeping codec toTrack toClear).db =
      (bookkeepingWrites toTrack toClear).foldl
        (fun db w => write db (encodeExpiryInfoKey w.1, w.2.map codec.marshal)) ek.db := by
  have batch : toClear.foldl (fun (batch : UpdateBatch) expinfokey => batch.delete (encodeExpiryInfoKey expinfokey))
      (toTrack.foldl (fun (batch : UpdateBatch) expinfo =>
        batch.put (encodeKV codec expinfo).1 (encodeKV codec expinfo).2) []) =
      ((bookkeepingWrites toTrack toClear).map fun w => (encodeExpiryInfoKey w.1, w.2.map codec.marshal)).foldl
        (fun batch op => insert op.1 op.2 batch) [] := by
    simp only [bookkeepingWrites, List.map_append, List.map_map, List.foldl_append, List.foldl_map]
    rfl
  rw [ExpKeeper.updateBookkeeping, ExpKeeper.writeBatch]
  dsimp only
  rw [batch, applyBatch_foldl_insert ordered _ ordered_nil, List.foldl_map]
  rfl

variable {codec}

theorem Represents.updateBookkeeping {ek : ExpKeeper} {schedule : ExpiryInfoKey → Option V}
    (represents : Represents codec ek.db schedule) (toTrack : List (ExpiryInfoKey × V))
    (toClear : List ExpiryInfoKey) :
    Represents codec (ek.updateBookkeeping codec toTrack toClear).db (track schedule toTrack toClear) := by
  rw [updateBookkeeping_db codec represents.ordered, track_eq]
  exact Represents.foldl_update _ represents

theorem Represents.run :
    ∀ (calls : List (List (ExpiryInfoKey × V) × List ExpiryInfoKey)) {ek : ExpKeeper}
      {schedule : ExpiryInfoKey → Option V}, Represents codec ek.db schedule →
        Represents codec (calls.foldl (fun ek call => ek.updateBookkeeping codec call.1 call.2) ek).db
          (calls.foldl (fun schedule call => track schedule call.1 call.2) schedule)
  | [], _, _, represents => represents
  | call :: rest, _, _, represents => Represents.run rest (represents.updateBookkeeping call.1 call.2)

theorem Represents.retrieve {ek : ExpKeeper} {schedule : ExpiryInfoKey → Option V}
    (represents : Represents codec ek.db schedule) {n : UInt64} (notLast : n.toNat < 2 ^ 64 - 1) :
    ∃ result, ek.retrieve codec n = .ok result ∧
      (∀ key value, (key, value) ∈ result ↔ key.expiryBlk = n ∧ schedule key = some value) ∧
      (result.map fun expinfo => expinfo.1.committingBlk).Pairwise (· < ·) := by
  -- each scanned entry is the encoding of an entry of the schedule that expires at `n`
  have scanned : ∀ entry ∈ OrderedStore.scan (encodeExpiryInfoKey ⟨0, n⟩) (some (encodeExpiryInfoKey ⟨0, n + 1⟩))
      ek.db, ∃ expinfo : ExpiryInfoKey × V, (expinfo.1.expiryBlk = n ∧ schedule expinfo.1 = some expinfo.2) ∧
        encodeKV codec expinfo = entry := by
    rintro ⟨storedKey, storedValue⟩ member
    obtain ⟨kept, above, below⟩ := OrderedStore.mem_scan.mp member
    obtain ⟨key, rfl⟩ := represents.encoded _ kept
    have found := represents.find_encoded key
    rw [(find_eq_some_iff represents.ordered).mpr kept] at found
    obtain ⟨value, scheduled, rfl⟩ := Option.map_eq_some_iff.mp found.symm
    exact ⟨(key, value), ⟨(encodeExpiryInfoKey_between_iff key notLast).mp ⟨above, below _ rfl⟩, scheduled⟩, rfl⟩
  obtain ⟨expinfos, due, mapped⟩ := List.exists_map_eq_of_forall scanned
  refine ⟨expinfos, ?_, fun key value => ⟨fun member => due _ member, ?_⟩, ?_⟩
  · rw [ExpKeeper.retrieve, ← mapped]
    exact Except.mapM_map_eq_ok fun expinfo _ => decodeExpiryInfo_encodeKV codec expinfo
  · rintro ⟨expiring, scheduled⟩
    have stored : encodeKV codec (key, value) ∈ ek.db :=
      (find_eq_some_iff represents.ordered).mp (by rw [represents.find_encoded, scheduled]; rfl)
    have between := (encodeExpiryInfoKey_between_iff key notLast).mpr expiring
    have member : encodeKV codec (key, value) ∈ expinfos.map (encodeKV codec) := by
      rw [mapped, OrderedStore.mem_scan]
      exact ⟨stored, between.1, fun _ bound => by cases bound; exact between.2⟩
    exact (List.mem_map_of_injective (encodeKV_injective codec)).mp member
  · -- the scan walks the keys in order, and keys due at one block are ordered by committing block
    have ordered : (expinfos.map (encodeKV codec)).Pairwise fun entry entry' => entry.1 < entry'.1 := by
      rw [mapped]
      exact represents.ordered.filter _
    rw [List.pairwise_map] at ordered ⊢
    refine ordered.imp_of_mem fun {expinfo expinfo'} member member' less => ?_
    rw [encodeKV, encodeKV, encodeExpiryInfoKey_lt_iff, (due _ member).1, (due _ member').1] at less
    simpa using less

variable (codec)

/-- Over every run of `updateBookkeeping` calls from an empty keeper, `retrieve` at a block `n`
below the largest (where `n + 1` wraps around) returns exactly the entries of the run's schedule
that expire at `n`, each once and in the order of their committing blocks; the key encoding is
injective, decoding inverts it, and the scanned range holds exactly the keys expiring at `n`. -/
theorem expiry_keeper_retrieves_due_schedules (calls : List (List (ExpiryInfoKey × V) × List ExpiryInfoKey))
    {n : UInt64} (notLast : n.toNat < 2 ^ 64 - 1) :
    let expKeeper : ExpKeeper := calls.foldl (fun ek call => ek.updateBookkeeping codec call.1 call.2) ⟨[]⟩
    (∃ result, expKeeper.retrieve codec n = .ok result ∧
      (∀ key value, (key, value) ∈ result ↔ key.expiryBlk = n ∧ scheduleOf calls key = some value) ∧
      (result.map fun expinfo => expinfo.1.committingBlk).Pairwise (· < ·)) ∧
    Function.Injective encodeExpiryInfoKey ∧
    (∀ expinfo, decodeExpiryInfo codec (encodeKV codec expinfo).1 (encodeKV codec expinfo).2 = .ok expinfo) ∧
    ∀ key : ExpiryInfoKey, (¬encodeExpiryInfoKey key < encodeExpiryInfoKey ⟨0, n⟩ ∧
      encodeExpiryInfoKey key < encodeExpiryInfoKey ⟨0, n + 1⟩) ↔ key.expiryBlk = n :=
  ⟨((represents_nil codec).run calls).retrieve notLast, encodeExpiryInfoKey_injective,
    decodeExpiryInfo_encodeKV codec, fun key => encodeExpiryInfoKey_between_iff key notLast⟩

theorem expiry_keeper_retrieves_due_schedules_at_block_three :
    (3 : UInt64).toNat < 2 ^ 64 - 1 ∧
    let codec : ProtoCodec Bytes := ⟨id, .ok, fun _ => rfl⟩
    let calls : List (List (ExpiryInfoKey × Bytes) × List ExpiryInfoKey) := [([(⟨1, 3⟩, [7])], [])]
    let expKeeper : ExpKeeper := calls.foldl (fun ek call => ek.updateBookkeeping codec call.1 call.2) ⟨[]⟩
    (∃ result, expKeeper.retrieve codec 3 = .ok result ∧
      (∀ key value, (key, value) ∈ result ↔ key.expiryBlk = 3 ∧ scheduleOf calls key = some value) ∧
      (result.map fun expinfo => expinfo.1.committingBlk).Pairwise (· < ·)) ∧
    Function.Injective encodeExpiryInfoKey ∧
    (∀ expinfo, decodeExpiryInfo codec (encodeKV codec expinfo).1 (encodeKV codec expinfo).2 = .ok expinfo) ∧
    ∀ key : ExpiryInfoKey, (¬encodeExpiryInfoKey key < encodeExpiryInfoKey ⟨0, 3⟩ ∧
      encodeExpiryInfoKey key < encodeExpiryInfoKey ⟨0, 3 + 1⟩) ↔ key.expiryBlk = 3 :=
  ⟨by decide, expiry_keeper_retrieves_due_schedules ⟨id, .ok, fun _ => rfl⟩ [([(⟨1, 3⟩, [7])], [])] (by decide)⟩

end Fabric.Pvtstatepurgemgmt.Bookkeeping
