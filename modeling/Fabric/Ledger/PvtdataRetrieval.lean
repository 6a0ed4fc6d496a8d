import Mathlib.Data.Prod.Lex
import Mathlib.Data.String.Basic
import Fabric.Ledger.PvtdataStore

/-! What `GetPvtDataByBlockNum` returns for a block whose private data one `Prepare` and one
`Commit` wrote. The store iterates the keys of the block in key order (block, transaction,
namespace, collection), drops the expired and filtered ones, and the assembler groups what is
left by transaction and, within one, by namespace. The result is in normal form: transactions,
namespaces and collections in ascending order, none empty, and flattened it gives back the
write sets the block committed that are still live and pass the filter. -/

namespace Fabric.Pvtdatastorage

open Privacyenabledstate Pvtdatapolicy

def DataKey.lexKey (key : DataKey) : ℕ ×ₗ ℕ ×ₗ String ×ₗ String :=
  toLex (key.blkNum, toLex (key.txNum, toLex (key.ns, key.coll)))

theorem DataKey.lexKey_injective : Function.Injective DataKey.lexKey := by
  intro a b same
  simp only [DataKey.lexKey, toLex_inj, Prod.mk.injEq] at same
  obtain ⟨blk, tx, ns, coll⟩ := same
  cases a
  cases b
  simp_all

theorem DataKey.lt_iff_lexKey (a b : DataKey) : a < b ↔ a.lexKey < b.lexKey := by
  simp only [DataKey.lexKey, Prod.Lex.lt_iff, ofLex_toLex]
  rfl

instance dataKeyStrictTotalOrder : IsStrictTotalOrder DataKey (· < ·) where
  trichotomous a b notBelow notAbove := DataKey.lexKey_injective (le_antisymm
    (not_lt.mp fun above => notAbove ((DataKey.lt_iff_lexKey b a).mpr above))
    (not_lt.mp fun below => notBelow ((DataKey.lt_iff_lexKey a b).mpr below)))
  irrefl a below := lt_irrefl _ ((DataKey.lt_iff_lexKey a a).mp below)
  trans a b c ab bc :=
    (DataKey.lt_iff_lexKey a c).mpr (lt_trans ((DataKey.lt_iff_lexKey a b).mp ab) ((DataKey.lt_iff_lexKey b c).mp bc))

theorem not_lt_empty (s : String) : ¬s < "" := fun below =>
  List.not_lt_nil _ (String.lt_iff_toList_lt.mp below)

theorem inRange_iff_blkNum (blockNum : Nat) (key : DataKey) :
    (¬key < (getDataKeysForRangeScanByBlockNum blockNum).1 ∧ key < (getDataKeysForRangeScanByBlockNum blockNum).2) ↔
      key.blkNum = blockNum := by
  change ¬DataKey.lt key ⟨blockNum, 0, "", ""⟩ ∧ DataKey.lt key ⟨blockNum + 1, 0, "", ""⟩ ↔ _
  simp only [DataKey.lt, not_lt_empty, Nat.not_lt_zero, and_false, or_false]
  omega

theorem DataKey.lt_of_same_block {a b : DataKey} (below : a < b) (same : a.blkNum = b.blkNum) :
    a.txNum < b.txNum ∨ a.txNum = b.txNum ∧ (a.ns < b.ns ∨ a.ns = b.ns ∧ a.coll < b.coll) := by
  rcases below with earlier | ⟨-, later⟩
  · omega
  · exact later

structure NsNormal (nsPvtdata : NsPvtRwSet) : Prop where
  nonempty : nsPvtdata.collPvtRwSets ≠ []
  ascending : (nsPvtdata.collPvtRwSets.map (·.collectionName)).Pairwise (· < ·)

structure TxNormal (txPvtdata : TxPvtData) : Prop where
  nonempty : txPvtdata.writeSet ≠ []
  ascending : (txPvtdata.writeSet.map (·.nameSpace)).Pairwise (· < ·)
  each : ∀ nsPvtdata ∈ txPvtdata.writeSet, NsNormal nsPvtdata

structure NormalForm (blockPvtdata : List TxPvtData) : Prop where
  ascending : (blockPvtdata.map (·.seqInBlock)).Pairwise (· < ·)
  each : ∀ txPvtdata ∈ blockPvtdata, TxNormal txPvtdata

theorem pairwise_append_singleton {β : Type} [Preorder β] {l : List β} {x y : β}
    (ascending : (l ++ [x]).Pairwise (· < ·)) (above : x < y) : (l ++ [x] ++ [y]).Pairwise (· < ·) := by
  rw [List.pairwise_append]
  refine ⟨ascending, List.pairwise_singleton _ _, fun z member y' later => ?_⟩
  rw [List.mem_singleton.mp later]
  rcases List.mem_append.mp member with earlier | last
  · exact lt_trans ((List.pairwise_append.mp ascending).2.2 z earlier x List.mem_cons_self) above
  · exact (List.mem_singleton.mp last) ▸ above

theorem nsNormal_singleton (ns : String) (collPvtdata : CollPvtRwSet) : NsNormal ⟨ns, [collPvtdata]⟩ :=
  ⟨List.cons_ne_nil _ _, List.pairwise_singleton _ _⟩

theorem txNormal_singleton (txNum : Nat) (ns : String) (collPvtdata : CollPvtRwSet) :
    TxNormal ⟨txNum, [⟨ns, [collPvtdata]⟩]⟩ :=
  ⟨List.cons_ne_nil _ _, List.pairwise_singleton _ _, fun _ member =>
    (List.mem_singleton.mp member) ▸ nsNormal_singleton ns collPvtdata⟩

theorem NormalForm.replace_last {acc : List TxPvtData} {last last' : TxPvtData}
    (normal : NormalForm (acc ++ [last])) (same : last'.seqInBlock = last.seqInBlock) (txNormal : TxNormal last') :
    NormalForm (acc ++ [last']) := by
  refine ⟨?_, fun txPvtdata member => ?_⟩
  · have ascending := normal.ascending
    simp only [List.map_append, List.map_singleton] at ascending ⊢
    rwa [same]
  · rcases List.mem_append.mp member with earlier | latest
    · exact normal.each txPvtdata (List.mem_append_left _ earlier)
    · exact (List.mem_singleton.mp latest) ▸ txNormal

theorem NormalForm.append_tx {acc : List TxPvtData} {last next : TxPvtData}
    (normal : NormalForm (acc ++ [last])) (above : last.seqInBlock < next.seqInBlock) (txNormal : TxNormal next) :
    NormalForm (acc ++ [last] ++ [next]) := by
  refine ⟨?_, fun txPvtdata member => ?_⟩
  · have ascending := normal.ascending
    simp only [List.map_append, List.map_singleton] at ascending ⊢
    exact pairwise_append_singleton ascending above
  · rcases List.mem_append.mp member with earlier | latest
    · exact normal.each txPvtdata earlier
    · exact (List.mem_singleton.mp latest) ▸ txNormal

-- `GetPvtDataByBlockNum` feeds the entries it keeps to a transaction assembler, closing it when an
-- entry of another transaction comes. Over entries in key order it is positioned at the last key
-- read: its transaction is that key's, its open namespace that key's namespace, and the last write
-- set of that namespace that key's collection.

structure Positioned (blockNum : Nat) (acc : List TxPvtData) (a : TxPvtdataAssembler) (lastKey : DataKey) :
    Prop where
  normal : NormalForm (acc ++ [a.getTxPvtdata])
  block : lastKey.blkNum = blockNum
  tx : a.txNum = lastKey.txNum
  current : ∃ current, a.currentNsWSet = some current ∧ current.nameSpace = lastKey.ns ∧
    (current.collPvtRwSets.map (·.collectionName)).getLast? = some lastKey.coll

theorem getTxPvtdata_new_add (txNum : Nat) (ns : String) (collPvtdata : CollPvtRwSet) :
    ((TxPvtdataAssembler.new txNum).add ns collPvtdata).getTxPvtdata = ⟨txNum, [⟨ns, [collPvtdata]⟩]⟩ := rfl

theorem positioned_new (blockNum : Nat) {acc : List TxPvtData} {key : DataKey} {value : CollPvtRwSet}
    (normal : NormalForm (acc ++ [⟨key.txNum, [⟨key.ns, [value]⟩]⟩])) (block : key.blkNum = blockNum)
    (named : key.coll = value.collectionName) :
    Positioned blockNum acc ((TxPvtdataAssembler.new key.txNum).add key.ns value) key :=
  ⟨normal, block, rfl, ⟨⟨key.ns, [value]⟩, rfl, rfl, by simp [named]⟩⟩

theorem TxPvtdataAssembler.add_of_opened {a : TxPvtdataAssembler} {current : NsPvtRwSet}
    (opened : a.currentNsWSet = some current) (ns : String) (value : CollPvtRwSet) :
    a.add ns value =
      if current.nameSpace ≠ ns then ⟨a.txNum, a.txWset ++ [current], some ⟨ns, [value]⟩⟩
      else ⟨a.txNum, a.txWset, some ⟨current.nameSpace, current.collPvtRwSets ++ [value]⟩⟩ := by
  unfold TxPvtdataAssembler.add
  rw [opened]

theorem prepareDataEntries_add (blockNum : Nat) (acc : List TxPvtData) {a : TxPvtdataAssembler}
    {current : NsPvtRwSet} (opened : a.currentNsWSet = some current) (ns : String) (value : CollPvtRwSet) :
    prepareDataEntries blockNum (acc ++ [(a.add ns value).getTxPvtdata]) =
      prepareDataEntries blockNum (acc ++ [a.getTxPvtdata]) ++
        [(⟨blockNum, a.txNum, ns, value.collectionName⟩, value)] := by
  rw [TxPvtdataAssembler.add_of_opened opened]
  split_ifs with other
  · simp [prepareDataEntries, TxPvtdataAssembler.getTxPvtdata, opened]
  · rw [not_not] at other
    subst other
    simp [prepareDataEntries, TxPvtdataAssembler.getTxPvtdata, opened]

theorem Positioned.add {blockNum : Nat} {acc : List TxPvtData} {a : TxPvtdataAssembler} {lastKey key : DataKey}
    (positioned : Positioned blockNum acc a lastKey) {value : CollPvtRwSet} (block : key.blkNum = blockNum)
    (named : key.coll = value.collectionName) (sameTx : key.txNum = lastKey.txNum)
    (later : lastKey.ns < key.ns ∨ lastKey.ns = key.ns ∧ lastKey.coll < key.coll) :
    Positioned blockNum acc (a.add key.ns value) key := by
  obtain ⟨current, opened, currentNs, lastColl⟩ := positioned.current
  have written : a.getTxPvtdata.writeSet = a.txWset ++ [current] := by
    simp [TxPvtdataAssembler.getTxPvtdata, opened]
  have txNormal := positioned.normal.each a.getTxPvtdata (List.mem_append_right _ List.mem_cons_self)
  have ascendingNs := txNormal.ascending
  have eachNs := txNormal.each
  rw [written] at ascendingNs eachNs
  rw [TxPvtdataAssembler.add_of_opened opened]
  rcases later with newNs | ⟨sameNs, newColl⟩
  · -- a later namespace: the open one is closed and a new one opened
    rw [if_pos (by rw [currentNs]; exact ne_of_lt newNs)]
    refine ⟨positioned.normal.replace_last rfl ⟨by simp [TxPvtdataAssembler.getTxPvtdata], ?_, ?_⟩, block,
      positioned.tx.trans sameTx.symm, ⟨⟨key.ns, [value]⟩, rfl, rfl, by simp [named]⟩⟩
    · simp only [TxPvtdataAssembler.getTxPvtdata, Option.toList_some, List.map_append, List.map_singleton]
        at ascendingNs ⊢
      exact pairwise_append_singleton ascendingNs (currentNs ▸ newNs)
    · intro nsPvtdata member
      simp only [TxPvtdataAssembler.getTxPvtdata, Option.toList_some, List.mem_append, List.mem_singleton]
        at member
      rcases member with (old | rfl) | rfl
      · exact eachNs nsPvtdata (List.mem_append_left _ old)
      · exact eachNs nsPvtdata (List.mem_append_right _ List.mem_cons_self)
      · exact nsNormal_singleton key.ns value
  · -- the same namespace: the write set joins it
    rw [if_neg (by rw [currentNs, sameNs]; exact not_not.mpr rfl)]
    have currentNormal := eachNs current (List.mem_append_right _ List.mem_cons_self)
    refine ⟨positioned.normal.replace_last rfl ⟨by simp [TxPvtdataAssembler.getTxPvtdata], ?_, ?_⟩, block,
      positioned.tx.trans sameTx.symm, ⟨_, rfl, currentNs.trans sameNs, by simp [named]⟩⟩
    · simpa [TxPvtdataAssembler.getTxPvtdata] using ascendingNs
    · intro nsPvtdata member
      simp only [TxPvtdataAssembler.getTxPvtdata, Option.toList_some, List.mem_append, List.mem_singleton]
        at member
      rcases member with old | rfl
      · exact eachNs nsPvtdata (List.mem_append_left _ old)
      · -- the collections stay ascending: the new one is above the last
        refine ⟨by simp, ?_⟩
        have ascendingColls := currentNormal.ascending
        obtain ⟨init, lastName, split⟩ :
            ∃ init lastName, current.collPvtRwSets.map (·.collectionName) = init ++ [lastName] :=
          ⟨_, _, (List.dropLast_append_getLast? _ lastColl).symm⟩
        have lastIs : lastName = lastKey.coll := by simpa [split] using lastColl
        rw [split] at ascendingColls
        simp only [List.map_append, List.map_singleton, split]
        exact pairwise_append_singleton ascendingColls (lastIs ▸ named ▸ newColl)

structure InBlock (blockNum : Nat) (entries : List (DataKey × CollPvtRwSet)) : Prop where
  sorted : OrderedStore.Sorted entries
  block : ∀ entry ∈ entries, entry.1.blkNum = blockNum
  named : ∀ entry ∈ entries, entry.1.coll = entry.2.collectionName

theorem InBlock.tail {blockNum : Nat} {entry : DataKey × CollPvtRwSet} {entries : List (DataKey × CollPvtRwSet)}
    (inBlock : InBlock blockNum (entry :: entries)) : InBlock blockNum entries :=
  ⟨(List.pairwise_cons.mp inBlock.sorted).2, fun other member => inBlock.block other (List.mem_cons_of_mem _ member),
    fun other member => inBlock.named other (List.mem_cons_of_mem _ member)⟩

theorem prepareDataEntries_append_single (blockNum : Nat) (acc : List TxPvtData) {key : DataKey}
    {value : CollPvtRwSet} (block : key.blkNum = blockNum) (named : key.coll = value.collectionName) :
    prepareDataEntries blockNum (acc ++ [⟨key.txNum, [⟨key.ns, [value]⟩]⟩]) =
      prepareDataEntries blockNum acc ++ [(key, value)] := by
  have rebuilt : (⟨blockNum, key.txNum, key.ns, value.collectionName⟩ : DataKey) = key := by
    rw [← block, ← named]
  simp [prepareDataEntries, rebuilt]

theorem assembleBlockPvtdata_positioned {blockNum : Nat} :
    ∀ {entries : List (DataKey × CollPvtRwSet)} {acc : List TxPvtData} {a : TxPvtdataAssembler}
      {lastKey : DataKey}, Positioned blockNum acc a lastKey → InBlock blockNum entries →
      (∀ entry ∈ entries, lastKey < entry.1) →
      NormalForm (assembleBlockPvtdata acc (some a) entries) ∧
        prepareDataEntries blockNum (assembleBlockPvtdata acc (some a) entries) =
          prepareDataEntries blockNum (acc ++ [a.getTxPvtdata]) ++ entries
  | [], _, _, _, positioned, _, _ => ⟨positioned.normal, by simp [assembleBlockPvtdata]⟩
  | (key, value) :: rest, acc, a, lastKey, positioned, inBlock, above => by
    have block := inBlock.block (key, value) List.mem_cons_self
    have named := inBlock.named (key, value) List.mem_cons_self
    have later : ∀ entry ∈ rest, key < entry.1 := (List.pairwise_cons.mp inBlock.sorted).1
    have order := DataKey.lt_of_same_block (above (key, value) List.mem_cons_self) (positioned.block.trans block.symm)
    by_cases newTx : key.txNum ≠ a.txNum
    · -- an entry of a later transaction closes the open one
      have step : assembleBlockPvtdata acc (some a) ((key, value) :: rest) =
          assembleBlockPvtdata (acc ++ [a.getTxPvtdata]) (some ((TxPvtdataAssembler.new key.txNum).add key.ns value))
            rest := by
        rw [assembleBlockPvtdata, if_pos newTx]
      have earlier : a.getTxPvtdata.seqInBlock < key.txNum := by
        change a.txNum < key.txNum
        rcases order with below | ⟨same, -⟩
        · rw [positioned.tx]
          exact below
        · exact absurd (same.symm.trans positioned.tx.symm) newTx
      have positioned' := positioned_new blockNum
        (positioned.normal.append_tx earlier (txNormal_singleton key.txNum key.ns value)) block named
      obtain ⟨normal, flat⟩ := assembleBlockPvtdata_positioned positioned' inBlock.tail later
      refine ⟨step ▸ normal, ?_⟩
      rw [step, flat, getTxPvtdata_new_add, prepareDataEntries_append_single _ _ block named, List.append_assoc]
      rfl
    · -- an entry of the open transaction joins it
      have sameTx : key.txNum = a.txNum := not_not.mp newTx
      have step : assembleBlockPvtdata acc (some a) ((key, value) :: rest) =
          assembleBlockPvtdata acc (some (a.add key.ns value)) rest := by
        rw [assembleBlockPvtdata, if_neg newTx]
      have nested : lastKey.ns < key.ns ∨ lastKey.ns = key.ns ∧ lastKey.coll < key.coll := by
        rcases order with below | ⟨-, nested⟩
        · rw [← positioned.tx, ← sameTx] at below
          exact absurd below (lt_irrefl _)
        · exact nested
      obtain ⟨current, opened, -, -⟩ := positioned.current
      have positioned' := positioned.add block named (sameTx.trans positioned.tx) nested
      obtain ⟨normal, flat⟩ := assembleBlockPvtdata_positioned positioned' inBlock.tail later
      refine ⟨step ▸ normal, ?_⟩
      have rebuilt : (⟨blockNum, a.txNum, key.ns, value.collectionName⟩ : DataKey) = key := by
        rw [← block, ← named, ← sameTx]
      rw [step, flat, prepareDataEntries_add blockNum acc opened, rebuilt, List.append_assoc]
      rfl

theorem assembleBlockPvtdata_normal {blockNum : Nat} {entries : List (DataKey × CollPvtRwSet)}
    (inBlock : InBlock blockNum entries) :
    NormalForm (assembleBlockPvtdata [] none entries) ∧
      prepareDataEntries blockNum (assembleBlockPvtdata [] none entries) = entries := by
  cases entries with
  | nil => exact ⟨⟨List.Pairwise.nil, fun _ member => absurd member List.not_mem_nil⟩, rfl⟩
  | cons entry rest =>
    obtain ⟨key, value⟩ := entry
    have block := inBlock.block (key, value) List.mem_cons_self
    have named := inBlock.named (key, value) List.mem_cons_self
    have single : NormalForm ([] ++ [⟨key.txNum, [⟨key.ns, [value]⟩]⟩]) :=
      ⟨List.pairwise_singleton _ _, fun txPvtdata member =>
        (List.mem_singleton.mp member) ▸ txNormal_singleton key.txNum key.ns value⟩
    obtain ⟨normal, flat⟩ := assembleBlockPvtdata_positioned (positioned_new blockNum single block named)
      inBlock.tail (List.pairwise_cons.mp inBlock.sorted).1
    refine ⟨normal, ?_⟩
    rw [assembleBlockPvtdata]
    rw [flat, getTxPvtdata_new_add, prepareDataEntries_append_single _ _ block named]
    rfl

theorem DataKey.lt_irrefl (key : DataKey) : ¬key < key := irrefl_of (· < ·) key

theorem Sorted.nodup {entries : List (DataKey × CollPvtRwSet)} (sorted : OrderedStore.Sorted entries) :
    entries.Nodup := by
  apply sorted.imp
  intro a b below same
  subst same
  exact DataKey.lt_irrefl a.1 below

theorem prepareDataEntries_inBlock_keys (blockNum : Nat) (pvtData : List TxPvtData) :
    ∀ entry ∈ prepareDataEntries blockNum pvtData,
      entry.1.blkNum = blockNum ∧ entry.1.coll = entry.2.collectionName := by
  intro entry member
  simp only [prepareDataEntries, List.mem_flatMap, List.mem_map] at member
  obtain ⟨-, -, -, -, collPvtdata, -, rfl⟩ := member
  exact ⟨rfl, rfl⟩

theorem scan_block_of_writes {data written : List (DataKey × CollPvtRwSet)} {blockNum : Nat}
    (sorted : OrderedStore.Sorted data) (fresh : ∀ entry ∈ data, entry.1.blkNum ≠ blockNum)
    (distinct : (written.map Prod.fst).Nodup) (block : ∀ entry ∈ written, entry.1.blkNum = blockNum) :
    OrderedStore.Sorted (OrderedStore.scan (getDataKeysForRangeScanByBlockNum blockNum).1
        (some (getDataKeysForRangeScanByBlockNum blockNum).2)
        (written.foldl (fun data entry => OrderedStore.put entry.1 entry.2 data) data)) ∧
      (OrderedStore.scan (getDataKeysForRangeScanByBlockNum blockNum).1
        (some (getDataKeysForRangeScanByBlockNum blockNum).2)
        (written.foldl (fun data entry => OrderedStore.put entry.1 entry.2 data) data)).Perm written := by
  have scannedSorted := OrderedStore.scan_sorted (getDataKeysForRangeScanByBlockNum blockNum).1
    (some (getDataKeysForRangeScanByBlockNum blockNum).2) (OrderedStore.foldl_put_sorted written sorted)
  refine ⟨scannedSorted, (List.perm_ext_iff_of_nodup (Sorted.nodup scannedSorted) (distinct.of_map _)).mpr ?_⟩
  -- the old entries are of other blocks, so the writes add their keys afresh
  have notWritten : ∀ entry ∈ data, entry.1 ∉ written.map Prod.fst := by
    intro entry member rewritten
    obtain ⟨write, writeMember, same⟩ := List.mem_map.mp rewritten
    exact fresh entry member (same ▸ block write writeMember)
  intro entry
  rw [OrderedStore.mem_scan, OrderedStore.mem_foldl_put_of_fresh distinct notWritten]
  simp only [Option.mem_def, Option.some.injEq, forall_eq']
  rw [inRange_iff_blkNum]
  constructor
  · rintro ⟨written' | old, onBlock⟩
    · exact written'
    · exact absurd onBlock (fresh entry old)
  · intro member
    exact ⟨.inl member, block entry member⟩

def stillLive (btlPolicy : BTLPolicy) (lastCommitted : Nat) (key : DataKey) : Bool :=
  match btlPolicy.getExpiringBlock key.ns key.coll key.blkNum with
  | .ok expiringBlk => decide (lastCommitted < expiringBlk)
  | .error _ => false

theorem expiringBlock_of_prepare {s s' : Store} {blockNum : Nat} {pvtData : List TxPvtData}
    (prepared : s.prepare blockNum pvtData = .ok s') :
    ∀ entry ∈ prepareDataEntries blockNum pvtData,
      ∃ expiringBlk, s.btlPolicy.getExpiringBlock entry.1.ns entry.1.coll entry.1.blkNum = .ok expiringBlk := by
  obtain ⟨-, -, dataEntries, expiryEntries, entries, -⟩ := prepare_eq_ok prepared
  simp only [prepareStoreEntries, Except.bind_eq_ok_iff, Except.pure_eq_ok_iff] at entries
  obtain ⟨expiry, expiryOk, -⟩ := entries
  obtain ⟨grouped, folded, -⟩ := Except.bind_eq_ok_iff.mp expiryOk
  intro entry member
  obtain ⟨before, after, step⟩ := Except.foldlM_eq_ok_each folded entry member
  obtain ⟨expiringBlk, answered, -⟩ := Except.bind_eq_ok_iff.mp step
  exact ⟨expiringBlk, answered⟩

theorem kept_of_answered {btlPolicy : BTLPolicy} {lastCommitted expiringBlk : Nat} {key : DataKey}
    (filter : Option PvtNsCollFilter) (answered : btlPolicy.getExpiringBlock key.ns key.coll key.blkNum = .ok expiringBlk) :
    (do
      let expired ← (isExpired key btlPolicy lastCommitted).mapError StoreError.btlPolicy
      pure (!expired && passesFilter key filter) : Except StoreError Bool) =
      .ok (stillLive btlPolicy lastCommitted key && passesFilter key filter) := by
  simp [isExpired, stillLive, answered, Except.mapError]
  rw [← decide_not]
  simp only [Nat.not_le]

theorem retrieval_after_commit_is_normalised {s s₁ s₂ : Store} {blockNum : Nat} {pvtData : List TxPvtData}
    (sorted : OrderedStore.Sorted s.disk.data) (fresh : ∀ entry ∈ s.disk.data, entry.1.blkNum ≠ blockNum)
    (distinct : ((prepareDataEntries blockNum pvtData).map Prod.fst).Nodup)
    (prepared : s.prepare blockNum pvtData = .ok s₁) (committed : s₁.commit = .ok s₂)
    (filter : Option PvtNsCollFilter) :
    ∃ out, s₂.getPvtDataByBlockNum blockNum filter = .ok out ∧ NormalForm out ∧
      (prepareDataEntries blockNum out).Perm ((prepareDataEntries blockNum pvtData).filter fun entry =>
        stillLive s.btlPolicy blockNum entry.1 && passesFilter entry.1 filter) := by
  have keys := prepareDataEntries_inBlock_keys blockNum pvtData
  have answers := expiringBlock_of_prepare prepared
  have data := prepare_data prepared
  obtain ⟨-, expected, dataEntries, expiryEntries, -, stored₁⟩ := prepare_eq_ok prepared
  obtain ⟨-, stored₂⟩ := commit_eq_ok.mp committed
  -- what the committed store holds
  have nonEmpty : s₂.isEmpty = false := by rw [stored₂]
  have last : s₂.lastCommittedBlock = blockNum := by rw [stored₂, stored₁]; exact expected
  have policy : s₂.btlPolicy = s.btlPolicy := by rw [stored₂, stored₁]
  have data₂ : s₂.disk.data = (prepareDataEntries blockNum pvtData).foldl
      (fun data entry => OrderedStore.put entry.1 entry.2 data) s.disk.data := by
    rw [stored₂]
    exact data
  obtain ⟨scannedSorted, scannedPerm⟩ := scan_block_of_writes sorted fresh distinct fun entry member =>
    (keys entry member).1
  -- the scan keeps what the policy still holds live and the filter passes
  have tested : ∀ entry ∈ OrderedStore.scan (getDataKeysForRangeScanByBlockNum blockNum).1
      (some (getDataKeysForRangeScanByBlockNum blockNum).2)
      ((prepareDataEntries blockNum pvtData).foldl (fun data entry => OrderedStore.put entry.1 entry.2 data) s.disk.data),
      (do
        let expired ← (isExpired entry.1 s.btlPolicy blockNum).mapError StoreError.btlPolicy
        pure (!expired && passesFilter entry.1 filter) : Except StoreError Bool) =
        .ok (stillLive s.btlPolicy blockNum entry.1 && passesFilter entry.1 filter) := by
    intro entry member
    obtain ⟨expiringBlk, answered⟩ := answers entry (scannedPerm.subset member)
    exact kept_of_answered filter answered
  have inBlock : InBlock blockNum ((OrderedStore.scan (getDataKeysForRangeScanByBlockNum blockNum).1
      (some (getDataKeysForRangeScanByBlockNum blockNum).2)
      ((prepareDataEntries blockNum pvtData).foldl (fun data entry => OrderedStore.put entry.1 entry.2 data)
        s.disk.data)).filter fun entry => stillLive s.btlPolicy blockNum entry.1 && passesFilter entry.1 filter) :=
    ⟨scannedSorted.filter _, fun entry member => (keys entry (scannedPerm.subset (List.mem_of_mem_filter member))).1,
      fun entry member => (keys entry (scannedPerm.subset (List.mem_of_mem_filter member))).2⟩
  obtain ⟨normal, flat⟩ := assembleBlockPvtdata_normal inBlock
  unfold Store.getPvtDataByBlockNum
  simp only [nonEmpty, last, policy, data₂, Bool.false_eq_true, if_false, gt_iff_lt, lt_irrefl]
  rw [Except.filterM_eq_ok tested]
  refine ⟨_, rfl, normal, ?_⟩
  rw [flat]
  exact scannedPerm.filter _

theorem retrieval_after_commit_is_normalised_on_two_collections :
    ∃ s₁ s₂, (openStore emptyDisk Ledgerstorage.twoBlocksToLive).prepare 0 Ledgerstorage.bothCollections = .ok s₁ ∧
      s₁.commit = .ok s₂ ∧ ∃ out, s₂.getPvtDataByBlockNum 0 none = .ok out ∧ NormalForm out ∧
        (prepareDataEntries 0 out).Perm ((prepareDataEntries 0 Ledgerstorage.bothCollections).filter fun entry =>
          stillLive Ledgerstorage.twoBlocksToLive 0 entry.1 && passesFilter entry.1 none) :=
  ⟨_, _, rfl, rfl, @retrieval_after_commit_is_normalised (openStore emptyDisk Ledgerstorage.twoBlocksToLive) _ _ 0
    Ledgerstorage.bothCollections List.Pairwise.nil (fun _ member => absurd member List.not_mem_nil) (by decide) rfl rfl
    none⟩

def duplicateCollection : List TxPvtData :=
  [⟨0, [⟨"mycc", [Ledgerstorage.secretWrite "c1" [1], Ledgerstorage.secretWrite "c1" [2]]⟩]⟩]

/-- Two write sets of one collection of one transaction share their data key: the second
overwrites the first, which is lost. -/
theorem duplicate_collection_loses_a_write_set :
    (((openStore emptyDisk Ledgerstorage.twoBlocksToLive).prepare 0 duplicateCollection >>= Store.commit) >>=
        fun s => s.getPvtDataByBlockNum 0 none) =
      .ok [⟨0, [⟨"mycc", [Ledgerstorage.secretWrite "c1" [2]]⟩]⟩] := by
  decide +kernel

end Fabric.Pvtdatastorage
