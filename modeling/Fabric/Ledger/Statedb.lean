import Mathlib.Data.String.Basic
import Fabric.Lib.SortedAssoc
import Fabric.Protos.Common

/-! `core/ledger/kvledger/txmgmt/statedb`: versioned values, the update batch a block builds
and the committed state it is applied to. Keys are of any linearly ordered type whose least
element `⊥` plays the empty string: as a start key it is the first key, as an end key it
means no bound. -/

namespace Fabric.Statedb

open SortedAssoc

/-- `version.Height`: the block and the transaction that wrote a value. -/
structure Height where
  blockNum : Nat
  txNum : Nat
  deriving DecidableEq, Repr

/-- `statedb.VersionedValue`; in an update batch a `none` value marks a delete. -/
structure VersionedValue where
  value : Option Bytes
  version : Height
  deriving DecidableEq, Repr

instance emptyStringBot : OrderBot String where
  bot := ""
  bot_le s := by
    rw [String.le_iff_toList_le]
    cases s.toList with
    | nil => exact le_rfl
    | cons c cs => exact le_of_lt List.Lex.nil

variable {K : Type} [LinearOrder K] [OrderBot K]

/-- `statedb.UpdateBatch`: for each namespace, the last update of each key, in key order. -/
structure UpdateBatch (K : Type) [LinearOrder K] where
  updates : String → List (K × VersionedValue)
  ordered : ∀ ns, Ordered (updates ns)

def UpdateBatch.empty : UpdateBatch K := ⟨fun _ => [], fun _ => ordered_nil⟩

def UpdateBatch.get (batch : UpdateBatch K) (ns : String) (key : K) : Option VersionedValue :=
  find key (batch.updates ns)

def UpdateBatch.exists (batch : UpdateBatch K) (ns : String) (key : K) : Bool :=
  (batch.get ns key).isSome

def UpdateBatch.update (batch : UpdateBatch K) (ns : String) (key : K) (vv : VersionedValue) :
    UpdateBatch K where
  updates n := if n = ns then insert key vv (batch.updates n) else batch.updates n
  ordered n := by
    split
    · exact insert_ordered (batch.ordered n)
    · exact batch.ordered n

def UpdateBatch.put (batch : UpdateBatch K) (ns : String) (key : K) (value : Bytes)
    (version : Height) : UpdateBatch K :=
  batch.update ns key ⟨some value, version⟩

def UpdateBatch.delete (batch : UpdateBatch K) (ns : String) (key : K) (version : Height) :
    UpdateBatch K :=
  batch.update ns key ⟨none, version⟩

/-- `sort.SearchStrings`: the first index whose key is not below `target`. -/
def searchStrings (keys : List K) (target : K) : Nat := (keys.takeWhile (· < target)).length

/-- `newNsIterator` followed to the end: the updates of a namespace from `startKey` up to,
not including, `endKey`. -/
def UpdateBatch.getRangeScanIterator (batch : UpdateBatch K) (ns : String) (startKey endKey : K) :
    List (K × VersionedValue) :=
  let sortedKeys := (batch.updates ns).map Prod.fst
  let nextIndex := if startKey = ⊥ then 0 else searchStrings sortedKeys startKey
  let lastIndex := if endKey = ⊥ then sortedKeys.length else searchStrings sortedKeys endKey
  ((batch.updates ns).drop nextIndex).take (lastIndex - nextIndex)

def inRange (startKey endKey key : K) : Bool := startKey ≤ key && (endKey = ⊥ || key < endKey)

structure VersionedDB (K : Type) [LinearOrder K] where
  state : String → List (K × VersionedValue)
  hashedState : String → String → List (K × VersionedValue)
  ordered : ∀ ns, Ordered (state ns)

def VersionedDB.getState (db : VersionedDB K) (ns : String) (key : K) : Option VersionedValue :=
  find key (db.state ns)

def VersionedDB.getVersion (db : VersionedDB K) (ns : String) (key : K) : Option Height :=
  (db.getState ns key).map VersionedValue.version

def VersionedDB.getKeyHashVersion (db : VersionedDB K) (ns coll : String) (keyHash : K) :
    Option Height :=
  (find keyHash (db.hashedState ns coll)).map VersionedValue.version

/-- `GetStateRangeScanIterator` followed to the end: leveldb iterates the namespace's keys in
order from `startKey`, stopping before `endKey`. -/
def VersionedDB.getStateRangeScanIterator (db : VersionedDB K) (ns : String) (startKey endKey : K) :
    List (K × VersionedValue) :=
  (db.state ns).filter fun entry => inRange startKey endKey entry.1

-- The batch's scan finds its bounds by binary search over the sorted keys; over a list whose keys
-- strictly increase, that is the filter of the keys in range.

section RangeScan

variable {V : Type}

omit [OrderBot K] in
theorem searchStrings_cons (key : K) (keys : List K) (target : K) :
    searchStrings (key :: keys) target = if key < target then searchStrings keys target + 1 else 0 := by
  by_cases below : key < target <;> simp [searchStrings, below]

theorem searchStrings_bot (keys : List K) : searchStrings keys ⊥ = 0 := by
  cases keys with
  | nil => rfl
  | cons key keys => simp [searchStrings_cons]

omit [OrderBot K] in
theorem length_le_searchStrings {keys : List K} {target : K} (below : ∀ key ∈ keys, key < target)
    (more : List K) : keys.length ≤ searchStrings (keys ++ more) target := by
  induction keys with
  | nil => simp
  | cons key keys ih =>
    rw [List.cons_append, searchStrings_cons, if_pos (below key List.mem_cons_self)]
    simpa using ih fun k mem => below k (List.mem_cons_of_mem _ mem)

omit [OrderBot K] in
theorem searchStrings_append_of_le {keys more : List K} {target : K}
    (above : ∀ key ∈ more, target ≤ key) :
    searchStrings (keys ++ more) target = searchStrings keys target := by
  induction keys with
  | nil =>
    cases more with
    | nil => rfl
    | cons key more => simp [searchStrings, not_lt.mpr (above key List.mem_cons_self)]
  | cons key keys ih => simp only [List.cons_append, searchStrings_cons, ih]

omit [OrderBot K] in
theorem take_searchStrings {entries : List (K × V)} (ordered : Ordered entries) (target : K) :
    entries.take (searchStrings (entries.map Prod.fst) target) =
      entries.filter fun entry => entry.1 < target := by
  induction entries with
  | nil => simp [searchStrings]
  | cons entry rest ih =>
    rw [ordered_cons] at ordered
    rw [List.map_cons, searchStrings_cons]
    by_cases below : entry.1 < target
    · simp [below, ih ordered.2]
    · -- every later key is above this one, so none is below the target
      have none : (rest.filter fun e => e.1 < target) = [] := by
        apply List.filter_eq_nil_iff.mpr
        intro e mem
        have later := ordered.1 e mem
        simpa using le_trans (not_lt.mp below) later.le
      simp [below, none]

omit [OrderBot K] in
theorem drop_searchStrings {entries : List (K × V)} (ordered : Ordered entries) (target : K) :
    entries.drop (searchStrings (entries.map Prod.fst) target) =
      entries.filter fun entry => target ≤ entry.1 := by
  induction entries with
  | nil => simp [searchStrings]
  | cons entry rest ih =>
    rw [ordered_cons] at ordered
    rw [List.map_cons, searchStrings_cons]
    by_cases below : entry.1 < target
    · simp [below, ih ordered.2]
    · have all : (rest.filter fun e => target ≤ e.1) = rest := by
        apply List.filter_eq_self.mpr
        intro e mem
        have later := ordered.1 e mem
        simpa using le_trans (not_lt.mp below) later.le
      simp only [below, if_false, List.drop_zero]
      rw [List.filter_cons_of_pos (by simpa using not_lt.mp below), all]

theorem UpdateBatch.getRangeScanIterator_eq_filter (batch : UpdateBatch K) (ns : String)
    (startKey endKey : K) :
    batch.getRangeScanIterator ns startKey endKey =
      (batch.updates ns).filter fun entry => inRange startKey endKey entry.1 := by
  have ordered := batch.ordered ns
  simp only [UpdateBatch.getRangeScanIterator]
  generalize batch.updates ns = entries at ordered ⊢
  -- a start key of `⊥` searches to index 0 anyway
  have start : (if startKey = ⊥ then 0 else searchStrings (entries.map Prod.fst) startKey) =
      searchStrings (entries.map Prod.fst) startKey := by
    split
    · rename_i bot
      rw [bot, searchStrings_bot]
    · rfl
  rw [start, ← List.drop_take]
  by_cases unbounded : endKey = ⊥
  · simp only [unbounded, if_true, List.length_map, List.take_length, drop_searchStrings ordered]
    simp [inRange]
  simp only [unbounded, if_false, take_searchStrings ordered]
  -- the entries below the end key, followed by the others
  have split := List.take_append_drop (searchStrings (entries.map Prod.fst) endKey) entries
  rw [take_searchStrings ordered, drop_searchStrings ordered] at split
  by_cases order : startKey ≤ endKey
  · have search : searchStrings (entries.map Prod.fst) startKey =
        searchStrings ((entries.filter fun entry => entry.1 < endKey).map Prod.fst) startKey := by
      conv_lhs => rw [← split]
      rw [List.map_append, searchStrings_append_of_le]
      intro key mem
      obtain ⟨entry, filtered, rfl⟩ := List.mem_map.mp mem
      exact le_trans order (by simpa using (List.mem_filter.mp filtered).2)
    rw [search, drop_searchStrings (ordered.filter _), List.filter_filter]
    apply List.filter_congr
    intro entry _
    simp [inRange, unbounded]
  · -- the range is empty: every entry below the end key is below the start key
    have below : ∀ key ∈ (entries.filter fun entry => entry.1 < endKey).map Prod.fst, key < startKey := by
      intro key mem
      obtain ⟨entry, filtered, rfl⟩ := List.mem_map.mp mem
      exact lt_trans (by simpa using (List.mem_filter.mp filtered).2) (not_le.mp order)
    have past := length_le_searchStrings below
      ((entries.filter fun entry => endKey ≤ entry.1).map Prod.fst)
    rw [← List.map_append, split, List.length_map] at past
    rw [List.drop_eq_nil_of_le past]
    symm
    apply List.filter_eq_nil_iff.mpr
    intro entry _ inside
    simp only [inRange, unbounded, decide_false, Bool.false_or, Bool.and_eq_true, decide_eq_true_eq] at inside
    exact order (le_trans inside.1 inside.2.le)

end RangeScan

end Fabric.Statedb
