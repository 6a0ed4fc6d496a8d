import Fabric.Ledger.StateValidator

/-! `combinedIterator` run to its end: the scan of the committed state merged with the scan of
the block's updates, live entries only, then the end key. The merge is `overlay`; each `Next`
takes the head of what the two scans still hold. -/

namespace Fabric.Statebasedval

open Statedb SortedAssoc

variable {K : Type} [LinearOrder K]

def CombinedIterator.drainFrom : Nat → CombinedIterator K → List (K × VersionedValue)
  -- `Next` until it returns nil, for at most `fuel` calls
  | 0, _ => []
  | fuel + 1, itr =>
    match itr.next with
    | (some item, itr) => item :: drainFrom fuel itr
    | (none, _) => []

def CombinedIterator.withItems (itr : CombinedIterator K)
    (dbItems updatesItems : List (K × VersionedValue)) : CombinedIterator K :=
  { itr with dbItems := dbItems, updatesItems := updatesItems }

def CombinedIterator.pending (itr : CombinedIterator K) : List (K × VersionedValue) :=
  overlay itr.dbItems itr.updatesItems

def CombinedIterator.live (itr : CombinedIterator K) : List (K × VersionedValue) :=
  itr.pending.filter fun item => !isDelete item.2

def CombinedIterator.size (itr : CombinedIterator K) : Nat :=
  itr.dbItems.length + itr.updatesItems.length

def CombinedIterator.results (itr : CombinedIterator K) : List (K × VersionedValue) :=
  itr.live ++ itr.serveEndKeyIfNeeded.1.toList

section Step

variable {itr itr' : CombinedIterator K} {item : K × VersionedValue}

@[simp] theorem CombinedIterator.withItems_dbItems (d u : List (K × VersionedValue)) :
    (itr.withItems d u).dbItems = d := rfl

@[simp] theorem CombinedIterator.withItems_updatesItems (d u : List (K × VersionedValue)) :
    (itr.withItems d u).updatesItems = u := rfl

@[simp] theorem CombinedIterator.withItems_withItems (d u d' u' : List (K × VersionedValue)) :
    (itr.withItems d u).withItems d' u' = itr.withItems d' u' := rfl

@[simp] theorem CombinedIterator.size_withItems (d u : List (K × VersionedValue)) :
    (itr.withItems d u).size = d.length + u.length := rfl

theorem CombinedIterator.withItems_self : itr.withItems itr.dbItems itr.updatesItems = itr := rfl

theorem CombinedIterator.serveEndKeyIfNeeded_withItems (d u : List (K × VersionedValue)) :
    (itr.withItems d u).serveEndKeyIfNeeded =
      (itr.serveEndKeyIfNeeded.1, itr.serveEndKeyIfNeeded.2.withItems d u) := by
  simp only [CombinedIterator.serveEndKeyIfNeeded, CombinedIterator.withItems]
  by_cases skip : (!itr.includeEndKey || itr.endKeyServed) = true
  · simp only [skip, if_true]
  · simp only [skip]
    cases (itr.updates.get itr.ns itr.endKey).or (itr.db.getState itr.ns itr.endKey) with
    | none => rfl
    | some vv => by_cases deleted : isDelete vv = true <;> simp [deleted]

theorem CombinedIterator.serveEndKeyIfNeeded_twice :
    itr.serveEndKeyIfNeeded.2.serveEndKeyIfNeeded.1 = none := by
  simp only [CombinedIterator.serveEndKeyIfNeeded]
  split
  · simp
  · split
    · simp
    · split <;> simp

theorem CombinedIterator.select_eq_none (noItems : itr.select = none) :
    itr.dbItems = [] ∧ itr.updatesItems = [] := by
  simp only [CombinedIterator.select] at noItems
  split at noItems
  · exact ⟨‹_›, ‹_›⟩
  · cases noItems
  · cases noItems
  · split at noItems
    · cases noItems
    · split at noItems <;> cases noItems

theorem CombinedIterator.select_eq_some (selected : itr.select = some (item, itr')) :
    ∃ d u, itr' = itr.withItems d u ∧ itr.pending = item :: overlay d u ∧
      d.length + u.length < itr.size := by
  simp only [CombinedIterator.select] at selected
  simp only [CombinedIterator.pending, CombinedIterator.size]
  split at selected
  · cases selected
  · rename_i dbItem dbRest db updates
    cases selected
    refine ⟨dbRest, [], by simp [CombinedIterator.withItems, updates], ?_, by simp [db, updates]⟩
    rw [db, updates]
    simp
  · rename_i updatesItem updatesRest db updates
    cases selected
    refine ⟨[], updatesRest, by simp [CombinedIterator.withItems, db], ?_, by simp [db, updates]⟩
    rw [db, updates]
    simp [overlay]
  · rename_i dbItem dbRest updatesItem updatesRest db updates
    rw [db, updates, overlay]
    split at selected
    · rename_i lt
      cases selected
      exact ⟨dbRest, updatesItem :: updatesRest, by simp [CombinedIterator.withItems, updates],
        by simp [lt], by simp⟩
    · split at selected
      · rename_i notLt same
        cases selected
        exact ⟨dbRest, updatesRest, rfl, by simp [same], by simp; omega⟩
      · rename_i notLt notSame
        cases selected
        exact ⟨dbItem :: dbRest, updatesRest, by simp [CombinedIterator.withItems, db],
          by simp [notLt, notSame], by simp⟩

theorem CombinedIterator.live_of_select (selected : itr.select = some (item, itr')) :
    ∃ d u, itr' = itr.withItems d u ∧
      itr.live = (if isDelete item.2 then [] else [item]) ++ itr'.live ∧ d.length + u.length < itr.size := by
  obtain ⟨d, u, rfl, pending, smaller⟩ := CombinedIterator.select_eq_some selected
  refine ⟨d, u, rfl, ?_, smaller⟩
  have livePending : itr.live = itr.pending.filter fun item => !isDelete item.2 := rfl
  rw [livePending, pending]
  by_cases deleted : isDelete item.2 = true <;>
    simp [deleted, CombinedIterator.live, CombinedIterator.pending]

theorem CombinedIterator.next_eq : itr.next = itr.nextFrom (itr.size + 1) := rfl

end Step

section Run

theorem CombinedIterator.nextFrom_of_live_nil (fuel : Nat) :
    ∀ itr : CombinedIterator K, itr.size < fuel → itr.live = [] →
      itr.nextFrom fuel = (itr.serveEndKeyIfNeeded.1, itr.serveEndKeyIfNeeded.2.withItems [] []) := by
  induction fuel with
  | zero => intro itr enough; omega
  | succ fuel ih =>
    intro itr enough dead
    rcases selected : itr.select with _ | ⟨item, itr'⟩
    · -- both scans are done
      obtain ⟨db, updates⟩ := CombinedIterator.select_eq_none selected
      have exhausted : itr = itr.withItems [] [] :=
        calc itr = itr.withItems itr.dbItems itr.updatesItems := CombinedIterator.withItems_self.symm
          _ = itr.withItems [] [] := by rw [db, updates]
      simp only [CombinedIterator.nextFrom, selected]
      conv_lhs => rw [exhausted]
      exact CombinedIterator.serveEndKeyIfNeeded_withItems [] []
    · -- the head is a delete, skipped by calling `Next` again
      obtain ⟨d, u, rfl, live, smaller⟩ := CombinedIterator.live_of_select selected
      have deleted : isDelete item.2 = true := by
        by_contra kept
        simp [kept, dead] at live
      have dead' : (itr.withItems d u).live = [] := by simpa [deleted, dead] using live.symm
      simp only [CombinedIterator.nextFrom, selected, deleted, if_true]
      rw [ih _ (by simp; omega) dead',
        CombinedIterator.serveEndKeyIfNeeded_withItems]
      simp

theorem CombinedIterator.nextFrom_of_live_cons (fuel : Nat) :
    ∀ (itr : CombinedIterator K) item rest, itr.size < fuel → itr.live = item :: rest →
      ∃ d u, itr.nextFrom fuel = (some item, itr.withItems d u) ∧ (itr.withItems d u).live = rest ∧
        d.length + u.length < itr.size := by
  induction fuel with
  | zero => intro itr item rest enough; omega
  | succ fuel ih =>
    intro itr item rest enough live
    rcases selected : itr.select with _ | ⟨selectedItem, itr'⟩
    · obtain ⟨db, updates⟩ := CombinedIterator.select_eq_none selected
      simp [CombinedIterator.live, CombinedIterator.pending, db, updates] at live
    · obtain ⟨d, u, rfl, live', smaller⟩ := CombinedIterator.live_of_select selected
      simp only [CombinedIterator.nextFrom, selected]
      by_cases deleted : isDelete selectedItem.2 = true
      · -- a delete: `Next` calls itself on the rest
        rw [live, deleted, if_pos rfl, List.nil_append] at live'
        obtain ⟨d', u', next, rest', smaller'⟩ :=
          ih (itr.withItems d u) item rest (by simp; omega) live'.symm
        simp only [CombinedIterator.withItems_withItems] at next rest'
        refine ⟨d', u', by rw [if_pos deleted, next], rest', ?_⟩
        simp only [CombinedIterator.size_withItems] at smaller'
        omega
      · rw [live, if_neg deleted, List.singleton_append, List.cons.injEq] at live'
        obtain ⟨rfl, rest'⟩ := live'
        exact ⟨d, u, by rw [if_neg deleted], rest'.symm, smaller⟩

theorem CombinedIterator.drainFrom_eq (fuel : Nat) :
    ∀ itr : CombinedIterator K, itr.size + 2 ≤ fuel →
      itr.drainFrom fuel = itr.live ++ itr.serveEndKeyIfNeeded.1.toList := by
  induction fuel with
  | zero => intro itr enough; omega
  | succ fuel ih =>
    intro itr enough
    rcases live : itr.live with _ | ⟨item, rest⟩
    · have next := CombinedIterator.nextFrom_of_live_nil (itr.size + 1) itr (by omega) live
      obtain ⟨calls, rfl⟩ : ∃ calls, fuel = calls + 1 := ⟨fuel - 1, by omega⟩
      rcases served : itr.serveEndKeyIfNeeded.1 with _ | endItem
      · simp [CombinedIterator.drainFrom, CombinedIterator.next_eq, next, served]
      · -- after the end key nothing is left to serve
        have finished := CombinedIterator.nextFrom_of_live_nil 1
          (itr.serveEndKeyIfNeeded.2.withItems [] []) (by simp)
          (by simp [CombinedIterator.live, CombinedIterator.pending])
        rw [CombinedIterator.serveEndKeyIfNeeded_withItems, CombinedIterator.serveEndKeyIfNeeded_twice]
          at finished
        simp [CombinedIterator.drainFrom, CombinedIterator.next_eq, next, served, finished]
    · obtain ⟨d, u, next, rest', smaller⟩ :=
        CombinedIterator.nextFrom_of_live_cons (itr.size + 1) itr item rest (by omega) live
      have more := ih (itr.withItems d u) (by simp; omega)
      rw [rest', CombinedIterator.serveEndKeyIfNeeded_withItems] at more
      simp [CombinedIterator.drainFrom, CombinedIterator.next_eq, next, more]

end Run

section Results

variable {itr : CombinedIterator K} {item : K × VersionedValue} {rest : List (K × VersionedValue)}

theorem CombinedIterator.next_of_results_nil (empty : itr.results = []) : itr.next.1 = none := by
  obtain ⟨dead, unserved⟩ := List.append_eq_nil_iff.mp empty
  rw [CombinedIterator.next_eq, CombinedIterator.nextFrom_of_live_nil _ itr (by omega) dead]
  exact Option.toList_eq_nil_iff.mp unserved

theorem CombinedIterator.next_of_results_cons (nonempty : itr.results = item :: rest) :
    itr.next.1 = some item ∧ itr.next.2.results = rest := by
  rcases live : itr.live with _ | ⟨first, others⟩
  · -- only the end key is left, and it is served once
    rw [CombinedIterator.results, live, List.nil_append] at nonempty
    have served : itr.serveEndKeyIfNeeded.1 = some item ∧ rest = [] := by
      cases endItem : itr.serveEndKeyIfNeeded.1 <;> simp_all
    rw [CombinedIterator.next_eq, CombinedIterator.nextFrom_of_live_nil _ itr (by omega) live]
    refine ⟨served.1, ?_⟩
    simp [CombinedIterator.results, CombinedIterator.live, CombinedIterator.pending,
      CombinedIterator.serveEndKeyIfNeeded_withItems, CombinedIterator.serveEndKeyIfNeeded_twice, served.2]
  · obtain ⟨d, u, next, rest', -⟩ :=
      CombinedIterator.nextFrom_of_live_cons (itr.size + 1) itr first others (by omega) live
    rw [CombinedIterator.results, live, List.cons_append, List.cons.injEq] at nonempty
    obtain ⟨rfl, rfl⟩ := nonempty
    rw [CombinedIterator.next_eq, next]
    exact ⟨rfl, by rw [CombinedIterator.results, rest', CombinedIterator.serveEndKeyIfNeeded_withItems]⟩

theorem CombinedIterator.length_results_le : itr.results.length ≤ itr.size + 1 := by
  have live : itr.live.length ≤ itr.size :=
    (List.length_filter_le _ _).trans (length_overlay_le _ _)
  have served : itr.serveEndKeyIfNeeded.1.toList.length ≤ 1 := by
    cases itr.serveEndKeyIfNeeded.1 <;> simp
  rw [CombinedIterator.results, List.length_append]
  omega

end Results

variable [OrderBot K]

def mergedState (db : VersionedDB K) (updates : UpdateBatch K) (ns : String) :
    List (K × VersionedValue) :=
  overlay (db.state ns) (updates.updates ns)

def mergedEndKeyEntry (db : VersionedDB K) (updates : UpdateBatch K) (ns : String) (endKey : K)
    (includeEndKey : Bool) : Option (K × VersionedValue) :=
  if includeEndKey then
    match find endKey (mergedState db updates ns) with
    | some vv => if isDelete vv then none else some (endKey, vv)
    | none => none
  else none

def mergedRangeScan (db : VersionedDB K) (updates : UpdateBatch K) (ns : String)
    (startKey endKey : K) (includeEndKey : Bool) : List (K × VersionedValue) :=
  ((mergedState db updates ns).filter fun entry =>
      inRange startKey endKey entry.1 && !isDelete entry.2) ++
    (mergedEndKeyEntry db updates ns endKey includeEndKey).toList

section Merged

variable (db : VersionedDB K) (updates : UpdateBatch K) (ns : String) (startKey endKey : K)
  (includeEndKey : Bool)

theorem newCombinedIterator_live :
    (newCombinedIterator db updates ns startKey endKey includeEndKey).live =
      (mergedState db updates ns).filter fun entry =>
        inRange startKey endKey entry.1 && !isDelete entry.2 := by
  simp only [CombinedIterator.live, CombinedIterator.pending, newCombinedIterator,
    VersionedDB.getStateRangeScanIterator, UpdateBatch.getRangeScanIterator_eq_filter]
  rw [overlay_filter (db.ordered ns) (updates.ordered ns), List.filter_filter, mergedState]
  apply List.filter_congr
  intro entry _
  exact Bool.and_comm _ _

theorem newCombinedIterator_serveEndKeyIfNeeded :
    (newCombinedIterator db updates ns startKey endKey includeEndKey).serveEndKeyIfNeeded.1 =
      mergedEndKeyEntry db updates ns endKey includeEndKey := by
  have merged : find endKey (mergedState db updates ns) =
      (updates.get ns endKey).or (db.getState ns endKey) :=
    find_overlay (db.ordered ns) (updates.ordered ns) endKey
  simp only [CombinedIterator.serveEndKeyIfNeeded, newCombinedIterator, mergedEndKeyEntry, merged]
  cases includeEndKey
  · rfl
  · cases (updates.get ns endKey).or (db.getState ns endKey) with
    | none => rfl
    | some vv => by_cases deleted : isDelete vv = true <;> simp [deleted]

theorem newCombinedIterator_results :
    (newCombinedIterator db updates ns startKey endKey includeEndKey).results =
      mergedRangeScan db updates ns startKey endKey includeEndKey := by
  rw [CombinedIterator.results, newCombinedIterator_live, newCombinedIterator_serveEndKeyIfNeeded,
    mergedRangeScan]

theorem newCombinedIterator_size :
    (newCombinedIterator db updates ns startKey endKey includeEndKey).size ≤
      (db.state ns).length + (updates.updates ns).length := by
  simp only [CombinedIterator.size, newCombinedIterator, VersionedDB.getStateRangeScanIterator,
    UpdateBatch.getRangeScanIterator_eq_filter]
  have dbLe := List.length_filter_le (fun entry => inRange startKey endKey entry.1) (db.state ns)
  have updatesLe :=
    List.length_filter_le (fun entry => inRange startKey endKey entry.1) (updates.updates ns)
  omega

/-- Calling `Next` on a new combined iterator until it returns nil gives the range scan of the
merged state: its live entries in the range, in strictly increasing key order, then the end key
once when it is to be included and is live. -/
theorem combined_iterator_is_merged_range_scan (fuel : Nat)
    (enough : (db.state ns).length + (updates.updates ns).length + 2 ≤ fuel) :
    (newCombinedIterator db updates ns startKey endKey includeEndKey).drainFrom fuel =
        mergedRangeScan db updates ns startKey endKey includeEndKey ∧
      Ordered ((mergedState db updates ns).filter fun entry =>
        inRange startKey endKey entry.1 && !isDelete entry.2) := by
  have size := newCombinedIterator_size db updates ns startKey endKey includeEndKey
  refine ⟨?_, (overlay_ordered (db.ordered ns) (updates.ordered ns)).filter _⟩
  rw [CombinedIterator.drainFrom_eq fuel _ (by omega)]
  exact newCombinedIterator_results db updates ns startKey endKey includeEndKey

end Merged

def putAndDeleteUpdates : UpdateBatch String :=
  (UpdateBatch.empty.put "mycc" "k7" [2] ⟨2, 0⟩).delete "mycc" "k3" ⟨2, 0⟩

example : (newCombinedIterator sixKeysDB putAndDeleteUpdates "mycc" "k2" "k5" true).drainFrom 10 =
    [("k2", ⟨some [1], ⟨1, 0⟩⟩), ("k4", ⟨some [1], ⟨1, 0⟩⟩), ("k5", ⟨some [1], ⟨1, 0⟩⟩)] := by
  decide

theorem combined_iterator_scan_of_put_and_delete :
    (sixKeysDB.state "mycc").length + (putAndDeleteUpdates.updates "mycc").length + 2 ≤ 10 ∧
      ((newCombinedIterator sixKeysDB putAndDeleteUpdates "mycc" "k2" "k5" true).drainFrom 10 =
          mergedRangeScan sixKeysDB putAndDeleteUpdates "mycc" "k2" "k5" true ∧
        Ordered ((mergedState sixKeysDB putAndDeleteUpdates "mycc").filter fun entry =>
          inRange "k2" "k5" entry.1 && !isDelete entry.2)) :=
  ⟨by decide, combined_iterator_is_merged_range_scan sixKeysDB putAndDeleteUpdates "mycc" "k2" "k5" true 10
    (by decide)⟩

end Fabric.Statebasedval
