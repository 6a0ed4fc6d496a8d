import Mathlib.Data.List.Sublists
import Fabric.Lib.GoSlice

/-! `common/graph`: trees of `TreeVertex`, their permutations (`perm.go`, `tree.go`) and the
choice of `k` out of `n` indices (`choose.go`).

`choose` keeps the slices it is handed: the index set it stores shares its backing array with
the slices the recursion goes on appending to, and is read only after the recursion returns.
The heap of backing arrays is therefore part of the model. -/

namespace Fabric.Graph

open GoSlice

abbrev IndiceSets := List Slice

/-- `choose`, with the heap of backing arrays and the stored slices threaded through. Each call
advances `i`, and the recursion stops once `i` passes `n`, so that `fuel` above `n - i` never
runs out (`choose_fuel`). -/
def choose (n : Nat) (targetAmount : Int) :
    Nat → Nat → Slice → Heap Nat × IndiceSets → Heap Nat × IndiceSets
  | 0, _, _, acc => acc
  | fuel + 1, i, currentSubGroup, (heap, subGroups) =>
      if (currentSubGroup.len : Int) = targetAmount then (heap, subGroups ++ [currentSubGroup])
      else
        let itemsLeftToPick : Int := n - i
        if targetAmount - currentSubGroup.len > itemsLeftToPick then (heap, subGroups)
        else
          -- either pick `i`, through `append(currentSubGroup, i)`, or do not
          let picked := append heap currentSubGroup i
          choose n targetAmount fuel (i + 1) currentSubGroup
            (choose n targetAmount fuel (i + 1) picked.2 (picked.1, subGroups))

/-- `chooseKoutOfN`: the stored slices, and the heap they are read in once `choose` has
returned. A negative `k` is never reached by `len(currentSubGroup)`, and the recursion of the
source never returns: `none`. -/
def chooseKoutOfN (n : Nat) (k : Int) : Option (Heap Nat × IndiceSets) :=
  if k < 0 then none else some (choose n k (n + 1) 0 nil ([], []))

def chosenIndices (n : Nat) (k : Int) : Option (List (List Nat)) :=
  (chooseKoutOfN n k).map fun (heap, sets) => sets.map (read heap)

section Choose

variable {n : Nat}

theorem choose_succ (k : Int) (fuel i : Nat) (cur : Slice) (heap : Heap Nat) (sets : IndiceSets) :
    choose n k (fuel + 1) i cur (heap, sets) =
      if (cur.len : Int) = k then (heap, sets ++ [cur])
      else if k - cur.len > (n : Int) - i then (heap, sets)
      else choose n k fuel (i + 1) cur
        (choose n k fuel (i + 1) (append heap cur i).2 ((append heap cur i).1, sets)) := rfl

theorem lt_of_recurse {k : Nat} {i : Nat} {cur : Slice} (bounded : cur.len ≤ k)
    (unfinished : ¬(cur.len : Int) = k) (enough : ¬(k : Int) - cur.len > (n : Int) - i) :
    i < n ∧ cur.len < k := by
  omega

theorem choose_fuel {k : Nat} : ∀ (fuel i : Nat) (cur : Slice) (acc : Heap Nat × IndiceSets),
    cur.len ≤ k → n - i < fuel → choose n k (fuel + 1) i cur acc = choose n k fuel i cur acc
  | 0, _, _, _, _, enough => absurd enough (Nat.not_lt_zero _)
  | fuel + 1, i, cur, (heap, sets), bounded, enough => by
      rw [choose_succ k (fuel + 1) i cur heap sets, choose_succ k fuel i cur heap sets]
      split_ifs with finished tooFew
      · rfl
      · rfl
      · obtain ⟨inside, short⟩ := lt_of_recurse bounded finished tooFew
        have picked : (append heap cur i).2.len ≤ k := by rw [append_len]; omega
        rw [choose_fuel fuel (i + 1) _ _ picked (by omega), choose_fuel fuel (i + 1) cur _ bounded (by omega)]

theorem choose_length {k : Nat} : ∀ (fuel i : Nat) (cur : Slice) (heap : Heap Nat) (sets : IndiceSets),
    cur.len ≤ k → n - i < fuel →
      (choose n k fuel i cur (heap, sets)).2.length = sets.length + (n - i).choose (k - cur.len)
  | 0, _, _, _, _, _, enough => absurd enough (Nat.not_lt_zero _)
  | fuel + 1, i, cur, heap, sets, bounded, enough => by
      rw [choose_succ]
      split_ifs with finished tooFew
      · have complete : k - cur.len = 0 := by omega
        simp [complete]
      · have none : (n - i).choose (k - cur.len) = 0 := Nat.choose_eq_zero_of_lt (by omega)
        simp [none]
      · obtain ⟨inside, short⟩ := lt_of_recurse bounded finished tooFew
        have picked : (append heap cur i).2.len ≤ k := by rw [append_len]; omega
        have pascal : (n - i).choose (k - cur.len) =
            (n - (i + 1)).choose (k - (cur.len + 1)) + (n - (i + 1)).choose (k - cur.len) := by
          obtain ⟨m, left⟩ : ∃ m, n - i = m + 1 := ⟨n - (i + 1), by omega⟩
          obtain ⟨j, missing⟩ : ∃ j, k - cur.len = j + 1 := ⟨k - (cur.len + 1), by omega⟩
          rw [left, missing, Nat.choose_succ_succ, show n - (i + 1) = m by omega,
            show k - (cur.len + 1) = j by omega]
        rw [choose_length fuel (i + 1) cur _ _ bounded (by omega),
          choose_length fuel (i + 1) _ _ sets picked (by omega), append_len, pascal]
        omega

theorem choose_fits {k : Int} {t : Slice} :
    ∀ (fuel i : Nat) (cur : Slice) (heap : Heap Nat) (sets : IndiceSets),
      Fits heap t → Fits (choose n k fuel i cur (heap, sets)).1 t
  | 0, _, _, _, _, fits => fits
  | fuel + 1, i, cur, heap, sets, fits => by
      rw [choose_succ]
      split_ifs
      · exact fits
      · exact fits
      · exact choose_fits fuel (i + 1) cur _ _ (choose_fits fuel (i + 1) _ _ sets (fits.append i))

structure Stored (n k : Nat) (heap : Heap Nat) (sets : IndiceSets) : Prop where
  fits : ∀ s ∈ sets, Fits heap s
  length : ∀ s ∈ sets, s.len = k
  entries : ∀ arr ∈ heap, ∀ x ∈ arr, x < n

theorem choose_stored {k : Nat} :
    ∀ (fuel i : Nat) (cur : Slice) (heap : Heap Nat) (sets : IndiceSets),
      Stored n k heap sets → Fits heap cur → cur.len ≤ k →
        Stored n k (choose n k fuel i cur (heap, sets)).1 (choose n k fuel i cur (heap, sets)).2
  | 0, _, _, _, _, stored, _, _ => stored
  | fuel + 1, i, cur, heap, sets, stored, fits, bounded => by
      rw [choose_succ]
      split_ifs with finished tooFew
      · refine ⟨fun s member => ?_, fun s member => ?_, stored.entries⟩
        · rcases List.mem_append.mp member with old | new
          · exact stored.fits s old
          · rw [List.mem_singleton.mp new]
            exact fits
        · rcases List.mem_append.mp member with old | new
          · exact stored.length s old
          · rw [List.mem_singleton.mp new]
            omega
      · exact stored
      · obtain ⟨inside, short⟩ := lt_of_recurse bounded finished tooFew
        -- the append writes `i`, below `n`, and fills with zero, below `n` too
        have picked : Stored n k (append heap cur i).1 sets :=
          ⟨fun s member => (stored.fits s member).append i, stored.length,
            append_entries stored.entries inside (show 0 < n by omega)⟩
        have first := choose_stored fuel (i + 1) _ _ sets picked (fits_append i fits)
          (by rw [append_len]; omega)
        exact choose_stored fuel (i + 1) cur _ _ first
          (choose_fits fuel (i + 1) _ _ sets (fits.append i)) bounded

theorem chosenIndices_spec (n k : Nat) :
    ∃ sets, chosenIndices n k = some sets ∧ sets.length = n.choose k ∧
      ∀ indices ∈ sets, indices.length = k ∧ ∀ index ∈ indices, index < n := by
  have counted := choose_length (n := n) (k := k) (n + 1) 0 nil [] [] (by simp [nil]) (by omega)
  have stored := choose_stored (n := n) (k := k) (n + 1) 0 nil [] []
    ⟨by simp, by simp, by simp⟩ (fits_nil []) (by simp [nil])
  have nonneg : ¬(k : Int) < 0 := by omega
  refine ⟨_, by simp only [chosenIndices, chooseKoutOfN, if_neg nonneg]; rfl, ?_, ?_⟩
  · simpa [nil] using counted
  · intro indices member
    obtain ⟨s, storedSlice, rfl⟩ := List.mem_map.mp member
    refine ⟨?_, mem_read stored.entries⟩
    rw [length_read (stored.fits s storedSlice), stored.length s storedSlice]

-- While every slice shorter than three is full, `append` only ever allocates, the heap only
-- grows, and each stored slice keeps the indices it had when it was stored. That is the case
-- for every `k` up to three: the slices built from nil have capacities 1, 2 and 4.

def ShortFull (cur : Slice) : Prop := cur.len ≤ 2 → Full cur

theorem shortFull_nil : ShortFull nil := fun _ => by simp [Full, nil]

theorem shortFull_append {heap : Heap Nat} {cur : Slice} {i : Nat} (fits : Fits heap cur)
    (full : Full cur) : ShortFull (append heap cur i).2 := by
  intro short
  have sized : cur.cap = cur.len := by have := fits.len_le; unfold Full at full; omega
  rw [append_of_full i full] at short ⊢
  simp only [Full, grow_cap, grow_len, growCap, sized] at short ⊢
  split <;> omega

theorem choose_reads_of_le_three {k : Nat} (small : k ≤ 3) :
    ∀ (fuel i : Nat) (cur : Slice) (heap : Heap Nat) (sets : IndiceSets),
    Fits heap cur → cur.len ≤ k → ShortFull cur → n - i < fuel →
      heap <+: (choose n k fuel i cur (heap, sets)).1 ∧
      ∃ added, (choose n k fuel i cur (heap, sets)).2 = sets ++ added ∧
        (∀ s ∈ added, Fits (choose n k fuel i cur (heap, sets)).1 s) ∧
        added.map (read (choose n k fuel i cur (heap, sets)).1) =
          (((List.range' i (n - i)).sublistsLen (k - cur.len)).reverse).map (read heap cur ++ ·)
  | 0, _, _, _, _, _, _, _, enough => absurd enough (Nat.not_lt_zero _)
  | fuel + 1, i, cur, heap, sets, fits, bounded, shortFull, enough => by
      rw [choose_succ]
      split_ifs with finished tooFew
      · have complete : k - cur.len = 0 := by omega
        refine ⟨List.prefix_refl heap, [cur], rfl, by simpa using fits, ?_⟩
        simp [complete]
      · have none : ((List.range' i (n - i)).sublistsLen (k - cur.len)) = [] :=
          List.sublistsLen_of_length_lt (by simp; omega)
        exact ⟨List.prefix_refl heap, [], by simp, by simp, by simp [none]⟩
      · obtain ⟨inside, short⟩ := lt_of_recurse bounded finished tooFew
        have full : Full cur := shortFull (by omega)
        -- the branch that picks `i` starts from a heap that only grew
        have grown : heap <+: (append heap cur i).1 := append_extends_of_full i full
        have pickedFits : Fits (append heap cur i).1 (append heap cur i).2 := fits_append i fits
        have pickedLen : (append heap cur i).2.len ≤ k := by rw [append_len]; omega
        obtain ⟨grown₁, added₁, sets₁, fits₁, reads₁⟩ :=
          choose_reads_of_le_three small fuel (i + 1) _ _ sets pickedFits pickedLen
            (shortFull_append fits full) (by omega)
        -- `cur` still sees what it saw, so the branch that skips `i` starts from it
        have curFits := fits_of_prefix (grown.trans grown₁) fits
        have curRead := read_of_prefix (grown.trans grown₁) fits
        obtain ⟨grown₂, added₂, sets₂, fits₂, reads₂⟩ :=
          choose_reads_of_le_three small fuel (i + 1) cur _ _ curFits bounded shortFull (by omega)
        refine ⟨grown.trans (grown₁.trans grown₂), added₁ ++ added₂,
          by rw [sets₂, sets₁, List.append_assoc], ?_, ?_⟩
        · intro s member
          rcases List.mem_append.mp member with early | late
          · exact fits_of_prefix grown₂ (fits₁ s early)
          · exact fits₂ s late
        · -- the sets of the first branch read the same in the final heap
          have kept := List.map_congr_left fun s member => read_of_prefix grown₂ (fits₁ s member)
          have range : List.range' i (n - i) = i :: List.range' (i + 1) (n - (i + 1)) := by
            rw [show n - i = n - (i + 1) + 1 by omega, List.range'_succ]
          have missing : k - cur.len = k - (cur.len + 1) + 1 := by omega
          rw [List.map_append, kept, reads₁, reads₂, curRead, read_append i fits, range, missing,
            List.sublistsLen_succ_cons, append_len]
          simp [Function.comp_def, List.map_reverse]

theorem chosenIndices_of_le_three {n k : Nat} (small : k ≤ 3) :
    chosenIndices n k = some ((List.range n).sublistsLen k).reverse := by
  obtain ⟨-, added, sets, -, reads⟩ := choose_reads_of_le_three (n := n) small (n + 1) 0 nil [] []
    (fits_nil []) (by simp [nil]) shortFull_nil (by omega)
  have nonneg : ¬(k : Int) < 0 := by omega
  simp only [chosenIndices, chooseKoutOfN, if_neg nonneg, Option.map_some, sets, List.nil_append, reads]
  simp [nil, GoSlice.read, List.range_eq_range']

/-- From four on, the slice of three that both branches extend has room for a fourth index, so
the branch that skips an index writes over the set the other branch stored: choosing four of
five stores `[0, 1, 2, 4]` twice and never `[0, 1, 2, 3]`. -/
theorem choose_four_of_five_stores_a_subset_twice :
    chosenIndices 5 4 = some [[0, 1, 2, 4], [0, 1, 2, 4], [0, 1, 3, 4], [0, 2, 3, 4], [1, 2, 3, 4]] ∧
      ((List.range 5).sublistsLen 4).reverse = [[0, 1, 2, 3], [0, 1, 2, 4], [0, 1, 3, 4], [0, 2, 3, 4], [1, 2, 3, 4]] :=
  ⟨by decide, by decide⟩

end Choose

/-- `TreeVertex`: `threshold` is the number of descendants a permutation keeps. -/
structure TreeVertex (α : Type) where
  id : String
  data : α
  descendants : List (TreeVertex α)
  threshold : Int

structure Tree (α : Type) where
  root : TreeVertex α

namespace TreeVertex

variable {α : Type}

def isLeaf (v : TreeVertex α) : Bool := v.descendants.isEmpty

def toTree (v : TreeVertex α) : Tree α := ⟨v⟩

@[simp] theorem toTree_root (v : TreeVertex α) : v.toTree.root = v := rfl

mutual
/-- `Find`: the first vertex with the given id, in depth-first order. -/
def find (id : String) : TreeVertex α → Option (TreeVertex α)
  | v@⟨vid, _, descendants, _⟩ => if vid = id then some v else findIn id descendants
def findIn (id : String) : List (TreeVertex α) → Option (TreeVertex α)
  | [] => none
  | u :: us =>
      match find id u with
      | some r => some r
      | none => findIn id us
end

def «exists» (v : TreeVertex α) (id : String) : Bool := (v.find id).isSome

mutual
/-- `Clone`: every vertex copied; the copy keeps no threshold. -/
def clone : TreeVertex α → TreeVertex α
  | ⟨id, data, descendants, _⟩ => ⟨id, data, cloneAll descendants, 0⟩
def cloneAll : List (TreeVertex α) → List (TreeVertex α)
  | [] => []
  | u :: us => clone u :: cloneAll us
end

mutual
/-- `replace`: the vertex with the given id takes the descendants of `r`. -/
def replace : TreeVertex α → String → TreeVertex α → TreeVertex α
  | ⟨vid, data, descendants, threshold⟩, id, r =>
      if vid = id then ⟨vid, data, r.descendants, threshold⟩
      else ⟨vid, data, replaceIn descendants id r, threshold⟩
def replaceIn : List (TreeVertex α) → String → TreeVertex α → List (TreeVertex α)
  | [], _, _ => []
  | u :: us, id, r => replace u id r :: replaceIn us id r
end

mutual
def size : TreeVertex α → Nat
  | ⟨_, _, descendants, _⟩ => sizeAll descendants + 1
def sizeAll : List (TreeVertex α) → Nat
  | [] => 0
  | u :: us => size u + sizeAll us
end

def bfsFrom : Nat → List (TreeVertex α) → List (TreeVertex α)
  -- each `Next` dequeues the first vertex and enqueues its descendants; the tree size is enough fuel
  | 0, _ => []
  | _ + 1, [] => []
  | fuel + 1, v :: arr => v :: bfsFrom fuel (arr ++ v.descendants)

def bfs (v : TreeVertex α) : List (TreeVertex α) := bfsFrom v.size [v]

def selectDescendants (v : TreeVertex α) (indices : List Nat) : List (TreeVertex α) :=
  indices.filterMap (v.descendants[·]?)

@[simp] theorem size_eq (v : TreeVertex α) : v.size = sizeAll v.descendants + 1 := by
  cases v
  rfl

@[simp] theorem sizeAll_nil : sizeAll ([] : List (TreeVertex α)) = 0 := rfl

@[simp] theorem sizeAll_cons (u : TreeVertex α) (us : List (TreeVertex α)) :
    sizeAll (u :: us) = u.size + sizeAll us := rfl

theorem sizeAll_append (us vs : List (TreeVertex α)) : sizeAll (us ++ vs) = sizeAll us + sizeAll vs := by
  induction us with
  | nil => simp
  | cons u us ih => simp [ih]; omega

theorem bfsFrom_fuel : ∀ (fuel : Nat) (arr : List (TreeVertex α)),
    sizeAll arr ≤ fuel → bfsFrom (fuel + 1) arr = bfsFrom fuel arr
  | 0, [], _ => rfl
  | 0, v :: _, enough => by simp at enough
  | _ + 1, [], _ => rfl
  | fuel + 1, v :: arr, enough => by
      have remaining : sizeAll (arr ++ v.descendants) ≤ fuel := by
        rw [sizeAll_append]
        simp at enough
        omega
      rw [bfsFrom, bfsFrom_fuel fuel _ remaining, bfsFrom]

theorem bfsFrom_of_leaves : ∀ (fuel : Nat) (us : List (TreeVertex α)),
    (∀ u ∈ us, u.descendants = []) → us.length ≤ fuel → bfsFrom fuel us = us
  | 0, [], _, _ => rfl
  | 0, _ :: _, _, enough => by simp at enough
  | _ + 1, [], _, _ => rfl
  | fuel + 1, u :: us, leaves, enough => by
      have rest : ∀ w ∈ us, w.descendants = [] := fun w member => leaves w (List.mem_cons_of_mem u member)
      rw [bfsFrom, leaves u List.mem_cons_self, List.append_nil,
        bfsFrom_of_leaves fuel us rest (by simp at enough; omega)]

theorem sizeAll_of_leaves : ∀ (us : List (TreeVertex α)), (∀ u ∈ us, u.descendants = []) → sizeAll us = us.length
  | [], _ => rfl
  | u :: us, leaves => by
      have rest : ∀ w ∈ us, w.descendants = [] := fun w member => leaves w (List.mem_cons_of_mem u member)
      simp [leaves u List.mem_cons_self, sizeAll_of_leaves us rest, sizeAll]
      omega

theorem bfs_of_leaves {v : TreeVertex α} (leaves : ∀ u ∈ v.descendants, u.descendants = []) :
    v.bfs = v :: v.descendants := by
  rw [bfs, size_eq, sizeAll_of_leaves _ leaves, bfsFrom, List.nil_append,
    bfsFrom_of_leaves _ _ leaves (le_refl _)]

theorem exists_self (v : TreeVertex α) : v.exists v.id = true := by
  cases v
  simp [TreeVertex.exists, find]

theorem clone_replace_self (v r : TreeVertex α) :
    v.clone.replace v.id r = ⟨v.id, v.data, r.descendants, 0⟩ := by
  cases v
  simp [clone, replace]

end TreeVertex

def Tree.bfs {α : Type} (t : Tree α) : List (TreeVertex α) := t.root.bfs

section Permute

variable {α : Type}

open TreeVertex

def computeDescendantPermutations (root : TreeVertex α) : Option (List (List (List (TreeVertex α)))) :=
  root.bfs.mapM fun v =>
    if v.descendants.length = 0 then some []
    else (chosenIndices v.descendants.length v.threshold).map (·.map v.selectDescendants)

def permuteVertex (v : TreeVertex α) (descendantPermutations : List (List (TreeVertex α)))
    (permutations : List (TreeVertex α)) : List (TreeVertex α) :=
  if v.descendants.length = 0 then permutations
  else
    let (permutationsWhereVexists, permutationsWhereVdoesntExist) :=
      permutations.partition (·.exists v.id)
    permutationsWhereVdoesntExist ++ permutationsWhereVexists.flatMap fun perm =>
      descendantPermutations.map fun permutation =>
        perm.clone.replace v.id ⟨v.id, v.data, permutation, 0⟩

def permute (root : TreeVertex α) : Option (List (TreeVertex α)) :=
  (computeDescendantPermutations root).map fun descendantPermutations =>
    (root.bfs.zip descendantPermutations).foldl
      (fun permutations entry => permuteVertex entry.1 entry.2 permutations) [root]

def Tree.permute (t : Tree α) : Option (List (Tree α)) :=
  (Graph.permute t.root).map (·.map toTree)

theorem permuteVertex_of_leaf {v : TreeVertex α} (leaf : v.descendants = [])
    (descendantPermutations : List (List (TreeVertex α))) (permutations : List (TreeVertex α)) :
    permuteVertex v descendantPermutations permutations = permutations := by
  simp [permuteVertex, leaf]

theorem permuteVertex_root {v : TreeVertex α} (gate : v.descendants ≠ [])
    (descendantPermutations : List (List (TreeVertex α))) :
    permuteVertex v descendantPermutations [v] =
      descendantPermutations.map fun permutation => ⟨v.id, v.data, permutation, 0⟩ := by
  simp [permuteVertex, gate, exists_self, clone_replace_self]

theorem foldl_permuteVertex_of_leaves (permutations : List (TreeVertex α)) :
    ∀ (us : List (TreeVertex α)) (ds : List (List (List (TreeVertex α)))),
      (∀ u ∈ us, u.descendants = []) →
        (us.zip ds).foldl (fun permutations entry => permuteVertex entry.1 entry.2 permutations)
          permutations = permutations
  | [], _, _ => rfl
  | _ :: _, [], _ => rfl
  | u :: us, d :: ds, leaves => by
      have rest : ∀ w ∈ us, w.descendants = [] := fun w member => leaves w (List.mem_cons_of_mem u member)
      rw [List.zip_cons_cons, List.foldl_cons, permuteVertex_of_leaf (leaves u List.mem_cons_self),
        foldl_permuteVertex_of_leaves permutations us ds rest]

theorem mapM_of_leaves (f : TreeVertex α → Option (List (List (TreeVertex α))))
    (leafEntry : ∀ u : TreeVertex α, u.descendants = [] → f u = some []) :
    ∀ us : List (TreeVertex α), (∀ u ∈ us, u.descendants = []) → ∃ ds, us.mapM f = some ds
  | [], _ => ⟨[], rfl⟩
  | u :: us, leaves => by
      have rest : ∀ w ∈ us, w.descendants = [] := fun w member => leaves w (List.mem_cons_of_mem u member)
      obtain ⟨ds, entries⟩ := mapM_of_leaves f leafEntry us rest
      exact ⟨[] :: ds, by simp [List.mapM_cons, leafEntry u (leaves u List.mem_cons_self), entries]⟩

theorem permute_of_leaves {v : TreeVertex α} (leaves : ∀ u ∈ v.descendants, u.descendants = [])
    (gate : v.descendants ≠ []) :
    permute v = (chosenIndices v.descendants.length v.threshold).map
      (·.map fun indices => ⟨v.id, v.data, v.selectDescendants indices, 0⟩) := by
  have nonempty : v.descendants.length ≠ 0 := by simpa using gate
  obtain ⟨ds, rest⟩ := mapM_of_leaves (fun v : TreeVertex α => if v.descendants.length = 0 then some []
      else (chosenIndices v.descendants.length v.threshold).map (·.map v.selectDescendants))
    (fun u leaf => by simp [leaf]) v.descendants leaves
  unfold permute computeDescendantPermutations
  rw [bfs_of_leaves leaves, List.mapM_cons, rest, if_neg nonempty]
  cases chosen : chosenIndices v.descendants.length v.threshold with
  | none => rfl
  | some sets =>
      -- the turn at the root replaces it by one clone per index set; the leaves keep them
      simp only [Option.map_some, Option.bind_eq_bind, Option.bind_some, Option.pure_def,
        List.zip_cons_cons, List.foldl_cons]
      rw [foldl_permuteVertex_of_leaves _ _ _ leaves, permuteVertex_root gate, List.map_map]
      rfl

end Permute

end Fabric.Graph
