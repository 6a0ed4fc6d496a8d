import Fabric.Ledger.Rwset

/-! The merkle tree that range-query hashing builds incrementally (`merkleTree` of
`query_results_helper.go`), over every run of `update`s: no level holds more than `maxDegree`
hashes, `maxLevel` is the highest non-empty level and only grows, and while it stays the same
its hashes are only appended to. `done` then folds the lower levels into the top one. Hence the
summary that `GetMerkleSummary` reports along the way is, at the final top level, a prefix of
the one `Done` returns. -/

namespace Fabric.Rwset

variable {K : Type}

@[simp] theorem setLevel_tree (m : MerkleTree) (level : Nat) (hashes : List Bytes) (l : Nat) :
    (m.setLevel level hashes).tree l = if l = level then hashes else m.tree l := rfl

@[simp] theorem setLevel_maxLevel (m : MerkleTree) (level : Nat) (hashes : List Bytes) :
    (m.setLevel level hashes).maxLevel = m.maxLevel := rfl

@[simp] theorem setLevel_maxDegree (m : MerkleTree) (level : Nat) (hashes : List Bytes) :
    (m.setLevel level hashes).maxDegree = m.maxDegree := rfl

def MerkleTree.foldUp (hash : Bytes → Bytes) (m : MerkleTree) (level : Nat) : MerkleTree :=
  let currentLevelHashes := m.tree level
  let nextLevel := level + 1
  let m := m.setLevel level []
  let m := m.setLevel nextLevel (m.tree nextLevel ++ [computeCombinedHash hash currentLevelHashes])
  if m.maxLevel < nextLevel then { m with maxLevel := nextLevel } else m

theorem carry_succ (hash : Bytes → Bytes) (fuel : Nat) (m : MerkleTree) (level : Nat) :
    m.carry hash (fuel + 1) level =
      if (m.tree level).length ≤ m.maxDegree then m else (m.foldUp hash level).carry hash fuel (level + 1) := rfl

theorem foldUp_tree (hash : Bytes → Bytes) (m : MerkleTree) (level l : Nat) :
    (m.foldUp hash level).tree l =
      if l = level + 1 then m.tree (level + 1) ++ [computeCombinedHash hash (m.tree level)]
      else if l = level then [] else m.tree l := by
  dsimp only [MerkleTree.foldUp]
  split <;> simp

theorem foldUp_maxLevel (hash : Bytes → Bytes) (m : MerkleTree) (level : Nat) :
    (m.foldUp hash level).maxLevel = max m.maxLevel (level + 1) := by
  by_cases higher : m.maxLevel < level + 1
  · simp [MerkleTree.foldUp, higher]
    omega
  · simp [MerkleTree.foldUp, higher]
    omega

theorem foldUp_maxDegree (hash : Bytes → Bytes) (m : MerkleTree) (level : Nat) :
    (m.foldUp hash level).maxDegree = m.maxDegree := by
  dsimp only [MerkleTree.foldUp]
  split <;> simp

def reduceLevel (hash : Bytes → Bytes) (hashes : List Bytes) : Bytes :=
  match hashes with
  | [single] => single
  | _ => computeCombinedHash hash hashes

def MerkleTree.raise (hash : Bytes → Bytes) (m : MerkleTree) (level : Nat) : MerkleTree :=
  (m.setLevel level []).setLevel (level + 1) (m.tree (level + 1) ++ [reduceLevel hash (m.tree level)])

theorem finish_succ (hash : Bytes → Bytes) (fuel : Nat) (m : MerkleTree) (level : Nat) :
    m.finish hash (fuel + 1) level =
      if m.maxLevel ≤ level then m
      else if m.tree level = [] then m.finish hash fuel (level + 1)
      else (m.raise hash level).finish hash fuel (level + 1) := by
  rw [MerkleTree.finish]
  split_ifs with top empty
  · rfl
  · simp only [empty]
  · -- a non-empty level: its hashes are reduced and pushed up
    obtain ⟨first, rest, hashes⟩ := List.exists_cons_of_ne_nil empty
    cases rest <;> simp [MerkleTree.raise, reduceLevel, hashes]

theorem raise_tree (hash : Bytes → Bytes) (m : MerkleTree) (level l : Nat) :
    (m.raise hash level).tree l =
      if l = level + 1 then m.tree (level + 1) ++ [reduceLevel hash (m.tree level)]
      else if l = level then [] else m.tree l := by
  simp [MerkleTree.raise]

structure Shaped (m : MerkleTree) : Prop where
  degree : 1 ≤ m.maxDegree
  ground : m.tree 0 = []
  low : 1 ≤ m.maxLevel
  bounded : ∀ level, (m.tree level).length ≤ m.maxDegree
  above : ∀ level, m.maxLevel < level → m.tree level = []
  topped : m.maxLevel = 1 ∨ m.tree m.maxLevel ≠ []

structure Carrying (m : MerkleTree) (level : Nat) : Prop where
  degree : 1 ≤ m.maxDegree
  ground : m.tree 0 = []
  positive : 1 ≤ level
  below : level ≤ m.maxLevel
  others : ∀ l, l ≠ level → (m.tree l).length ≤ m.maxDegree
  current : (m.tree level).length ≤ m.maxDegree + 1
  above : ∀ l, m.maxLevel < l → m.tree l = []
  top : m.tree m.maxLevel ≠ []

theorem Carrying.shaped {m : MerkleTree} {level : Nat} (carrying : Carrying m level)
    (fits : (m.tree level).length ≤ m.maxDegree) : Shaped m ∧ m.tree m.maxLevel ≠ [] := by
  refine ⟨⟨carrying.degree, carrying.ground, by have := carrying.positive; have := carrying.below; omega,
    fun l => ?_, carrying.above, .inr carrying.top⟩, carrying.top⟩
  by_cases here : l = level
  · rw [here]
    exact fits
  · exact carrying.others l here

theorem Carrying.foldUp {m : MerkleTree} {level : Nat} (carrying : Carrying m level) (hash : Bytes → Bytes) :
    Carrying (m.foldUp hash level) (level + 1) := by
  have next : level + 1 ≠ level := by omega
  constructor
  · rw [foldUp_maxDegree]
    exact carrying.degree
  · rw [foldUp_tree, if_neg (by omega), if_neg (by have := carrying.positive; omega)]
    exact carrying.ground
  · omega
  · rw [foldUp_maxLevel]
    omega
  · intro l other
    rw [foldUp_tree, foldUp_maxDegree, if_neg other]
    split
    · simp
    · exact carrying.others l ‹_›
  · rw [foldUp_tree, foldUp_maxDegree, if_pos rfl, List.length_append, List.length_singleton]
    have := carrying.others (level + 1) next
    omega
  · intro l higher
    rw [foldUp_maxLevel] at higher
    rw [foldUp_tree, if_neg (by omega), if_neg (by omega)]
    exact carrying.above l (by omega)
  · -- the top keeps its hashes, or the next level is the new top with one hash
    rw [foldUp_maxLevel, foldUp_tree]
    by_cases newTop : m.maxLevel < level + 1
    · rw [max_eq_right newTop.le, if_pos rfl]
      simp
    · rw [max_eq_left (by omega)]
      split
      · simp
      · rw [if_neg (by omega)]
        exact carrying.top

theorem carry_shaped (hash : Bytes → Bytes) :
    ∀ (fuel : Nat) (m : MerkleTree) (level : Nat), Carrying m level →
      m.maxLevel + 1 - level ≤ fuel ∨ (m.tree level).length ≤ m.maxDegree →
      Shaped (m.carry hash fuel level) ∧ (m.carry hash fuel level).tree (m.carry hash fuel level).maxLevel ≠ [] := by
  intro fuel
  induction fuel with
  | zero =>
    intro m level carrying enough
    have fits : (m.tree level).length ≤ m.maxDegree := by
      have := carrying.below
      omega
    exact carrying.shaped fits
  | succ fuel ih =>
    intro m level carrying enough
    rw [carry_succ]
    split_ifs with fits
    · exact carrying.shaped fits
    · apply ih _ _ (carrying.foldUp hash)
      -- below the top the fuel still covers the way up; at the top the new level holds one hash
      by_cases top : level = m.maxLevel
      · right
        rw [foldUp_tree, if_pos rfl, foldUp_maxDegree, carrying.above (level + 1) (by omega)]
        simpa using carrying.degree
      · left
        rw [foldUp_maxLevel]
        have := carrying.below
        omega

theorem le_carry_maxLevel (hash : Bytes → Bytes) :
    ∀ (fuel : Nat) (m : MerkleTree) (level : Nat), m.maxLevel ≤ (m.carry hash fuel level).maxLevel := by
  intro fuel
  induction fuel with
  | zero => exact fun m level => le_refl _
  | succ fuel ih =>
    intro m level
    rw [carry_succ]
    split
    · exact le_refl _
    · calc m.maxLevel ≤ (m.foldUp hash level).maxLevel := by rw [foldUp_maxLevel]; exact le_max_left _ _
        _ ≤ _ := ih _ _

theorem carry_prefix (hash : Bytes → Bytes) :
    ∀ (fuel : Nat) (m : MerkleTree) (level : Nat), level ≤ m.maxLevel →
      (m.carry hash fuel level).maxLevel = m.maxLevel → m.tree m.maxLevel <+: (m.carry hash fuel level).tree m.maxLevel := by
  intro fuel
  induction fuel with
  | zero => exact fun m level _ _ => List.prefix_refl _
  | succ fuel ih =>
    intro m level below same
    rw [carry_succ] at same ⊢
    split_ifs at same ⊢ with fits
    · exact List.prefix_refl _
    · -- folding the top level would raise the top for good
      have grown := le_carry_maxLevel hash fuel (m.foldUp hash level) (level + 1)
      rw [foldUp_maxLevel] at grown
      have inside : level < m.maxLevel := by omega
      have kept : (m.foldUp hash level).maxLevel = m.maxLevel := by rw [foldUp_maxLevel]; omega
      have later := ih (m.foldUp hash level) (level + 1) (by omega) (same.trans kept.symm)
      rw [kept] at later
      refine List.IsPrefix.trans ?_ later
      rw [foldUp_tree]
      split
      · rename_i atTop
        simp only [atTop, List.prefix_append]
      · split
        · omega
        · exact List.prefix_refl _

theorem newMerkleTree_eq_ok {maxDegree : Nat} {m : MerkleTree} (created : newMerkleTree maxDegree = .ok m) :
    2 ≤ maxDegree ∧ m = ⟨fun _ => [], 1, maxDegree⟩ := by
  unfold newMerkleTree at created
  split at created
  · cases created
  · cases created
    exact ⟨by omega, rfl⟩

theorem shaped_new {maxDegree : Nat} {m : MerkleTree} (created : newMerkleTree maxDegree = .ok m) : Shaped m := by
  obtain ⟨degree, rfl⟩ := newMerkleTree_eq_ok created
  exact ⟨by simp only; omega, rfl, le_refl 1, fun _ => by simp, fun _ _ => rfl, .inl rfl⟩

theorem Shaped.carrying {m : MerkleTree} (shaped : Shaped m) (leaf : Bytes) :
    Carrying (m.setLevel 1 (m.tree 1 ++ [leaf])) 1 := by
  constructor
  · exact shaped.degree
  · simpa using shaped.ground
  · exact le_refl 1
  · exact shaped.low
  · intro l other
    simpa [other] using shaped.bounded l
  · simpa using shaped.bounded 1
  · intro l higher
    rw [setLevel_maxLevel] at higher
    have := shaped.low
    rw [setLevel_tree, if_neg (by omega)]
    exact shaped.above l higher
  · -- the first level now holds the leaf; a higher top held hashes already
    rcases shaped.topped with first | full
    · simp [first]
    · by_cases first : m.maxLevel = 1
      · simp [first]
      · simpa [first] using full

theorem update_shaped {m : MerkleTree} (shaped : Shaped m) (hash : Bytes → Bytes) (leaf : Bytes) :
    Shaped (m.update hash leaf) ∧ (m.update hash leaf).tree (m.update hash leaf).maxLevel ≠ [] :=
  carry_shaped hash _ _ 1 (shaped.carrying leaf) (.inl (by simp))

structure Grows (m m' : MerkleTree) : Prop where
  maxDegree : m'.maxDegree = m.maxDegree
  maxLevel : m.maxLevel ≤ m'.maxLevel
  top : m'.maxLevel = m.maxLevel → m.tree m.maxLevel <+: m'.tree m.maxLevel

theorem Grows.refl (m : MerkleTree) : Grows m m := ⟨rfl, le_refl _, fun _ => List.prefix_refl _⟩

theorem Grows.trans {m m' m'' : MerkleTree} (first : Grows m m') (second : Grows m' m'') : Grows m m'' := by
  refine ⟨second.maxDegree.trans first.maxDegree, first.maxLevel.trans second.maxLevel, fun same => ?_⟩
  have stays : m'.maxLevel = m.maxLevel := le_antisymm (same ▸ second.maxLevel) first.maxLevel
  have later := second.top (same.trans stays.symm)
  rw [stays] at later
  exact (first.top stays).trans later

theorem carry_maxDegree (hash : Bytes → Bytes) :
    ∀ (fuel : Nat) (m : MerkleTree) (level : Nat), (m.carry hash fuel level).maxDegree = m.maxDegree := by
  intro fuel
  induction fuel with
  | zero => exact fun m level => rfl
  | succ fuel ih =>
    intro m level
    rw [carry_succ]
    split
    · rfl
    · rw [ih, foldUp_maxDegree]

theorem update_grows {m : MerkleTree} (shaped : Shaped m) (hash : Bytes → Bytes) (leaf : Bytes) :
    Grows m (m.update hash leaf) := by
  have grown := le_carry_maxLevel hash (m.maxLevel + 1) (m.setLevel 1 (m.tree 1 ++ [leaf])) 1
  refine ⟨carry_maxDegree hash _ _ 1, grown, fun same => ?_⟩
  have later := carry_prefix hash (m.maxLevel + 1) (m.setLevel 1 (m.tree 1 ++ [leaf])) 1 shaped.low same
  simp only [setLevel_maxLevel] at later
  refine List.IsPrefix.trans ?_ later
  rw [setLevel_tree]
  split
  · rename_i first
    rw [first]
    exact List.prefix_append _ _
  · exact List.prefix_refl _

structure Finishing (m₀ m : MerkleTree) (level : Nat) : Prop where
  maxLevel : m.maxLevel = m₀.maxLevel
  maxDegree : m.maxDegree = m₀.maxDegree
  below : level ≤ m₀.maxLevel
  cleared : ∀ l, l < level → m.tree l = []
  kept : ∀ l, level < l → m.tree l = m₀.tree l
  top : level = m₀.maxLevel → m₀.tree level <+: m.tree level ∧ (m.tree level).length ≤ (m₀.tree level).length + 1

theorem Finishing.next {m₀ m : MerkleTree} {level : Nat} (finishing : Finishing m₀ m level)
    (empty : m.tree level = []) (inside : level < m₀.maxLevel) : Finishing m₀ m (level + 1) := by
  refine ⟨finishing.maxLevel, finishing.maxDegree, inside, fun l lower => ?_, fun l higher => finishing.kept l (by omega),
    fun _ => ?_⟩
  · by_cases here : l = level
    · rw [here]
      exact empty
    · exact finishing.cleared l (by omega)
  · rw [finishing.kept (level + 1) (by omega)]
    exact ⟨List.prefix_refl _, by omega⟩

theorem Finishing.raise {m₀ m : MerkleTree} {level : Nat} (finishing : Finishing m₀ m level) (hash : Bytes → Bytes)
    (inside : level < m₀.maxLevel) : Finishing m₀ (m.raise hash level) (level + 1) := by
  refine ⟨finishing.maxLevel, finishing.maxDegree, inside, fun l lower => ?_, fun l higher => ?_, fun _ => ?_⟩
  · rw [raise_tree, if_neg (by omega)]
    split
    · rfl
    · exact finishing.cleared l (by omega)
  · rw [raise_tree, if_neg (by omega), if_neg (by omega)]
    exact finishing.kept l (by omega)
  · -- the level below pushes one hash onto the top
    rw [raise_tree, if_pos rfl, finishing.kept (level + 1) (by omega)]
    exact ⟨List.prefix_append _ _, by simp⟩

theorem finish_finishing (hash : Bytes → Bytes) (m₀ : MerkleTree) :
    ∀ (fuel : Nat) (m : MerkleTree) (level : Nat), Finishing m₀ m level → m₀.maxLevel - level ≤ fuel →
      Finishing m₀ (m.finish hash fuel level) m₀.maxLevel := by
  intro fuel
  induction fuel with
  | zero =>
    intro m level finishing enough
    have top : level = m₀.maxLevel := by have := finishing.below; omega
    rw [← top]
    exact finishing
  | succ fuel ih =>
    intro m level finishing enough
    rw [finish_succ]
    split_ifs with top empty
    · have atTop : level = m₀.maxLevel := by have := finishing.below; have := finishing.maxLevel; omega
      rw [← atTop]
      exact finishing
    · exact ih m (level + 1) (finishing.next empty (by have := finishing.maxLevel; omega)) (by omega)
    · exact ih _ (level + 1) (finishing.raise hash (by have := finishing.maxLevel; omega)) (by omega)

theorem finishing_start {m : MerkleTree} (shaped : Shaped m) : Finishing m m 1 :=
  ⟨rfl, rfl, shaped.low, fun l lower => by rw [show l = 0 by omega]; exact shaped.ground, fun _ _ => rfl,
    fun _ => ⟨List.prefix_refl _, by omega⟩⟩

theorem done_spec {m : MerkleTree} (shaped : Shaped m) (top : m.tree m.maxLevel ≠ []) (hash : Bytes → Bytes) :
    (∀ l, l < (m.done hash).maxLevel → (m.done hash).tree l = []) ∧
      1 ≤ ((m.done hash).tree (m.done hash).maxLevel).length ∧
      ((m.done hash).tree (m.done hash).maxLevel).length ≤ (m.done hash).maxDegree ∧
      Grows m (m.done hash) := by
  have finished := finish_finishing hash m m.maxLevel m 1 (finishing_start shaped) (by omega)
  obtain ⟨appended, atMost⟩ := finished.top rfl
  have nonempty : 1 ≤ ((m.finish hash m.maxLevel 1).tree m.maxLevel).length := by
    have := appended.length_le
    have := List.length_pos_iff.mpr top
    omega
  dsimp only [MerkleTree.done]
  split_ifs with overfull
  · -- the top overflows: its hashes become the single hash of a new top
    simp only [setLevel_tree, setLevel_maxLevel, setLevel_maxDegree, finished.maxLevel, finished.maxDegree, if_pos]
    refine ⟨fun l lower => ?_, by simp, by simpa using shaped.degree, ⟨by simp, by simp, fun same => by simp at same⟩⟩
    rw [if_neg (by omega)]
    split
    · rfl
    · exact finished.cleared l (by omega)
  · simp only [finished.maxLevel, finished.maxDegree] at overfull ⊢
    exact ⟨fun l lower => finished.cleared l lower, nonempty, by omega,
      ⟨finished.maxDegree, finished.maxLevel.ge, fun _ => appended⟩⟩

theorem foldl_update_shaped (hash : Bytes → Bytes) :
    ∀ (leaves : List Bytes) {m : MerkleTree}, Shaped m →
      Shaped (leaves.foldl (·.update hash ·) m) ∧ Grows m (leaves.foldl (·.update hash ·) m) ∧
        (leaves ≠ [] → (leaves.foldl (·.update hash ·) m).tree (leaves.foldl (·.update hash ·) m).maxLevel ≠ []) := by
  intro leaves
  induction leaves with
  | nil => exact fun shaped => ⟨shaped, Grows.refl _, fun absurd => (absurd rfl).elim⟩
  | cons leaf rest ih =>
    intro m shaped
    obtain ⟨updated, top⟩ := update_shaped shaped hash leaf
    obtain ⟨shaped', grows, nonempty⟩ := ih updated
    refine ⟨shaped', (update_grows shaped hash leaf).trans grows, fun _ => ?_⟩
    -- the last leaf of the run is this one, or a later one
    cases rest with
    | nil => exact top
    | cons => exact nonempty (List.cons_ne_nil _ _)

theorem processPendingResults_mt (hashing : QueryHashing K) (helper : RangeQueryResultsHelper K) :
    (helper.processPendingResults hashing).mt =
      helper.mt.update hashing.hash (hashing.hash (hashing.serializeKVReads helper.pendingResults)) := rfl

theorem addResult_mt (hashing : QueryHashing K) (helper : RangeQueryResultsHelper K) (kvRead : KVRead K) :
    (helper.addResult hashing kvRead).mt = helper.mt ∨
      ∃ leaf, (helper.addResult hashing kvRead).mt = helper.mt.update hashing.hash leaf := by
  simp only [RangeQueryResultsHelper.addResult]
  split
  · exact .inr ⟨_, processPendingResults_mt hashing _⟩
  · exact .inl rfl

theorem addResult_shaped (hashing : QueryHashing K) {helper : RangeQueryResultsHelper K} (shaped : Shaped helper.mt)
    (kvRead : KVRead K) : Shaped (helper.addResult hashing kvRead).mt ∧ Grows helper.mt (helper.addResult hashing kvRead).mt := by
  rcases addResult_mt hashing helper kvRead with same | ⟨leaf, fed⟩
  · rw [same]
    exact ⟨shaped, Grows.refl _⟩
  · rw [fed]
    exact ⟨(update_shaped shaped hashing.hash leaf).1, update_grows shaped hashing.hash leaf⟩

theorem foldl_addResult_shaped (hashing : QueryHashing K) :
    ∀ (results : List (KVRead K)) {helper : RangeQueryResultsHelper K}, Shaped helper.mt →
      Shaped (results.foldl (·.addResult hashing ·) helper).mt ∧
        Grows helper.mt (results.foldl (·.addResult hashing ·) helper).mt := by
  intro results
  induction results with
  | nil => exact fun shaped => ⟨shaped, Grows.refl _⟩
  | cons kvRead rest ih =>
    intro helper shaped
    obtain ⟨shaped', grows⟩ := addResult_shaped hashing shaped kvRead
    obtain ⟨shaped'', grows'⟩ := ih shaped'
    exact ⟨shaped'', grows.trans grows'⟩

theorem Shaped.top_of_not_isEmpty {m : MerkleTree} (shaped : Shaped m) (full : m.isEmpty = false) :
    m.tree m.maxLevel ≠ [] := by
  intro empty
  rcases shaped.topped with first | nonempty
  · rw [first] at empty
    simp [MerkleTree.isEmpty, first, empty] at full
  · exact nonempty empty

theorem done_grows (hashing : QueryHashing K) {helper : RangeQueryResultsHelper K} (shaped : Shaped helper.mt)
    {summary : QueryReadsMerkleSummary} (reported : (helper.done hashing).2 = some summary) :
    ∃ m, Grows helper.mt m ∧ m.getSummery = summary := by
  unfold RangeQueryResultsHelper.done at reported
  by_cases empty : (!helper.hashingEnabled || helper.mt.isEmpty) = true
  · simp [empty] at reported
  simp only [empty, if_false, Bool.false_eq_true, Option.some.injEq] at reported
  subst reported
  obtain ⟨-, full⟩ : helper.hashingEnabled = true ∧ helper.mt.isEmpty = false := by simpa using empty
  -- the pending results become a last leaf first, unless there are none
  obtain ⟨processedShaped, top, grows⟩ :
      Shaped (if helper.pendingResults.isEmpty then helper else helper.processPendingResults hashing).mt ∧
        (if helper.pendingResults.isEmpty then helper else helper.processPendingResults hashing).mt.tree
          (if helper.pendingResults.isEmpty then helper else helper.processPendingResults hashing).mt.maxLevel ≠ [] ∧
        Grows helper.mt (if helper.pendingResults.isEmpty then helper else helper.processPendingResults hashing).mt := by
    by_cases pending : helper.pendingResults.isEmpty
    · rw [if_pos pending]
      exact ⟨shaped, shaped.top_of_not_isEmpty full, Grows.refl _⟩
    · rw [if_neg pending, processPendingResults_mt]
      obtain ⟨updated, top⟩ := update_shaped shaped hashing.hash (hashing.hash (hashing.serializeKVReads helper.pendingResults))
      exact ⟨updated, top, update_grows shaped _ _⟩
  exact ⟨_, grows.trans (done_spec processedShaped top hashing.hash).2.2.2, rfl⟩

theorem newRangeQueryResultsHelper_mt {maxDegree : Nat} {helper : RangeQueryResultsHelper K}
    (created : newRangeQueryResultsHelper true maxDegree = .ok helper) : newMerkleTree maxDegree = .ok helper.mt := by
  simp only [newRangeQueryResultsHelper, if_true] at created
  cases tree : newMerkleTree maxDegree with
  | error message =>
    rw [tree] at created
    cases created
  | ok mt =>
    rw [tree] at created
    cases created
    rfl

/-- The incremental merkle tree of range-query hashing, from `newMerkleTree`: after each update
every level holds at most `maxDegree` hashes, `maxLevel` is the highest non-empty level, it never
decreases, and its hashes are only appended to while it stays; `done` after at least one leaf
leaves every lower level empty and between one and `maxDegree` hashes at the top; and a summary
that the helper reports along a run of results is, at the final top level, a prefix of the one
`Done` reports at the end. -/
theorem merkle_tree_shape_over_nonempty_runs {maxDegree : Nat} {m₀ : MerkleTree}
    (created : newMerkleTree maxDegree = .ok m₀) (hash : Bytes → Bytes) :
    (∀ (leaves : List Bytes) (leaf : Bytes),
      let m := leaves.foldl (·.update hash ·) m₀
      let m' := m.update hash leaf
      (∀ level, (m'.tree level).length ≤ maxDegree) ∧
        m'.tree m'.maxLevel ≠ [] ∧ (∀ level, m'.maxLevel < level → m'.tree level = []) ∧
        m.maxLevel ≤ m'.maxLevel ∧ (m'.maxLevel = m.maxLevel → m.tree m.maxLevel <+: m'.tree m.maxLevel)) ∧
    (∀ leaves : List Bytes, leaves ≠ [] →
      let m := (leaves.foldl (·.update hash ·) m₀).done hash
      (∀ level, level < m.maxLevel → m.tree level = []) ∧
        1 ≤ (m.tree m.maxLevel).length ∧ (m.tree m.maxLevel).length ≤ maxDegree) ∧
    ∀ (hashing : QueryHashing K) (helper : RangeQueryResultsHelper K),
      newRangeQueryResultsHelper true maxDegree = .ok helper →
      ∀ (results rest : List (KVRead K)) (summary final : QueryReadsMerkleSummary),
        (results.foldl (·.addResult hashing ·) helper).getMerkleSummary = some summary →
        (((results ++ rest).foldl (·.addResult hashing ·) helper).done hashing).2 = some final →
        summary.maxLevel ≤ final.maxLevel ∧
          (summary.maxLevel = final.maxLevel → summary.maxLevelHashes <+: final.maxLevelHashes) := by
  have shaped₀ := shaped_new created
  obtain ⟨-, rfl⟩ := newMerkleTree_eq_ok created
  refine ⟨fun leaves leaf => ?_, fun leaves nonempty => ?_, ?_⟩
  · -- one more update after any run
    obtain ⟨shaped, grows, -⟩ := foldl_update_shaped hash leaves shaped₀
    obtain ⟨updated, top⟩ := update_shaped shaped hash leaf
    have grows' := update_grows shaped hash leaf
    have degree := grows'.maxDegree.trans grows.maxDegree
    exact ⟨fun level => (updated.bounded level).trans_eq degree, top, updated.above, grows'.maxLevel, grows'.top⟩
  · -- `done` after a run with at least one leaf
    obtain ⟨shaped, grows, top⟩ := foldl_update_shaped hash leaves shaped₀
    obtain ⟨cleared, one, atMost, finished⟩ := done_spec shaped (top nonempty) hash
    have degree := finished.maxDegree.trans grows.maxDegree
    exact ⟨cleared, one, atMost.trans_eq degree⟩
  · -- the helper's tree after the first results grows into the one `Done` summarises
    intro hashing helper createdHelper results rest summary final intermediate reported
    have shapedHelper := shaped_new (newRangeQueryResultsHelper_mt createdHelper)
    obtain ⟨shapedMid, -⟩ := foldl_addResult_shaped hashing results shapedHelper
    rw [List.foldl_append] at reported
    obtain ⟨shapedEnd, growsRest⟩ := foldl_addResult_shaped hashing rest shapedMid
    obtain ⟨mt, growsDone, rfl⟩ := done_grows hashing shapedEnd reported
    have total := growsRest.trans growsDone
    have mid : summary = (results.foldl (·.addResult hashing ·) helper).mt.getSummery := by
      unfold RangeQueryResultsHelper.getMerkleSummary at intermediate
      split at intermediate
      · exact (Option.some.inj intermediate).symm
      · cases intermediate
    subst mid
    refine ⟨total.maxLevel, fun same => ?_⟩
    -- at the same top level the summaries are the top hashes of the two trees
    have stays : mt.maxLevel = (results.foldl (·.addResult hashing ·) helper).mt.maxLevel := same.symm
    simp only [MerkleTree.getSummery]
    rw [stays]
    exact total.top stays

theorem merkle_tree_shape_over_nonempty_runs_of_degree_two :
    newMerkleTree 2 = .ok ⟨fun _ => [], 1, 2⟩ ∧
    (∀ (leaves : List Bytes) (leaf : Bytes),
      let m := leaves.foldl (·.update id ·) (⟨fun _ => [], 1, 2⟩ : MerkleTree)
      let m' := m.update id leaf
      (∀ level, (m'.tree level).length ≤ 2) ∧
        m'.tree m'.maxLevel ≠ [] ∧ (∀ level, m'.maxLevel < level → m'.tree level = []) ∧
        m.maxLevel ≤ m'.maxLevel ∧ (m'.maxLevel = m.maxLevel → m.tree m.maxLevel <+: m'.tree m.maxLevel)) ∧
    (∀ leaves : List Bytes, leaves ≠ [] →
      let m := (leaves.foldl (·.update id ·) (⟨fun _ => [], 1, 2⟩ : MerkleTree)).done id
      (∀ level, level < m.maxLevel → m.tree level = []) ∧
        1 ≤ (m.tree m.maxLevel).length ∧ (m.tree m.maxLevel).length ≤ 2) ∧
    ∀ (hashing : QueryHashing String) (helper : RangeQueryResultsHelper String),
      newRangeQueryResultsHelper true 2 = .ok helper →
      ∀ (results rest : List (KVRead String)) (summary final : QueryReadsMerkleSummary),
        (results.foldl (·.addResult hashing ·) helper).getMerkleSummary = some summary →
        (((results ++ rest).foldl (·.addResult hashing ·) helper).done hashing).2 = some final →
        summary.maxLevel ≤ final.maxLevel ∧
          (summary.maxLevel = final.maxLevel → summary.maxLevelHashes <+: final.maxLevelHashes) :=
  ⟨rfl, @merkle_tree_shape_over_nonempty_runs String 2 ⟨fun _ => [], 1, 2⟩ rfl id⟩

/-- `done` on the tree `newMerkleTree` returns, before any leaf: the top is still the first level
and holds no hash. -/
theorem done_before_any_leaf_leaves_no_hash :
    newMerkleTree 2 = .ok ⟨fun _ => [], 1, 2⟩ ∧
      let m := (([] : List Bytes).foldl (·.update id ·) (⟨fun _ => [], 1, 2⟩ : MerkleTree)).done id
      m.maxLevel = 1 ∧ (m.tree m.maxLevel).length = 0 :=
  ⟨rfl, rfl, rfl⟩

end Fabric.Rwset
