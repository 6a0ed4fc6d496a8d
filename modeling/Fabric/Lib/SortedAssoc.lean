import Mathlib.Data.List.Sort

/-! Association lists whose keys strictly increase: a sorted map in the order a sorted store
iterates it. `overlay` is the right-biased union of two of them. -/

namespace SortedAssoc

variable {K V : Type} [LinearOrder K]

def Ordered (entries : List (K × V)) : Prop := entries.Pairwise fun a b => a.1 < b.1

instance (entries : List (K × V)) : Decidable (Ordered entries) :=
  inferInstanceAs (Decidable (entries.Pairwise fun a b => a.1 < b.1))

def find (key : K) : List (K × V) → Option V
  | [] => none
  | entry :: rest => if entry.1 = key then some entry.2 else find key rest

def insert (key : K) (value : V) : List (K × V) → List (K × V)
  | [] => [(key, value)]
  | entry :: rest =>
      if key < entry.1 then (key, value) :: entry :: rest
      else if key = entry.1 then (key, value) :: rest
      else entry :: insert key value rest

def overlay : List (K × V) → List (K × V) → List (K × V)
  | [], upper => upper
  | lower, [] => lower
  | low :: lower, up :: upper =>
      if low.1 < up.1 then low :: overlay lower (up :: upper)
      else if low.1 = up.1 then up :: overlay lower upper
      else up :: overlay (low :: lower) upper
termination_by lower upper => lower.length + upper.length

@[simp] theorem ordered_nil : Ordered ([] : List (K × V)) := List.Pairwise.nil

@[simp] theorem ordered_cons {entry : K × V} {rest : List (K × V)} :
    Ordered (entry :: rest) ↔ (∀ e ∈ rest, entry.1 < e.1) ∧ Ordered rest :=
  List.pairwise_cons

@[simp] theorem find_nil (key : K) : find key ([] : List (K × V)) = none := rfl

@[simp] theorem find_cons (key : K) (entry : K × V) (rest : List (K × V)) :
    find key (entry :: rest) = if entry.1 = key then some entry.2 else find key rest := rfl

theorem mem_of_find_eq_some {key : K} {value : V} :
    ∀ {entries : List (K × V)}, find key entries = some value → (key, value) ∈ entries
  | [], found => by simp at found
  | entry :: rest, found => by
      by_cases keyOk : entry.1 = key
      · simp only [find_cons, keyOk, if_true, Option.some.injEq] at found
        subst keyOk found
        simp
      · simp only [find_cons, keyOk, if_false] at found
        exact List.mem_cons_of_mem _ (mem_of_find_eq_some found)

theorem find_eq_none_of_lt {key : K} :
    ∀ {entries : List (K × V)}, (∀ e ∈ entries, key < e.1) → find key entries = none
  | [], _ => rfl
  | entry :: rest, below => by
      have ne : entry.1 ≠ key := ne_of_gt (below entry (by simp))
      simp only [find_cons, ne, if_false]
      exact find_eq_none_of_lt fun e holds => below e (List.mem_cons_of_mem _ holds)

theorem find_eq_some_of_mem {key : K} {value : V} :
    ∀ {entries : List (K × V)}, Ordered entries → (key, value) ∈ entries →
      find key entries = some value
  | [], _, member => by simp at member
  | entry :: rest, ordered, member => by
      rw [ordered_cons] at ordered
      rcases List.mem_cons.mp member with head | tail
      · subst head
        simp
      · have below := ordered.1 _ tail
        simp only [find_cons, ne_of_lt below, if_false]
        exact find_eq_some_of_mem ordered.2 tail

theorem find_eq_some_iff {key : K} {value : V} {entries : List (K × V)}
    (ordered : Ordered entries) : find key entries = some value ↔ (key, value) ∈ entries :=
  ⟨mem_of_find_eq_some, find_eq_some_of_mem ordered⟩

theorem Ordered.eq_of_mem_iff {entries entries' : List (K × V)} (ordered : Ordered entries)
    (ordered' : Ordered entries') (same : ∀ entry, entry ∈ entries ↔ entry ∈ entries') :
    entries = entries' :=
  @List.Pairwise.eq_of_mem_iff (K × V) (fun a b => a.1 < b.1) ⟨fun _ _ lt gt => absurd gt (lt_asymm lt)⟩
    ⟨fun a => lt_irrefl a.1⟩ entries entries' ordered ordered' same

theorem eq_of_find_eq {entries entries' : List (K × V)} (ordered : Ordered entries)
    (ordered' : Ordered entries') (findEq : ∀ key, find key entries = find key entries') :
    entries = entries' := by
  apply ordered.eq_of_mem_iff ordered'
  intro entry
  rw [← find_eq_some_iff ordered, ← find_eq_some_iff ordered', findEq]

theorem mem_insert {key : K} {value : V} {entry : K × V} :
    ∀ {entries : List (K × V)}, entry ∈ insert key value entries →
      entry = (key, value) ∨ entry ∈ entries
  | [], member => by simp_all [insert]
  | first :: rest, member => by
      unfold insert at member
      split_ifs at member with lt eq
      · simpa using member
      · rcases List.mem_cons.mp member with head | tail
        · exact Or.inl head
        · exact Or.inr (List.mem_cons_of_mem _ tail)
      · rcases List.mem_cons.mp member with head | tail
        · exact Or.inr (head ▸ List.mem_cons_self)
        · rcases mem_insert tail with inserted | kept
          · exact Or.inl inserted
          · exact Or.inr (List.mem_cons_of_mem _ kept)

theorem insert_ordered {key : K} {value : V} :
    ∀ {entries : List (K × V)}, Ordered entries → Ordered (insert key value entries)
  | [], _ => by simp [insert]
  | first :: rest, ordered => by
      rw [ordered_cons] at ordered
      unfold insert
      split_ifs with lt eq
      · refine ordered_cons.mpr ⟨?_, ordered_cons.mpr ordered⟩
        intro e holds
        rcases List.mem_cons.mp holds with head | tail
        · exact head ▸ lt
        · exact lt_trans lt (ordered.1 e tail)
      · exact ordered_cons.mpr ⟨fun e holds => eq ▸ ordered.1 e holds, ordered.2⟩
      · refine ordered_cons.mpr ⟨?_, insert_ordered ordered.2⟩
        intro e holds
        rcases mem_insert holds with inserted | kept
        · subst inserted
          exact lt_of_le_of_ne (not_lt.mp lt) (Ne.symm eq)
        · exact ordered.1 e kept

theorem find_insert (key key' : K) (value : V) :
    ∀ entries : List (K × V),
      find key' (insert key value entries) = if key = key' then some value else find key' entries
  | [] => by simp [insert]
  | first :: rest => by
      have ih := find_insert key key' value rest
      unfold insert
      by_cases keyOk : key = key'
      · subst keyOk
        rw [if_pos rfl] at ih ⊢
        by_cases lt : key < first.1
        · simp [lt]
        · by_cases eq : key = first.1
          · simp [eq]
          · simp [lt, eq, ih, Ne.symm eq]
      · rw [if_neg keyOk] at ih ⊢
        by_cases lt : key < first.1
        · simp [lt, keyOk]
        · by_cases eq : key = first.1
          · subst eq
            simp [keyOk]
          · simp [lt, eq, ih]

@[simp] theorem overlay_nil_right (lower : List (K × V)) : overlay lower [] = lower := by
  cases lower <;> simp [overlay]

theorem mem_overlay {lower upper : List (K × V)} {entry : K × V}
    (member : entry ∈ overlay lower upper) : entry ∈ lower ∨ entry ∈ upper := by
  fun_induction overlay lower upper with
  | case1 upper => exact Or.inr member
  | case2 lower => exact Or.inl member
  | case3 low lower up upper lt ih =>
      rcases List.mem_cons.mp member with head | tail
      · exact Or.inl (head ▸ List.mem_cons_self)
      · rcases ih tail with left | right
        · exact Or.inl (List.mem_cons_of_mem _ left)
        · exact Or.inr right
  | case4 low lower up upper lt eq ih =>
      rcases List.mem_cons.mp member with head | tail
      · exact Or.inr (head ▸ List.mem_cons_self)
      · rcases ih tail with left | right
        · exact Or.inl (List.mem_cons_of_mem _ left)
        · exact Or.inr (List.mem_cons_of_mem _ right)
  | case5 low lower up upper lt eq ih =>
      rcases List.mem_cons.mp member with head | tail
      · exact Or.inr (head ▸ List.mem_cons_self)
      · rcases ih tail with left | right
        · exact Or.inl left
        · exact Or.inr (List.mem_cons_of_mem _ right)

theorem overlay_ordered {lower upper : List (K × V)} (lowerOk : Ordered lower)
    (upperOk : Ordered upper) : Ordered (overlay lower upper) := by
  fun_induction overlay lower upper with
  | case1 upper => exact upperOk
  | case2 lower => exact lowerOk
  | case3 low lower up upper lt ih =>
      rw [ordered_cons] at lowerOk
      refine ordered_cons.mpr ⟨?_, ih lowerOk.2 upperOk⟩
      intro e holds
      rcases mem_overlay holds with lower | upper
      · exact lowerOk.1 e lower
      · rcases List.mem_cons.mp upper with head | tail
        · exact head ▸ lt
        · exact lt_trans lt ((ordered_cons.mp upperOk).1 e tail)
  | case4 low lower up upper lt eq ih =>
      rw [ordered_cons] at lowerOk upperOk
      refine ordered_cons.mpr ⟨?_, ih lowerOk.2 upperOk.2⟩
      intro e holds
      rcases mem_overlay holds with lower | upper
      · exact eq ▸ lowerOk.1 e lower
      · exact upperOk.1 e upper
  | case5 low lower up upper lt eq ih =>
      have gt : up.1 < low.1 := lt_of_le_of_ne (not_lt.mp lt) (Ne.symm eq)
      rw [ordered_cons] at upperOk
      refine ordered_cons.mpr ⟨?_, ih lowerOk upperOk.2⟩
      intro e holds
      rcases mem_overlay holds with lower | upper
      · rcases List.mem_cons.mp lower with head | tail
        · exact head ▸ gt
        · exact lt_trans gt ((ordered_cons.mp lowerOk).1 e tail)
      · exact upperOk.1 e upper

theorem length_overlay_le (lower upper : List (K × V)) :
    (overlay lower upper).length ≤ lower.length + upper.length := by
  fun_induction overlay lower upper with
  | case1 upper => simp
  | case2 lower => simp
  | case3 low lower up upper _ ih =>
    simp only [List.length_cons] at ih ⊢
    omega
  | case4 low lower up upper _ _ ih =>
    simp only [List.length_cons]
    omega
  | case5 low lower up upper _ _ ih =>
    simp only [List.length_cons] at ih ⊢
    omega

theorem find_overlay {lower upper : List (K × V)} (lowerOk : Ordered lower) (upperOk : Ordered upper)
    (key : K) : find key (overlay lower upper) = (find key upper).or (find key lower) := by
  fun_induction overlay lower upper with
  | case1 upper => simp
  | case2 lower => simp
  | case3 low lower up upper lt ih =>
      rw [ordered_cons] at lowerOk
      rw [find_cons, ih lowerOk.2 upperOk]
      by_cases keyOk : low.1 = key
      · subst keyOk
        -- the lower head is below every key of `upper`
        have noneEq : find low.1 (up :: upper) = none := by
          apply find_eq_none_of_lt
          intro e holds
          rcases List.mem_cons.mp holds with head | tail
          · exact head ▸ lt
          · exact lt_trans lt ((ordered_cons.mp upperOk).1 e tail)
        simp [noneEq]
      · simp [keyOk]
  | case4 low lower up upper lt eq ih =>
      rw [ordered_cons] at lowerOk upperOk
      rw [find_cons, ih lowerOk.2 upperOk.2]
      by_cases keyOk : up.1 = key
      · simp [keyOk]
      · simp [keyOk, eq]
  | case5 low lower up upper lt eq ih =>
      rw [ordered_cons] at upperOk
      rw [find_cons, ih lowerOk upperOk.2]
      by_cases keyOk : up.1 = key
      · simp [keyOk]
      · simp [keyOk]

theorem Ordered.filter {entries : List (K × V)} (ordered : Ordered entries) (p : K × V → Bool) :
    Ordered (entries.filter p) :=
  List.Pairwise.filter p ordered

theorem Ordered.filter_le_prefix {entries : List (K × V)} (ordered : Ordered entries) (key : K) :
    (entries.filter fun entry => entry.1 ≤ key) <+: entries := by
  induction entries with
  | nil => exact List.prefix_refl _
  | cons entry rest ih =>
    rw [ordered_cons] at ordered
    by_cases le : entry.1 ≤ key
    · rw [List.filter_cons_of_pos (by simpa using le)]
      exact List.cons_prefix_cons.mpr ⟨rfl, ih ordered.2⟩
    · -- the later entries are past the key as well
      have past : (rest.filter fun entry => entry.1 ≤ key) = [] :=
        List.filter_eq_nil_iff.mpr fun later mem => by
          simpa using lt_trans (lt_of_not_ge le) (ordered.1 later mem)
      rw [List.filter_cons_of_neg (by simpa using le), past]
      exact List.nil_prefix

theorem find_filter {entries : List (K × V)} (ordered : Ordered entries) (p : K × V → Bool)
    (key : K) : find key (entries.filter p) = (find key entries).filter fun value => p (key, value) := by
  induction entries with
  | nil => rfl
  | cons entry rest ih =>
      obtain ⟨k, v⟩ := entry
      rw [ordered_cons] at ordered
      by_cases keyOk : k = key
      · subst keyOk
        by_cases pHolds : p (k, v) = true
        · simp [pHolds, Option.filter]
        · -- the later entries all have larger keys, so the key is gone
          have noneEq : find k (rest.filter p) = none := by
            apply find_eq_none_of_lt
            intro e holds
            exact ordered.1 e (List.mem_filter.mp holds).1
          simp [pHolds, noneEq, Option.filter]
      · have restOk := ih ordered.2
        by_cases pHolds : p (k, v) = true <;> simp [pHolds, keyOk, restOk]

theorem overlay_filter {lower upper : List (K × V)} (lowerOk : Ordered lower) (upperOk : Ordered upper)
    (p : K → Bool) :
    overlay (lower.filter fun e => p e.1) (upper.filter fun e => p e.1) =
      (overlay lower upper).filter fun e => p e.1 := by
  apply eq_of_find_eq (overlay_ordered (lowerOk.filter _) (upperOk.filter _))
    ((overlay_ordered lowerOk upperOk).filter _)
  intro key
  rw [find_overlay (lowerOk.filter _) (upperOk.filter _), find_filter upperOk, find_filter lowerOk,
    find_filter (overlay_ordered lowerOk upperOk), find_overlay lowerOk upperOk]
  by_cases pHolds : p key = true <;> cases find key upper <;> cases find key lower <;> simp [pHolds, Option.filter]

def erase (key : K) (entries : List (K × V)) : List (K × V) := entries.filter fun entry => entry.1 ≠ key

theorem erase_ordered {key : K} {entries : List (K × V)} (ordered : Ordered entries) :
    Ordered (erase key entries) :=
  ordered.filter _

theorem find_erase (key key' : K) (entries : List (K × V)) :
    find key' (erase key entries) = if key = key' then none else find key' entries := by
  induction entries with
  | nil => simp [erase]
  | cons entry rest ih =>
      rw [erase] at ih
      rw [erase, List.filter_cons]
      by_cases gone : entry.1 = key
      · -- the erased entry is skipped, and it is not the one looked up unless `key' = key`
        rw [if_neg (by simpa using gone), ih]
        by_cases keyOk : key = key'
        · rw [if_pos keyOk, if_pos keyOk]
        · rw [if_neg keyOk, if_neg keyOk, find_cons, if_neg (gone ▸ keyOk)]
      · rw [if_pos (by simpa using gone), find_cons, find_cons, ih]
        by_cases keyOk : key = key'
        · subst keyOk
          simp [gone]
        · simp [keyOk]

-- A batch holds at most one write per key, `none` for a delete, and is applied to a sorted store
-- write by write. A batch built by inserting writes one after the other, so that the last write
-- of a key replaces the earlier ones, leaves the store as those writes applied in turn.

section Batch

def write (entries : List (K × V)) (op : K × Option V) : List (K × V) :=
  match op.2 with
  | some value => insert op.1 value entries
  | none => erase op.1 entries

def applyBatch (batch : List (K × Option V)) (entries : List (K × V)) : List (K × V) :=
  batch.foldl write entries

theorem find_write (key : K) (op : K × Option V) (entries : List (K × V)) :
    find key (write entries op) = if op.1 = key then op.2 else find key entries := by
  obtain ⟨written, value⟩ := op
  cases value with
  | some value => exact find_insert written key value entries
  | none => exact find_erase written key entries

theorem mem_write {entries : List (K × V)} {op : K × Option V} {entry : K × V}
    (member : entry ∈ write entries op) : entry.1 = op.1 ∨ entry ∈ entries := by
  obtain ⟨written, value⟩ := op
  cases value with
  | some value =>
      rcases mem_insert member with rfl | kept
      · exact .inl rfl
      · exact .inr kept
  | none => exact .inr (List.mem_filter.mp member).1

theorem write_ordered {entries : List (K × V)} (ordered : Ordered entries) (op : K × Option V) :
    Ordered (write entries op) := by
  obtain ⟨written, value⟩ := op
  cases value with
  | some value => exact insert_ordered ordered
  | none => exact erase_ordered ordered

theorem applyBatch_ordered (batch : List (K × Option V)) :
    ∀ {entries : List (K × V)}, Ordered entries → Ordered (applyBatch batch entries) := by
  induction batch with
  | nil => exact id
  | cons op rest ih => exact fun ordered => ih (write_ordered ordered op)

theorem find_applyBatch (key : K) :
    ∀ {batch : List (K × Option V)}, Ordered batch → ∀ entries : List (K × V),
      find key (applyBatch batch entries) = (find key batch).getD (find key entries)
  | [], _, _ => rfl
  | op :: rest, batched, entries => by
      rw [ordered_cons] at batched
      rw [applyBatch, List.foldl_cons, ← applyBatch, find_applyBatch key batched.2, find_write, find_cons]
      by_cases keyOk : op.1 = key
      · -- the later writes are all of larger keys
        have noneEq : find key rest = none := find_eq_none_of_lt fun e holds => by
          rw [← keyOk]
          exact batched.1 e holds
        simp [keyOk, noneEq]
      · simp [keyOk]

theorem applyBatch_insert {batch : List (K × Option V)} (batched : Ordered batch) {entries : List (K × V)}
    (entriesOk : Ordered entries) (op : K × Option V) :
    applyBatch (insert op.1 op.2 batch) entries = write (applyBatch batch entries) op := by
  apply eq_of_find_eq (applyBatch_ordered _ entriesOk) (write_ordered (applyBatch_ordered _ entriesOk) op)
  intro key
  rw [find_applyBatch key (insert_ordered batched), find_insert, find_write, find_applyBatch key batched]
  by_cases keyOk : op.1 = key <;> simp [keyOk]

theorem applyBatch_foldl_insert {entries : List (K × V)} (entriesOk : Ordered entries) :
    ∀ (ops : List (K × Option V)) {batch : List (K × Option V)}, Ordered batch →
      applyBatch (ops.foldl (fun batch op => insert op.1 op.2 batch) batch) entries =
        ops.foldl write (applyBatch batch entries)
  | [], _, _ => rfl
  | op :: rest, batch, batched => by
      rw [List.foldl_cons, applyBatch_foldl_insert entriesOk rest (insert_ordered batched),
        applyBatch_insert batched entriesOk, List.foldl_cons]

theorem mem_applyBatch_iff {batch : List (K × Option V)} (batched : Ordered batch) {entries : List (K × V)}
    (entriesOk : Ordered entries) (entry : K × V) :
    entry ∈ applyBatch batch entries ↔
      find entry.1 batch = some (some entry.2) ∨ find entry.1 batch = none ∧ entry ∈ entries := by
  rw [← find_eq_some_iff (applyBatch_ordered batch entriesOk), find_applyBatch entry.1 batched,
    ← find_eq_some_iff entriesOk]
  cases find entry.1 batch <;> simp

-- A batch of deletes, built up over scans of the store, is described by the keys it deletes.

/-- `batch'` is `batch` with a delete of each key `deleted` holds of, its other writes kept. -/
def Deletes (batch batch' : List (K × Option V)) (deleted : K → Prop) : Prop :=
  Ordered batch' ∧
    ∀ key, (deleted key → find key batch' = some none) ∧ (¬deleted key → find key batch' = find key batch)

theorem deletes_refl {batch : List (K × Option V)} (batched : Ordered batch) : Deletes batch batch fun _ => False :=
  ⟨batched, fun _ => ⟨False.elim, fun _ => rfl⟩⟩

theorem deletes_insert {batch : List (K × Option V)} (batched : Ordered batch) (key : K) :
    Deletes batch (insert key none batch) (· = key) := by
  refine ⟨insert_ordered batched, fun key' => ⟨fun same => ?_, fun other => ?_⟩⟩
  · rw [find_insert, if_pos same.symm]
  · rw [find_insert, if_neg (Ne.symm other)]

theorem Deletes.trans {batch batch' batch'' : List (K × Option V)} {deleted deleted' : K → Prop}
    (first : Deletes batch batch' deleted) (second : Deletes batch' batch'' deleted') :
    Deletes batch batch'' fun key => deleted key ∨ deleted' key := by
  refine ⟨second.1, fun key => ⟨fun gone => ?_, fun kept => ?_⟩⟩
  · by_cases later : deleted' key
    · exact (second.2 key).1 later
    · rw [(second.2 key).2 later]
      exact (first.2 key).1 (gone.resolve_right later)
  · rw [not_or] at kept
    rw [(second.2 key).2 kept.2, (first.2 key).2 kept.1]

theorem Deletes.congr {batch batch' : List (K × Option V)} {deleted deleted' : K → Prop}
    (deletes : Deletes batch batch' deleted) (same : ∀ key, deleted key ↔ deleted' key) :
    Deletes batch batch' deleted' := by
  have : deleted = deleted' := funext fun key => propext (same key)
  exact this ▸ deletes

theorem foldlM_deletes {α ε : Type} (step : List (K × Option V) → α → Except ε (List (K × Option V)))
    (deleted : α → K → Prop) :
    ∀ {items : List α}, (∀ item ∈ items, ∀ batch, Ordered batch →
        ∃ batch', step batch item = .ok batch' ∧ Deletes batch batch' (deleted item)) →
      ∀ batch, Ordered batch →
        ∃ batch', items.foldlM step batch = .ok batch' ∧ Deletes batch batch' fun key => ∃ item ∈ items, deleted item key
  | [], _, batch, batched => ⟨batch, rfl, (deletes_refl batched).congr fun key => by simp⟩
  | item :: rest, each, batch, batched => by
      obtain ⟨middle, first, deletes⟩ := each item List.mem_cons_self batch batched
      obtain ⟨batch', later, deletes'⟩ :=
        foldlM_deletes step deleted (fun other member => each other (List.mem_cons_of_mem item member)) middle
          deletes.1
      refine ⟨batch', by rw [List.foldlM_cons, first]; exact later, ?_⟩
      exact (deletes.trans deletes').congr fun key => by simp

theorem mem_applyBatch_of_deletes {batch : List (K × Option V)} {deleted : K → Prop} (deletes : Deletes [] batch deleted)
    {entries : List (K × V)} (entriesOk : Ordered entries) (entry : K × V) :
    entry ∈ applyBatch batch entries ↔ entry ∈ entries ∧ ¬deleted entry.1 := by
  rw [mem_applyBatch_iff deletes.1 entriesOk]
  by_cases gone : deleted entry.1
  · simp [(deletes.2 entry.1).1 gone, gone]
  · simp [(deletes.2 entry.1).2 gone, gone]

end Batch

section Map

variable {K' W : Type} [LinearOrder K'] {f : K → K'}

theorem Ordered.map (mono : StrictMono f) (g : V → W) {entries : List (K × V)}
    (ordered : Ordered entries) : Ordered (entries.map fun entry => (f entry.1, g entry.2)) :=
  List.pairwise_map.mpr (ordered.imp fun lt => mono lt)

theorem find_map (inj : Function.Injective f) (g : V → W) (key : K) (entries : List (K × V)) :
    find (f key) (entries.map fun entry => (f entry.1, g entry.2)) = (find key entries).map g := by
  induction entries with
  | nil => rfl
  | cons entry rest ih =>
      by_cases keyOk : entry.1 = key
      · simp [keyOk]
      · simp [keyOk, inj.ne keyOk, ih]

omit [LinearOrder K] in
theorem find_map_of_not_mem_range (g : V → W) {key' : K'} (out : ∀ key, f key ≠ key')
    (entries : List (K × V)) : find key' (entries.map fun entry => (f entry.1, g entry.2)) = none := by
  induction entries with
  | nil => rfl
  | cons entry rest ih => simp [out entry.1, ih]

end Map

end SortedAssoc
