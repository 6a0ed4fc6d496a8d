import Mathlib.Data.List.Basic

/-! Slices as Go has them. A slice is the window `[0, len)` of a backing array with room for
`cap` elements, and a slice made from another shares its backing array. `append` writes into
the backing array while the slice has room and copies the slice into a new array when it has
none, so a write through one slice is seen by every slice of the same array whose window
covers the written index.

Capacities grow as the runtime's `growslice` grows them for slices of fewer than 1024
elements of eight bytes, where the doubled capacity is already a size class of the
allocator and is not rounded further. -/

namespace GoSlice

structure Slice where
  array : Option Nat
  len : Nat
  cap : Nat
deriving DecidableEq, Repr

abbrev Heap (α : Type) := List (List α)

def nil : Slice := ⟨none, 0, 0⟩

variable {α : Type}

def growCap (cap needed : Nat) : Nat :=
  if needed > cap + cap then needed else cap + cap

def read (heap : Heap α) (s : Slice) : List α :=
  match s.array with
  | none => []
  | some a => ((heap[a]?).getD []).take s.len

def grow [Inhabited α] (heap : Heap α) (s : Slice) (x : α) : Heap α × Slice :=
  let cap := growCap s.cap (s.len + 1)
  (heap ++ [read heap s ++ x :: List.replicate (cap - (s.len + 1)) default],
    ⟨some heap.length, s.len + 1, cap⟩)

/-- `append(s, x)`: in place when the slice has room, through `grow` otherwise. -/
def append [Inhabited α] (heap : Heap α) (s : Slice) (x : α) : Heap α × Slice :=
  match s.array with
  | some a =>
      if s.len < s.cap then
        (heap.set a (((heap[a]?).getD []).set s.len x), { s with len := s.len + 1 })
      else grow heap s x
  | none => grow heap s x

def Fits (heap : Heap α) (s : Slice) : Prop :=
  s.len ≤ s.cap ∧
    match s.array with
    | none => s.cap = 0
    | some a => ∃ arr, heap[a]? = some arr ∧ arr.length = s.cap

def Untouched (s t : Slice) : Prop :=
  t.array ≠ s.array ∨ t.len ≤ s.len ∨ s.cap ≤ s.len

def Full (s : Slice) : Prop := s.cap ≤ s.len

@[simp] theorem read_nil (heap : Heap α) : read heap nil = [] := rfl

@[simp] theorem read_some (heap : Heap α) (a len cap : Nat) :
    read heap ⟨some a, len, cap⟩ = ((heap[a]?).getD []).take len := rfl

@[simp] theorem fits_nil (heap : Heap α) : Fits heap nil := by simp [Fits, nil]

theorem Fits.len_le {heap : Heap α} {s : Slice} (fits : Fits heap s) : s.len ≤ s.cap := fits.1

theorem Fits.array_lt {heap : Heap α} {s : Slice} {a : Nat} (fits : Fits heap s)
    (backed : s.array = some a) : a < heap.length := by
  obtain ⟨_, backing⟩ := fits
  rw [backed] at backing
  obtain ⟨arr, found, -⟩ := backing
  exact (List.getElem?_eq_some_iff.mp found).1

theorem length_read {heap : Heap α} {s : Slice} (fits : Fits heap s) : (read heap s).length = s.len := by
  obtain ⟨bounded, backing⟩ := fits
  unfold read
  split
  · rename_i empty
    rw [empty] at backing
    simp only at backing
    simp
    omega
  · rename_i a backed
    rw [backed] at backing
    obtain ⟨arr, found, sized⟩ := backing
    simp [found, sized, bounded]

theorem fits_of_prefix {heap heap' : Heap α} {t : Slice} (extended : heap <+: heap') (fits : Fits heap t) :
    Fits heap' t := by
  obtain ⟨bounded, backing⟩ := fits
  refine ⟨bounded, ?_⟩
  split
  · rename_i empty
    simpa [empty] using backing
  · rename_i a backed
    rw [backed] at backing
    obtain ⟨arr, found, sized⟩ := backing
    obtain ⟨rest, rfl⟩ := extended
    have inside : a < heap.length := (List.getElem?_eq_some_iff.mp found).1
    exact ⟨arr, by rw [List.getElem?_append_left inside, found], sized⟩

theorem read_of_prefix {heap heap' : Heap α} {t : Slice} (extended : heap <+: heap') (fits : Fits heap t) :
    read heap' t = read heap t := by
  unfold read
  split
  · rfl
  · rename_i a backed
    have inside := fits.array_lt backed
    obtain ⟨rest, rfl⟩ := extended
    rw [List.getElem?_append_left inside]

section Growth

variable [Inhabited α]

@[simp] theorem grow_len (heap : Heap α) (s : Slice) (x : α) : (grow heap s x).2.len = s.len + 1 := rfl

@[simp] theorem grow_cap (heap : Heap α) (s : Slice) (x : α) :
    (grow heap s x).2.cap = growCap s.cap (s.len + 1) := rfl

theorem grow_heap (heap : Heap α) (s : Slice) (x : α) : ∃ arr, (grow heap s x).1 = heap ++ [arr] :=
  ⟨_, rfl⟩

theorem append_of_full {heap : Heap α} {s : Slice} (x : α) (full : Full s) :
    append heap s x = grow heap s x := by
  unfold append Full at *
  split
  · rw [if_neg (by omega)]
  · rfl

@[simp] theorem append_len (heap : Heap α) (s : Slice) (x : α) : (append heap s x).2.len = s.len + 1 := by
  unfold append
  split
  · split <;> rfl
  · rfl

theorem fits_grow {heap : Heap α} {s : Slice} (x : α) (fits : Fits heap s) :
    Fits (grow heap s x).1 (grow heap s x).2 := by
  have grown : s.len + 1 ≤ growCap s.cap (s.len + 1) := by
    unfold growCap
    split <;> omega
  refine ⟨grown, read heap s ++ x :: List.replicate (growCap s.cap (s.len + 1) - (s.len + 1)) default,
    List.getElem?_concat_length, ?_⟩
  simp only [grow_cap, List.length_append, List.length_cons, List.length_replicate, length_read fits]
  omega

theorem grow_extends (heap : Heap α) (s : Slice) (x : α) : heap <+: (grow heap s x).1 :=
  ⟨_, rfl⟩

theorem read_grow (heap : Heap α) (s : Slice) (x : α) (fits : Fits heap s) :
    read (grow heap s x).1 (grow heap s x).2 = read heap s ++ [x] := by
  simp only [grow, read_some, List.getElem?_concat_length, Option.getD_some]
  rw [List.take_append, length_read fits, List.take_of_length_le (by rw [length_read fits]; omega)]
  simp

theorem read_append {heap : Heap α} {s : Slice} (x : α) (fits : Fits heap s) :
    read (append heap s x).1 (append heap s x).2 = read heap s ++ [x] := by
  unfold append
  split
  · rename_i a backed
    split
    · rename_i room
      obtain ⟨arr, found, sized⟩ := by simpa [Fits, backed] using fits.2
      have inside := fits.array_lt backed
      simp only [read, backed, List.getElem?_set_self inside, found, Option.getD_some]
      rw [List.take_add_one, List.getElem?_set_self (by omega), List.take_set_of_le (by omega)]
      simp
    · exact read_grow heap s x fits
  · exact read_grow heap s x fits

theorem fits_append {heap : Heap α} {s : Slice} (x : α) (fits : Fits heap s) :
    Fits (append heap s x).1 (append heap s x).2 := by
  unfold append
  split
  · rename_i a backed
    split
    · rename_i room
      obtain ⟨arr, found, sized⟩ := by simpa [Fits, backed] using fits.2
      have inside := fits.array_lt backed
      refine ⟨room, ?_⟩
      simp [backed, List.getElem?_set_self inside, found, sized]
    · exact fits_grow x fits
  · exact fits_grow x fits

theorem Fits.append {heap : Heap α} {s t : Slice} (x : α) (fits : Fits heap t) :
    Fits (append heap s x).1 t := by
  unfold GoSlice.append
  split
  · rename_i a sBacked
    split
    · obtain ⟨bounded, backing⟩ := fits
      refine ⟨bounded, ?_⟩
      split
      · rename_i empty
        simpa [empty] using backing
      · rename_i b backed
        rw [backed] at backing
        obtain ⟨arr, found, sized⟩ := backing
        by_cases same : a = b
        · subst same
          have inside : a < heap.length := (List.getElem?_eq_some_iff.mp found).1
          rw [List.getElem?_set_self inside, found]
          exact ⟨_, rfl, by simp [sized]⟩
        · exact ⟨arr, by rw [List.getElem?_set_ne same, found], sized⟩
    · exact fits_of_prefix (grow_extends heap s x) fits
  · exact fits_of_prefix (grow_extends heap s x) fits

theorem read_append_of_untouched {heap : Heap α} {s t : Slice} (x : α) (fits : Fits heap t)
    (untouched : Untouched s t) : read (append heap s x).1 t = read heap t := by
  unfold GoSlice.append
  split
  · rename_i a backed
    split
    · rename_i room
      unfold read
      split
      · rfl
      · rename_i b tBacked
        by_cases same : a = b
        · subst same
          have writesPast : t.len ≤ s.len := by
            rcases untouched with differ | before | full
            · exact absurd (tBacked.trans backed.symm) differ
            · exact before
            · omega
          have inside := fits.array_lt tBacked
          rw [List.getElem?_set_self inside, Option.getD_some, List.take_set_of_le writesPast]
        · rw [List.getElem?_set_ne same]
    · exact read_of_prefix (grow_extends heap s x) fits
  · exact read_of_prefix (grow_extends heap s x) fits

theorem append_extends_of_full {heap : Heap α} {s : Slice} (x : α) (full : Full s) :
    heap <+: (append heap s x).1 := by
  rw [append_of_full x full]
  exact grow_extends heap s x

omit [Inhabited α] in
theorem mem_read {P : α → Prop} {heap : Heap α} {s : Slice} (entries : ∀ arr ∈ heap, ∀ y ∈ arr, P y) :
    ∀ y ∈ read heap s, P y := by
  intro y member
  unfold read at member
  split at member
  · simp at member
  · rename_i a _
    cases found : heap[a]? with
    | none => simp [found] at member
    | some arr =>
        rw [found, Option.getD_some] at member
        exact entries arr (List.mem_of_getElem? found) y (List.mem_of_mem_take member)

theorem append_entries {P : α → Prop} {heap : Heap α} {s : Slice} {x : α}
    (entries : ∀ arr ∈ heap, ∀ y ∈ arr, P y) (stored : P x) (zero : P default) :
    ∀ arr ∈ (append heap s x).1, ∀ y ∈ arr, P y := by
  have grown : ∀ arr ∈ (grow heap s x).1, ∀ y ∈ arr, P y := by
    intro arr member y inArr
    rcases List.mem_append.mp member with old | new
    · exact entries arr old y inArr
    · rw [List.mem_singleton] at new
      subst new
      rcases List.mem_append.mp inArr with copied | fresh
      · exact mem_read entries y copied
      · rcases List.mem_cons.mp fresh with rfl | filler
        · exact stored
        · rw [List.eq_of_mem_replicate filler]
          exact zero
  unfold append
  split
  · rename_i a _
    split
    · intro arr member y inArr
      obtain ⟨j, inside, rfl⟩ := List.getElem_of_mem member
      rw [List.getElem_set] at inArr
      split at inArr
      · rename_i same
        subst same
        have old : ∀ z ∈ (heap[a]?).getD [], P z := by
          cases found : heap[a]? with
          | none => simp
          | some arr => exact entries arr (List.mem_of_getElem? found)
        rcases List.mem_or_eq_of_mem_set inArr with kept | rfl
        · exact old y kept
        · exact stored
      · exact entries _ (List.getElem_mem _) y inArr
    · exact grown
  · exact grown

end Growth

end GoSlice
