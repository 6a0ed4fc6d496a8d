import Mathlib.Data.List.Basic

/-! A key-value store that keeps its entries in increasing key order, as a sorted key-value
database does: a write replaces the entry of its key, and an iterator walks the entries of a
key range in order, from a start key (included) up to an optional limit (excluded).

Keys need only a decidable `<`; the facts about ranges of byte strings below use the
lexicographic order of lists. -/

namespace OrderedStore

variable {κ ν : Type} [LT κ] [DecidableRel (fun a b : κ => a < b)] [DecidableEq κ]

def put (key : κ) (value : ν) : List (κ × ν) → List (κ × ν)
  | [] => [(key, value)]
  | entry :: rest =>
      if key = entry.1 then (key, value) :: rest
      else if key < entry.1 then (key, value) :: entry :: rest
      else entry :: put key value rest

def get (key : κ) (entries : List (κ × ν)) : Option ν :=
  (entries.find? fun entry => entry.1 = key).map Prod.snd

def scan (start : κ) (limit : Option κ) (entries : List (κ × ν)) : List (κ × ν) :=
  entries.filter fun entry => !decide (entry.1 < start) && limit.all fun bound => decide (entry.1 < bound)

omit [DecidableEq κ] in
theorem mem_scan {start : κ} {limit : Option κ} {entries : List (κ × ν)} {entry : κ × ν} :
    entry ∈ scan start limit entries ↔
      entry ∈ entries ∧ ¬entry.1 < start ∧ ∀ bound ∈ limit, entry.1 < bound := by
  simp [scan, Option.all_eq_true]

theorem mem_put {key : κ} {value : ν} :
    ∀ {entries : List (κ × ν)} {entry : κ × ν},
      entry ∈ put key value entries → entry = (key, value) ∨ entry ∈ entries
  | [], entry, member => by simpa [put] using member
  | head :: rest, entry, member => by
      unfold put at member
      split_ifs at member with same smaller
      · rcases List.mem_cons.mp member with rfl | later
        · exact .inl rfl
        · exact .inr (List.mem_cons_of_mem _ later)
      · rcases List.mem_cons.mp member with rfl | later
        · exact .inl rfl
        · exact .inr later
      · rcases List.mem_cons.mp member with rfl | later
        · exact .inr List.mem_cons_self
        · rcases mem_put later with rfl | kept
          · exact .inl rfl
          · exact .inr (List.mem_cons_of_mem _ kept)

theorem mem_put_self (key : κ) (value : ν) :
    ∀ entries : List (κ × ν), (key, value) ∈ put key value entries
  | [] => by simp [put]
  | head :: rest => by
      unfold put
      split_ifs
      · exact List.mem_cons_self
      · exact List.mem_cons_self
      · exact List.mem_cons_of_mem _ (mem_put_self key value rest)

theorem mem_put_of_ne {key : κ} {value : ν} :
    ∀ {entries : List (κ × ν)} {entry : κ × ν}, entry ∈ entries → entry.1 ≠ key →
      entry ∈ put key value entries
  | [], _, member, _ => by cases member
  | head :: rest, entry, member, other => by
      unfold put
      split_ifs with same smaller
      · rcases List.mem_cons.mp member with rfl | later
        · exact absurd same.symm other
        · exact List.mem_cons_of_mem _ later
      · exact List.mem_cons_of_mem _ member
      · rcases List.mem_cons.mp member with rfl | later
        · exact List.mem_cons_self
        · exact List.mem_cons_of_mem _ (mem_put_of_ne later other)

theorem mem_foldl_put_of_fresh :
    ∀ {written entries : List (κ × ν)}, (written.map Prod.fst).Nodup →
      (∀ entry ∈ entries, entry.1 ∉ written.map Prod.fst) → ∀ entry,
        entry ∈ written.foldl (fun entries write => put write.1 write.2 entries) entries ↔
          entry ∈ written ∨ entry ∈ entries
  | [], _, _, _, entry => by simp
  | write :: rest, entries, distinct, fresh, entry => by
    rw [List.map_cons, List.nodup_cons] at distinct
    -- the first write adds a key of its own
    have added : ∀ other, other ∈ put write.1 write.2 entries ↔ other = write ∨ other ∈ entries := by
      intro other
      refine ⟨mem_put, ?_⟩
      rintro (rfl | member)
      · exact mem_put_self _ _ _
      · exact mem_put_of_ne member fun same => fresh other member (same ▸ List.mem_cons_self)
    have fresh' : ∀ other ∈ put write.1 write.2 entries, other.1 ∉ rest.map Prod.fst := by
      intro other member
      rcases (added other).mp member with rfl | old
      · exact distinct.1
      · exact fun later => fresh other old (List.mem_cons_of_mem _ later)
    rw [List.foldl_cons, mem_foldl_put_of_fresh distinct.2 fresh' entry, added, List.mem_cons]
    tauto

-- Under a strict total order on keys, a write keeps the entries in increasing key order, so an
-- iterator walks each key once, in order.

section Sorted

variable [IsStrictTotalOrder κ (· < ·)]

def Sorted (entries : List (κ × ν)) : Prop := entries.Pairwise fun a b => a.1 < b.1

theorem put_sorted {key : κ} {value : ν} :
    ∀ {entries : List (κ × ν)}, Sorted entries → Sorted (put key value entries)
  | [], _ => List.pairwise_singleton _ _
  | head :: rest, sorted => by
    unfold Sorted at sorted ⊢
    rw [List.pairwise_cons] at sorted
    unfold put
    split_ifs with same smaller
    · -- the write replaces the head's value
      exact List.pairwise_cons.mpr ⟨fun entry member => same ▸ sorted.1 entry member, sorted.2⟩
    · refine List.pairwise_cons.mpr ⟨fun entry member => ?_, List.pairwise_cons.mpr sorted⟩
      rcases List.mem_cons.mp member with rfl | later
      · exact smaller
      · exact trans_of (· < ·) smaller (sorted.1 entry later)
    · -- the key is above the head
      have bigger : head.1 < key :=
        ((trichotomous_of (· < ·) key head.1).resolve_left smaller).resolve_left same
      refine List.pairwise_cons.mpr ⟨fun entry member => ?_, put_sorted sorted.2⟩
      rcases mem_put member with rfl | old
      · exact bigger
      · exact sorted.1 entry old

theorem foldl_put_sorted :
    ∀ (written : List (κ × ν)) {entries : List (κ × ν)}, Sorted entries →
      Sorted (written.foldl (fun entries write => put write.1 write.2 entries) entries)
  | [], _, sorted => sorted
  | _ :: rest, _, sorted => foldl_put_sorted rest (put_sorted sorted)

omit [DecidableEq κ] [IsStrictTotalOrder κ (· < ·)] in
theorem scan_sorted (start : κ) (limit : Option κ) {entries : List (κ × ν)} (sorted : Sorted entries) :
    Sorted (scan start limit entries) :=
  List.Pairwise.filter _ sorted

end Sorted

-- For lists compared lexicographically, the keys from `pre` up to `pre ++ [top]` are the keys
-- that extend `pre` with a rest that does not start at or above `top`.

section Prefix

variable {α : Type} [LT α]

theorem le_append [Std.Irrefl (fun a b : α => a < b)] (pre rest : List α) : pre ≤ pre ++ rest :=
  List.IsPrefix.le (List.prefix_append pre rest)

theorem append_left_lt_iff [Std.Irrefl (fun a b : α => a < b)] (pre : List α) {rest rest' : List α} :
    pre ++ rest < pre ++ rest' ↔ rest < rest' := by
  induction pre with
  | nil => rfl
  | cons p pre ih =>
      rw [List.cons_append, List.cons_append, List.cons_lt_cons_iff, ← ih]
      exact ⟨fun lt => lt.resolve_left (irrefl p) |>.2, fun lt => .inr ⟨rfl, lt⟩⟩

theorem append_lt_append_top {top : α} (pre : List α) {rest : List α}
    (restOk : ∀ b, rest.head? = some b → b < top) : pre ++ rest < pre ++ [top] := by
  apply List.append_left_lt
  cases rest with
  | nil => exact List.nil_lt_cons top []
  | cons b rest => exact List.cons_lt_cons_iff.mpr (.inl (restOk b rfl))

theorem prefix_of_between_append {top : List α} :
    ∀ {pre key : List α}, ¬key < pre → key < pre ++ top → pre <+: key
  | [], _, _, _ => List.nil_prefix
  | p :: pre, [], above, _ => absurd (List.nil_lt_cons p pre) above
  | p :: pre, b :: key, above, below => by
      rw [List.cons_append, List.cons_lt_cons_iff] at below
      rw [List.cons_lt_cons_iff, not_or] at above
      rcases below with smaller | ⟨rfl, below⟩
      · exact absurd smaller above.1
      · have rest : ¬key < pre := fun less => above.2 ⟨rfl, less⟩
        exact List.cons_prefix_cons.mpr ⟨rfl, prefix_of_between_append rest below⟩

theorem prefix_of_between {top : α} {pre key : List α} (above : ¬key < pre) (below : key < pre ++ [top]) :
    pre <+: key :=
  prefix_of_between_append above below

end Prefix

end OrderedStore
