import Mathlib.Data.List.Lex
import Mathlib.Order.Lattice

/-! Lists compared lexicographically, as Go's `bytes.Compare` and a sorted key-value store
compare byte strings: the three-way comparison, and comparisons of concatenations whose first
parts have one length. -/

namespace ByteString

variable {α : Type}

section Append

variable [LT α]

theorem append_lt_append_iff_of_length_eq :
    ∀ {u v : List α}, u.length = v.length → ∀ (s t : List α), u ++ s < v ++ t ↔ u < v ∨ u = v ∧ s < t
  | [], [], _, s, t => by simp [List.not_lt_nil]
  | a :: u, b :: v, same, s, t => by
    have rest := append_lt_append_iff_of_length_eq (u := u) (v := v) (by simpa using same) s t
    rw [List.cons_append, List.cons_append, List.cons_lt_cons_iff, rest, List.cons_lt_cons_iff, List.cons.injEq]
    tauto

theorem append_lt_append_of_length_eq {u v : List α} (same : u.length = v.length) (below : u < v)
    (s t : List α) : u ++ s < v ++ t :=
  (append_lt_append_iff_of_length_eq same s t).mpr (.inl below)

theorem append_singleton_lt_iff {u v : List α} (same : u.length = v.length) (a b : α) :
    u ++ [a] < v ++ [b] ↔ u < v ∨ u = v ∧ a < b := by
  rw [append_lt_append_iff_of_length_eq same, List.cons_lt_cons_iff]
  simp [List.not_lt_nil]

end Append

section Compare

variable [LT α] [DecidableRel (fun a b : α => a < b)]

/-- `bytes.Compare`: -1, 0 or 1 as the first list is below, equal to or above the second in
lexicographic order. -/
def bytesCompare : List α → List α → Int
  | [], [] => 0
  | [], _ :: _ => -1
  | _ :: _, [] => 1
  | a :: rest, b :: rest' => if a < b then -1 else if b < a then 1 else bytesCompare rest rest'

end Compare

theorem bytesCompare_eq [LinearOrder α] :
    ∀ u v : List α, bytesCompare u v = if u < v then -1 else if u = v then 0 else 1
  | [], [] => by simp [bytesCompare]
  | [], b :: v => by simp [bytesCompare]
  | a :: u, [] => by simp [bytesCompare, List.not_lt_nil]
  | a :: u, b :: v => by
    rw [bytesCompare, bytesCompare_eq u v]
    -- the heads decide, and equal heads leave the comparison to the tails
    rcases lt_trichotomy a b with below | rfl | above
    · simp [below, List.cons_lt_cons_iff]
    · simp
    · simp [above, not_lt_of_gt above, ne_of_gt above, List.cons_lt_cons_iff]

section Separated

variable {sep : α}

theorem append_sep_prefix :
    ∀ {part part' : List α}, sep ∉ part → sep ∉ part' → ∀ {rest rest' : List α},
      part ++ sep :: rest <+: part' ++ sep :: rest' → part = part' ∧ rest <+: rest'
  | [], [], _, _, _, _, longer => ⟨rfl, (List.cons_prefix_cons.mp longer).2⟩
  | [], b :: part', _, free', _, _, longer =>
    absurd ((List.cons_prefix_cons.mp longer).1 ▸ List.mem_cons_self) free'
  | b :: part, [], free, _, _, _, longer =>
    absurd ((List.cons_prefix_cons.mp longer).1 ▸ List.mem_cons_self) free
  | b :: part, b' :: part', free, free', _, _, longer => by
    obtain ⟨rfl, later⟩ := List.cons_prefix_cons.mp longer
    obtain ⟨rfl, rests⟩ := append_sep_prefix (fun member => free (List.mem_cons_of_mem b member))
      (fun member => free' (List.mem_cons_of_mem b member)) later
    exact ⟨rfl, rests⟩

theorem flatMap_sep_prefix_iff :
    ∀ {parts parts' : List (List α)}, (∀ part ∈ parts, sep ∉ part) → (∀ part ∈ parts', sep ∉ part) →
      (parts.flatMap (· ++ [sep]) <+: parts'.flatMap (· ++ [sep]) ↔ parts <+: parts')
  | [], _, _, _ => by simp
  | part :: parts, [], _, _ => by simp
  | part :: parts, part' :: parts', free, free' => by
    have rest := @flatMap_sep_prefix_iff parts parts' (fun other member => free other (List.mem_cons_of_mem part member))
      (fun other member => free' other (List.mem_cons_of_mem part' member))
    simp only [List.flatMap_cons, List.append_assoc, List.singleton_append, List.cons_prefix_cons]
    constructor
    · intro longer
      obtain ⟨rfl, later⟩ := append_sep_prefix (free part List.mem_cons_self) (free' part' List.mem_cons_self) longer
      exact ⟨rfl, rest.mp later⟩
    · rintro ⟨rfl, later⟩
      exact (List.prefix_append_right_inj part).mpr (List.cons_prefix_cons.mpr ⟨rfl, rest.mpr later⟩)

theorem append_sep_lt_append_sep_iff [LinearOrder α] :
    ∀ {part part' : List α}, (∀ b ∈ part, sep < b) → (∀ b ∈ part', sep < b) → ∀ (rest rest' : List α),
      part ++ sep :: rest < part' ++ sep :: rest' ↔ part < part' ∨ part = part' ∧ rest < rest'
  | [], [], _, _, rest, rest' => by simp
  | [], b :: part', _, above', rest, rest' => by
    have first : sep < b := above' b List.mem_cons_self
    simp [List.cons_lt_cons_iff, first]
  | b :: part, [], above, _, rest, rest' => by
    have first : sep < b := above b List.mem_cons_self
    simp [List.cons_lt_cons_iff, not_lt_of_gt first, ne_of_gt first]
  | b :: part, b' :: part', above, above', rest, rest' => by
    have tails := append_sep_lt_append_sep_iff (fun c member => above c (List.mem_cons_of_mem b member))
      (fun c member => above' c (List.mem_cons_of_mem b' member)) rest rest'
    rw [List.cons_append, List.cons_append, List.cons_lt_cons_iff, tails, List.cons_lt_cons_iff, List.cons.injEq]
    tauto

end Separated

end ByteString
