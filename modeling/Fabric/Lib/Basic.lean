import Mathlib.Data.List.Basic
import Mathlib.Data.List.Sublists
import Mathlib.Data.Nat.Find

/-! Small general facts the models' proofs peel computations apart with. -/

namespace Except

variable {ε α β : Type}

theorem bind_eq_ok_iff {x : Except ε α} {f : α → Except ε β} {b : β} :
    (x >>= f) = .ok b ↔ ∃ a, x = .ok a ∧ f a = .ok b := by
  cases x with
  | error e => simp [bind, Except.bind]
  | ok a => simp [bind, Except.bind]

theorem bind_eq_error_iff {x : Except ε α} {f : α → Except ε β} {e : ε} :
    (x >>= f) = .error e ↔ x = .error e ∨ ∃ a, x = .ok a ∧ f a = .error e := by
  cases x with
  | error e' => simp [bind, Except.bind]
  | ok a => simp [bind, Except.bind]

@[simp] theorem ok_bind (a : α) (f : α → Except ε β) : (Except.ok a >>= f) = f a := rfl

@[simp] theorem error_bind (e : ε) (f : α → Except ε β) : (Except.error e >>= f) = .error e := rfl

@[simp] theorem throw_eq_error (e : ε) : (throw e : Except ε α) = .error e := rfl

theorem pure_eq_ok_iff {a b : α} : (pure a : Except ε α) = .ok b ↔ a = b := by
  simp [pure, Except.pure]

theorem exists_eq_ok_of_isOk {x : Except ε α} (succeeded : x.isOk = true) : ∃ a, x = .ok a := by
  cases x with
  | error e => cases succeeded
  | ok a => exact ⟨a, rfl⟩

theorem forM_eq_ok {f : α → Except ε Unit} :
    ∀ {entries : List α}, entries.forM f = .ok () → ∀ entry ∈ entries, f entry = .ok ()
  | [], _ => by simp
  | entry :: rest, loop => by
      rw [List.forM] at loop
      obtain ⟨u, firstOk, restOk⟩ := bind_eq_ok_iff.mp loop
      intro other member
      rcases List.mem_cons.mp member with rfl | member
      · exact firstOk
      · exact forM_eq_ok restOk other member

theorem mapM_eq_ok_of_forall {f : α → Except ε β} :
    ∀ {entries : List α}, (∀ entry ∈ entries, ∃ b, f entry = .ok b) →
      ∃ results, entries.mapM f = .ok results
  | [], _ => ⟨[], rfl⟩
  | entry :: rest, each => by
      obtain ⟨b, first⟩ := each entry List.mem_cons_self
      obtain ⟨results, later⟩ :=
        mapM_eq_ok_of_forall fun other member => each other (List.mem_cons_of_mem entry member)
      exact ⟨b :: results, by rw [List.mapM_cons, first, ok_bind, later]; rfl⟩

theorem mapM_eq_ok_map {f : α → Except ε β} {g : α → β} :
    ∀ {entries : List α}, (∀ entry ∈ entries, f entry = .ok (g entry)) → entries.mapM f = .ok (entries.map g)
  | [], _ => rfl
  | entry :: rest, each => by
      rw [List.mapM_cons, each entry List.mem_cons_self, ok_bind,
        mapM_eq_ok_map fun other member => each other (List.mem_cons_of_mem entry member)]
      rfl

theorem mapM_map_eq_ok {f : β → Except ε α} {g : α → β} :
    ∀ {entries : List α}, (∀ entry ∈ entries, f (g entry) = .ok entry) → (entries.map g).mapM f = .ok entries
  | [], _ => rfl
  | entry :: rest, each => by
      rw [List.map_cons, List.mapM_cons, each entry List.mem_cons_self, ok_bind,
        mapM_map_eq_ok fun other member => each other (List.mem_cons_of_mem entry member)]
      rfl

theorem filterM_eq_ok {p : α → Except ε Bool} {q : α → Bool} {entries : List α}
    (answers : ∀ entry ∈ entries, p entry = .ok (q entry)) : entries.filterM p = .ok (entries.filter q) := by
  -- the accumulator of `filterAuxM` holds the kept entries in reverse
  have aux : ∀ (entries : List α) (kept : List α), (∀ entry ∈ entries, p entry = .ok (q entry)) →
      List.filterAuxM p entries kept = .ok ((entries.filter q).reverse ++ kept) := by
    intro entries
    induction entries with
    | nil => exact fun _ _ => rfl
    | cons entry rest ih =>
      intro kept each
      rw [List.filterAuxM, each entry List.mem_cons_self, ok_bind,
        ih _ fun other member => each other (List.mem_cons_of_mem entry member)]
      cases accepted : q entry <;> simp [accepted]
  rw [List.filterM, aux entries [] answers, ok_bind, List.append_nil, List.reverse_reverse]
  rfl

theorem forall₂_of_mapM_eq_ok {f : α → Except ε β} :
    ∀ {entries : List α} {results : List β}, entries.mapM f = .ok results →
      List.Forall₂ (fun entry result => f entry = .ok result) entries results
  | [], results, mapped => by
      cases mapped
      exact .nil
  | entry :: rest, results, mapped => by
      rw [List.mapM_cons] at mapped
      obtain ⟨first, firstOk, mapped⟩ := bind_eq_ok_iff.mp mapped
      obtain ⟨others, restOk, mapped⟩ := bind_eq_ok_iff.mp mapped
      cases mapped
      exact .cons firstOk (forall₂_of_mapM_eq_ok restOk)

theorem foldlM_eq_ok_each {σ : Type} {f : σ → α → Except ε σ} :
    ∀ {entries : List α} {init result : σ}, entries.foldlM f init = .ok result →
      ∀ entry ∈ entries, ∃ before after, f before entry = .ok after
  | [], _, _, _ => by simp
  | entry :: rest, init, result, fold => by
      rw [List.foldlM_cons] at fold
      obtain ⟨after, firstOk, restOk⟩ := bind_eq_ok_iff.mp fold
      intro other member
      rcases List.mem_cons.mp member with rfl | member
      · exact ⟨init, after, firstOk⟩
      · exact foldlM_eq_ok_each restOk other member

def wrapf (message : String) : Except String α → Except String α
  | .error err => .error (message ++ ": " ++ err)
  | .ok a => .ok a

@[simp] theorem wrapf_eq_ok_iff {message : String} {x : Except String α} {a : α} :
    wrapf message x = .ok a ↔ x = .ok a := by
  cases x <;> simp [wrapf]

def require (value : Option α) (err : ε) : Except ε α :=
  match value with
  | some a => .ok a
  | none => .error err

@[simp] theorem require_eq_ok_iff {value : Option α} {err : ε} {a : α} :
    require value err = .ok a ↔ value = some a := by
  cases value <;> simp [require]

def failIf (cond : Prop) [Decidable cond] (err : ε) : Except ε Unit :=
  if cond then .error err else .ok ()

@[simp] theorem failIf_eq_ok_iff {cond : Prop} [Decidable cond] {err : ε} {u : Unit} :
    failIf cond err = .ok u ↔ ¬cond := by
  by_cases condOk : cond <;> simp [failIf, condOk]

theorem mapM_keyed_eq_ok {κ γ : Type} {compute : κ → Except ε β} :
    ∀ {entries : List (κ × γ)} {results : List (κ × β)},
      entries.mapM (fun entry => do
          let value ← compute entry.1
          return (entry.1, value)) = .ok results →
        results.map Prod.fst = entries.map Prod.fst ∧ ∀ result ∈ results, compute result.1 = .ok result.2
  | [], results, mapped => by
      cases mapped
      simp
  | entry :: rest, results, mapped => by
      rw [List.mapM_cons] at mapped
      obtain ⟨first, firstOk, mapped⟩ := bind_eq_ok_iff.mp mapped
      obtain ⟨others, restOk, mapped⟩ := bind_eq_ok_iff.mp mapped
      obtain ⟨value, valueOk, firstOk⟩ := bind_eq_ok_iff.mp firstOk
      cases firstOk
      cases mapped
      obtain ⟨keysOk, values⟩ := mapM_keyed_eq_ok restOk
      refine ⟨by simp [keysOk], ?_⟩
      intro result member
      rcases List.mem_cons.mp member with rfl | member
      · exact valueOk
      · exact values result member

theorem mapM_keyed_of_forall {κ : Type} {compute : κ → Except ε β} :
    ∀ {entries : List (κ × β)}, (∀ entry ∈ entries, compute entry.1 = .ok entry.2) →
      entries.mapM (fun entry => do
          let value ← compute entry.1
          return (entry.1, value)) = .ok entries
  | [], _ => rfl
  | entry :: rest, each => by
      rw [List.mapM_cons, each entry List.mem_cons_self, ok_bind,
        mapM_keyed_of_forall fun other member => each other (List.mem_cons_of_mem entry member)]
      rfl

theorem foldlM_eq_ok_of_forall {σ : Type} {f : σ → α → Except ε σ} :
    ∀ {entries : List α}, (∀ entry ∈ entries, ∀ before, ∃ after, f before entry = .ok after) →
      ∀ init, ∃ result, entries.foldlM f init = .ok result
  | [], _, init => ⟨init, rfl⟩
  | entry :: rest, each, init => by
      obtain ⟨after, first⟩ := each entry List.mem_cons_self init
      obtain ⟨result, later⟩ :=
        foldlM_eq_ok_of_forall (fun other member => each other (List.mem_cons_of_mem entry member)) after
      exact ⟨result, by rw [List.foldlM_cons, first, ok_bind, later]⟩

end Except

namespace Nat

theorem exists_greatest_of_zero {P : Nat → Prop} [DecidablePred P] (n : Nat) (zeroEq : P 0) :
    ∃ i ≤ n, P i ∧ ∀ j, i < j → j ≤ n → ¬P j :=
  ⟨Nat.findGreatest P n, Nat.findGreatest_le n, Nat.findGreatest_spec (Nat.zero_le n) zeroEq,
    fun _ lt le => Nat.findGreatest_is_greatest lt le⟩

end Nat

namespace List

theorem mem_of_lookup_eq_some {κ β : Type} [BEq κ] [LawfulBEq κ] {entries : List (κ × β)} {key : κ}
    {value : β} (lookedUp : entries.lookup key = some value) : (key, value) ∈ entries := by
  obtain ⟨before, after, rfl, -⟩ := List.lookup_eq_some_iff.mp lookedUp
  simp

theorem lookup_of_mem {κ β : Type} [BEq κ] [LawfulBEq κ] :
    ∀ {entries : List (κ × β)}, (entries.map Prod.fst).Nodup → ∀ {key : κ} {value : β},
      (key, value) ∈ entries → entries.lookup key = some value
  | [], _, _, _, member => absurd member List.not_mem_nil
  | (first, firstValue) :: rest, nodup, key, value, member => by
      rw [List.map_cons, List.nodup_cons] at nodup
      rcases List.mem_cons.mp member with same | later
      · cases same
        simp
      · -- a later entry: its key is not the first one
        have ne : key ≠ first := fun same => nodup.1 (same ▸ List.mem_map.mpr ⟨_, later, rfl⟩)
        have beq : (key == first) = false := by simpa using ne
        simp only [List.lookup_cons, beq]
        exact lookup_of_mem nodup.2 later

theorem map_fst_map_snd {κ β γ : Type} (f : β → γ) (entries : List (κ × β)) :
    (entries.map fun entry => (entry.1, f entry.2)).map Prod.fst = entries.map Prod.fst := by
  simp [Function.comp_def]

theorem lookup_map_snd {κ β γ : Type} [BEq κ] [LawfulBEq κ] (f : β → γ) (entries : List (κ × β))
    (key : κ) : (entries.map fun entry => (entry.1, f entry.2)).lookup key = (entries.lookup key).map f := by
  induction entries with
  | nil => rfl
  | cons entry rest ih =>
      obtain ⟨first, value⟩ := entry
      by_cases keyOk : key = first
      · simp [keyOk]
      · have beq : (key == first) = false := by simpa using keyOk
        simp [List.lookup_cons, beq, ih]

def setKey {κ β : Type} [DecidableEq κ] (key : κ) (value : β) : List (κ × β) → List (κ × β)
  | [] => [(key, value)]
  | entry :: rest => if entry.1 = key then (key, value) :: rest else entry :: setKey key value rest

theorem lookup_setKey {κ β : Type} [DecidableEq κ] (key key' : κ) (value : β) (entries : List (κ × β)) :
    (entries.setKey key value).lookup key' = if key' = key then some value else entries.lookup key' := by
  induction entries with
  | nil => by_cases keyOk : key' = key <;> simp [setKey, keyOk]
  | cons entry rest ih =>
      obtain ⟨first, other⟩ := entry
      by_cases keyOk : key' = first
      · subst keyOk
        by_cases firstOk : key' = key <;> simp [setKey, firstOk]
      · -- the entry of `first` is not the one looked up
        have beq : (key' == first) = false := by simpa using keyOk
        by_cases firstOk : first = key
        · subst firstOk
          simp [setKey, keyOk, List.lookup_cons, beq]
        · simp [setKey, firstOk, List.lookup_cons, beq, ih]

theorem mem_keys_setKey {κ β : Type} [DecidableEq κ] (key other : κ) (value : β) :
    ∀ entries : List (κ × β),
      other ∈ (entries.setKey key value).map Prod.fst ↔ other = key ∨ other ∈ entries.map Prod.fst
  | [] => by simp [setKey]
  | entry :: rest => by
      by_cases firstOk : entry.1 = key
      · simp only [setKey, firstOk, if_true, List.map_cons, List.mem_cons]
        tauto
      · simp only [setKey, firstOk, if_false, List.map_cons, List.mem_cons, mem_keys_setKey key other value rest]
        tauto

theorem nodup_keys_setKey {κ β : Type} [DecidableEq κ] (key : κ) (value : β) :
    ∀ {entries : List (κ × β)}, (entries.map Prod.fst).Nodup →
      ((entries.setKey key value).map Prod.fst).Nodup
  | [], _ => by simp [setKey]
  | entry :: rest, nodup => by
      rw [List.map_cons, List.nodup_cons] at nodup
      by_cases firstOk : entry.1 = key
      · simpa [setKey, firstOk] using nodup
      · simp only [setKey, firstOk, if_false, List.map_cons, List.nodup_cons]
        refine ⟨fun member => ?_, nodup_keys_setKey key value nodup.2⟩
        rcases (mem_keys_setKey key entry.1 value rest).mp member with keyOk | member
        · exact firstOk keyOk
        · exact nodup.1 member

def deleteKey {κ β : Type} [DecidableEq κ] (key : κ) (entries : List (κ × β)) : List (κ × β) :=
  entries.filter fun entry => entry.1 ≠ key

def hasKey {κ β : Type} [DecidableEq κ] (entries : List (κ × β)) (key : κ) : Bool :=
  (entries.lookup key).isSome

section Keys

variable {κ β : Type} [DecidableEq κ]

theorem lookup_deleteKey (key key' : κ) (entries : List (κ × β)) :
    (entries.deleteKey key).lookup key' = if key' = key then none else entries.lookup key' := by
  induction entries with
  | nil => simp [deleteKey]
  | cons entry rest ih =>
      obtain ⟨first, value⟩ := entry
      simp only [deleteKey] at ih
      by_cases dropped : first = key
      · subst dropped
        by_cases same : key' = first
        · simpa [deleteKey, same] using ih
        · simpa [deleteKey, same, List.lookup_cons, beq_false_of_ne same] using ih
      · by_cases same : key' = first
        · subst same
          simp [deleteKey, dropped]
        · simpa [deleteKey, List.lookup_cons, dropped, beq_false_of_ne same] using ih

@[simp] theorem hasKey_nil (key : κ) : ([] : List (κ × β)).hasKey key = false := rfl

@[simp] theorem hasKey_setKey (key key' : κ) (value : β) (entries : List (κ × β)) :
    (entries.setKey key value).hasKey key' = (decide (key' = key) || entries.hasKey key') := by
  by_cases same : key' = key <;> simp [hasKey, lookup_setKey, same]

@[simp] theorem hasKey_deleteKey (key key' : κ) (entries : List (κ × β)) :
    (entries.deleteKey key).hasKey key' = (!decide (key' = key) && entries.hasKey key') := by
  by_cases same : key' = key <;> simp [hasKey, lookup_deleteKey, same]

theorem hasKey_of_mem {key : κ} {value : β} :
    ∀ {entries : List (κ × β)}, (key, value) ∈ entries → entries.hasKey key = true
  | [], member => by cases member
  | (first, other) :: rest, member => by
      by_cases same : key = first
      · simp [hasKey, same]
      · have later : (key, value) ∈ rest := by simpa [same] using member
        have found := hasKey_of_mem later
        simpa [hasKey, List.lookup_cons, beq_false_of_ne same] using found

theorem mem_of_mem_setKey {key : κ} {value : β} {entry : κ × β} :
    ∀ {entries : List (κ × β)}, entry ∈ entries.setKey key value → entry = (key, value) ∨ entry ∈ entries
  | [], member => by simpa [setKey] using member
  | first :: rest, member => by
      by_cases replaced : first.1 = key
      · simp only [setKey, replaced, if_true, List.mem_cons] at member
        rcases member with new | old
        · exact Or.inl new
        · exact Or.inr (List.mem_cons_of_mem first old)
      · simp only [setKey, replaced, if_false, List.mem_cons] at member
        rcases member with head | later
        · exact Or.inr (head ▸ List.mem_cons_self)
        · rcases mem_of_mem_setKey later with new | old
          · exact Or.inl new
          · exact Or.inr (List.mem_cons_of_mem first old)

theorem hasKey_setKey_of_hasKey {key : κ} {value : β} {entries : List (κ × β)}
    (present : entries.hasKey key = true) (other : κ) :
    (entries.setKey key value).hasKey other = entries.hasKey other := by
  by_cases same : other = key
  · subst same
    simp [present]
  · simp [same]

def appendAt (key : κ) (value : β) (entries : List (κ × List β)) : List (κ × List β) :=
  entries.setKey key ((entries.lookup key).getD [] ++ [value])

theorem mem_appendAt {key key' : κ} {value value' : β} {entries : List (κ × List β)} :
    value' ∈ ((entries.appendAt key value).lookup key').getD [] ↔
      (key' = key ∧ value' = value) ∨ value' ∈ (entries.lookup key').getD [] := by
  by_cases same : key' = key
  · subst same
    simp [appendAt, lookup_setKey, or_comm]
  · simp [appendAt, lookup_setKey, same]

theorem mem_flatMap_appendAt {key : κ} {value value' : β} :
    ∀ {entries : List (κ × List β)},
      value' ∈ (entries.appendAt key value).flatMap (·.2) ↔
        value' ∈ entries.flatMap (·.2) ∨ value' = value
  | [] => by simp [appendAt, setKey]
  | (first, values) :: rest => by
      by_cases same : first = key
      · subst same
        simp only [appendAt, setKey, if_true, lookup_cons, beq_self_eq_true, Option.getD_some,
          flatMap_cons, mem_append, mem_singleton]
        tauto
      · have later : value' ∈ (rest.appendAt key value).flatMap (·.2) ↔
            value' ∈ rest.flatMap (·.2) ∨ value' = value := mem_flatMap_appendAt
        simp only [appendAt, setKey, same, if_false, lookup_cons, beq_false_of_ne (Ne.symm same),
          flatMap_cons, mem_append] at later ⊢
        rw [later, or_assoc]

theorem hasKey_filter_fst (p : κ → Bool) (key : κ) :
    ∀ entries : List (κ × β), (entries.filter fun entry => p entry.1).hasKey key = (p key && entries.hasKey key)
  | [] => by simp
  | (first, value) :: rest => by
      by_cases same : key = first
      · subst same
        cases kept : p key
        · have later := hasKey_filter_fst p key rest
          rw [kept, Bool.false_and] at later
          simp only [filter_cons, kept, Bool.false_eq_true, if_false, later, Bool.false_and]
        · simp [hasKey, kept]
      · have skip : (key == first) = false := beq_false_of_ne same
        have later := hasKey_filter_fst p key rest
        simp only [hasKey] at later ⊢
        by_cases kept : p first = true <;> simp [kept, lookup_cons, skip, later]

theorem mem_of_mem_lookup_getD {key : κ} {v : β} {entries : List (κ × List β)}
    (member : v ∈ (entries.lookup key).getD []) : ∃ vs, (key, vs) ∈ entries ∧ v ∈ vs := by
  cases found : entries.lookup key with
  | none => simp [found] at member
  | some vs =>
    rw [found, Option.getD_some] at member
    exact ⟨vs, mem_of_lookup_eq_some found, member⟩

theorem mem_foldl_appendAt {α : Type} (groupKey : α → κ) (value : α → β) (xs : List α) :
    ∀ entry ∈ xs.foldl (fun groups x => groups.appendAt (groupKey x) (value x)) [],
      ∀ v ∈ entry.2, ∃ x ∈ xs, groupKey x = entry.1 ∧ value x = v := by
  suffices grouped : ∀ (ys : List α) (groups : List (κ × List β)),
      (∀ entry ∈ groups, ∀ v ∈ entry.2, ∃ x ∈ xs, groupKey x = entry.1 ∧ value x = v) →
      (∀ y ∈ ys, y ∈ xs) →
      ∀ entry ∈ ys.foldl (fun groups x => groups.appendAt (groupKey x) (value x)) groups,
        ∀ v ∈ entry.2, ∃ x ∈ xs, groupKey x = entry.1 ∧ value x = v from
    grouped xs [] (fun _ member => by cases member) fun _ member => member
  intro ys
  induction ys with
  | nil => exact fun groups sound _ => sound
  | cons y ys ih =>
    intro groups sound inside
    apply ih _ _ fun z member => inside z (mem_cons_of_mem y member)
    intro entry member v listed
    rcases mem_of_mem_setKey member with new | old
    · subst new
      rcases mem_append.mp listed with before | added
      · obtain ⟨vs, found, listed'⟩ := mem_of_mem_lookup_getD before
        exact sound _ found v listed'
      · rw [mem_singleton] at added
        exact ⟨y, inside y mem_cons_self, rfl, added.symm⟩
    · exact sound entry old v listed

theorem lookup_foldl_appendAt {α : Type} (groupKey : α → κ) (value : α → β) :
    ∀ (xs : List α) (groups : List (κ × List β)) (k : κ) (v : β),
      v ∈ (groups.lookup k).getD [] ∨ (∃ x ∈ xs, groupKey x = k ∧ value x = v) →
        v ∈ ((xs.foldl (fun groups x => groups.appendAt (groupKey x) (value x)) groups).lookup k).getD []
  | [], _, _, _, found => by
      rcases found with before | ⟨_, member, _⟩
      · exact before
      · cases member
  | y :: ys, groups, k, v, found => by
      apply lookup_foldl_appendAt groupKey value ys
      rcases found with before | ⟨x, member, grouped, valued⟩
      · exact Or.inl (mem_appendAt.mpr (Or.inr before))
      · rcases mem_cons.mp member with rfl | later
        · exact Or.inl (mem_appendAt.mpr (Or.inl ⟨grouped.symm, valued.symm⟩))
        · exact Or.inr ⟨x, later, grouped, valued⟩

theorem mem_of_mem_deleteKey {key : κ} {entry : κ × β} {entries : List (κ × β)}
    (member : entry ∈ entries.deleteKey key) : entry ∈ entries :=
  (List.mem_filter.mp member).1

end Keys

theorem of_drop_eq_cons {α : Type} {l rest : List α} {n : Nat} {a : α} (suffix : l.drop n = a :: rest) :
    l[n]? = some a ∧ l.drop (n + 1) = rest := by
  constructor
  · have first := congrArg (·[0]?) suffix
    simpa using first
  · rw [← List.drop_drop, suffix]
    rfl

theorem foldl_keep {σ α τ : Type} (g : σ → τ) {f : σ → α → σ} (keep : ∀ s a, g (f s a) = g s) :
    ∀ (l : List α) (s : σ), g (l.foldl f s) = g s
  | [], _ => rfl
  | a :: l, s => by rw [List.foldl_cons, foldl_keep g keep l, keep]

theorem mapM_congr {m : Type → Type} [Monad m] [LawfulMonad m] {α β : Type} {f g : α → m β} :
    ∀ {entries : List α}, (∀ entry ∈ entries, f entry = g entry) → entries.mapM f = entries.mapM g
  | [], _ => rfl
  | entry :: rest, congrEq => by
      have restOk : ∀ other ∈ rest, f other = g other := fun other otherOk => congrEq other (by simp [otherOk])
      rw [List.mapM_cons, List.mapM_cons, congrEq entry (by simp), mapM_congr restOk]

theorem sublistsLen_filterMap {α β : Type} {f : α → Option β} :
    ∀ (k : Nat) (l : List α), (∀ a ∈ l, (f a).isSome) →
      (l.sublistsLen k).map (·.filterMap f) = (l.filterMap f).sublistsLen k
  | 0, _, _ => by simp [sublistsLen_zero]
  | k + 1, [], _ => by simp [sublistsLen_succ_nil]
  | k + 1, a :: l, defined => by
      obtain ⟨b, image⟩ := Option.isSome_iff_exists.mp (defined a mem_cons_self)
      have rest : ∀ x ∈ l, (f x).isSome := fun x member => defined x (mem_cons_of_mem a member)
      rw [sublistsLen_succ_cons, filterMap_cons_some image, sublistsLen_succ_cons, map_append,
        sublistsLen_filterMap (k + 1) l rest, map_map, ← sublistsLen_filterMap k l rest, map_map]
      congr 2
      funext chosen
      simp [image]

theorem filterMap_getElem?_range {α : Type} (l : List α) : (range l.length).filterMap (l[·]?) = l := by
  have indexed : (range l.length).map (l[·]?) = l.map some := by
    apply ext_getElem (by simp)
    intro j inside _
    simp
  calc (range l.length).filterMap (l[·]?) = ((range l.length).map (l[·]?)).filterMap id := by
        rw [filterMap_map]
        rfl
    _ = l := by rw [indexed, filterMap_map]; exact filterMap_some

theorem exists_map_eq_of_forall {α β : Type} {f : α → β} {p : α → Prop} :
    ∀ {l : List β}, (∀ b ∈ l, ∃ a, p a ∧ f a = b) → ∃ as : List α, (∀ a ∈ as, p a) ∧ as.map f = l
  | [], _ => ⟨[], by simp, rfl⟩
  | b :: rest, each => by
      obtain ⟨a, first, rfl⟩ := each b List.mem_cons_self
      obtain ⟨as, all, mapped⟩ :=
        exists_map_eq_of_forall fun other member => each other (List.mem_cons_of_mem _ member)
      refine ⟨a :: as, ?_, by rw [List.map_cons, mapped]⟩
      intro other member
      rcases List.mem_cons.mp member with rfl | later
      · exact first
      · exact all other later

section Suffix

variable {α : Type} [BEq α] [LawfulBEq α]

theorem isSuffixOf_append_of_length_le {a c : List α} (id : List α) (short : a.length ≤ c.length) :
    a.isSuffixOf (id ++ c) = a.isSuffixOf c := by
  apply Bool.eq_iff_iff.mpr
  rw [isSuffixOf_iff_suffix, isSuffixOf_iff_suffix]
  constructor
  · intro suffix
    exact suffix_of_suffix_length_le suffix (suffix_append id c) short
  · intro suffix
    exact suffix.trans (suffix_append id c)

theorem isSuffixOf_append_eq_false {a c : List α} (id : List α)
    (apart : a.isSuffixOf c = false ∧ c.isSuffixOf a = false) : a.isSuffixOf (id ++ c) = false := by
  by_cases short : a.length ≤ c.length
  · rw [isSuffixOf_append_of_length_le id short, apart.1]
  · cases suffix : a.isSuffixOf (id ++ c)
    · rfl
    · rw [isSuffixOf_iff_suffix] at suffix
      have ends := suffix_of_suffix_length_le (suffix_append id c) suffix (by omega)
      rw [← isSuffixOf_iff_suffix, apart.2] at ends
      cases ends

end Suffix

end List

namespace Fabric

structure RangeOrder (α : Type) where
  visit : List α → List α
  perm : ∀ keys, (visit keys).Perm keys

end Fabric
