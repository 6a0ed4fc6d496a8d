import Fabric.Committer.Vscc

/-! `common/policies/inquire` (`compare.go`, `merge.go`): principals that can be compared, and the
merge of the principal sets of two endorsement policies into sets that satisfy both. A Go map is
an association list in the order its entries were added; where the code ranges over one, the order
of the range is a parameter. -/

namespace Fabric.Inquire

open Txvalidator

structure OrganizationUnit where
  mspIdentifier : String
  organizationalUnitIdentifier : String
  certifiersIdentifier : Bytes
  deriving DecidableEq, Repr

/-- `ComparablePrincipal`: the serialized principal it was made from (nil in one that was not
initialised), its decoded organization unit or role, and its MSP id. -/
structure ComparablePrincipal where
  principal : Option Bytes
  ou : Option OrganizationUnit
  role : Option MSPRole
  mspID : String
  deriving DecidableEq, Repr

/-- `ComparablePrincipal.IsA`: every identity that satisfies `this` satisfies `other`. -/
def ComparablePrincipal.isA (this other : ComparablePrincipal) : Bool :=
  if this.principal.isNone || other.principal.isNone then false
  else if this.mspID ≠ other.mspID then false
  -- any role or organization unit of an MSP is a member of it
  else if other.role.any (·.role == .member) then true
  else
    match this.ou, other.ou with
    | some ou, some otherOU =>
      ou.organizationalUnitIdentifier == otherOU.organizationalUnitIdentifier &&
        ou.certifiersIdentifier == otherOU.certifiersIdentifier
    | _, _ =>
      match this.role, other.role with
      | some role, some otherRole => role.role == otherRole.role
      | _, _ => false

abbrev ComparablePrincipalSet := List ComparablePrincipal

abbrev ComparablePrincipalSets := List ComparablePrincipalSet

/-- `intMapping`: the entries of a `map[int][]int`, in the order they were added. -/
abbrev IntMapping := List (Nat × List Nat)

structure MapOrder where
  visit : IntMapping → IntMapping
  perm : ∀ mapping, (visit mapping).Perm mapping

def MapOrder.insertion : MapOrder := ⟨id, fun _ => List.Perm.refl _⟩

def MapOrder.reversed : MapOrder := ⟨List.reverse, fun _ => List.reverse_perm _⟩

def ComparablePrincipalSet.contains (cps : ComparablePrincipalSet) (s : ComparablePrincipal) : Bool :=
  cps.any fun cp => cp.isA s

def ComparablePrincipalSet.isContainedIn (cps set : ComparablePrincipalSet) : Bool :=
  cps.all fun cp => set.contains cp

/-- `IsSubset`, with `reflect.DeepEqual` as equality. -/
def ComparablePrincipalSet.isSubset (cps sets : ComparablePrincipalSet) : Bool :=
  cps.all fun p1 => sets.any fun p2 => p1 == p2

structure ComparablePrincipalSetPair where
  contained : ComparablePrincipalSet
  containing : ComparablePrincipalSet
  deriving DecidableEq, Repr

def findCover (containing : ComparablePrincipalSet) (used : List Nat) (principal : ComparablePrincipal) :
    Option Nat :=
  (containing.zipIdx.find? fun (coveringPrincipal, i) =>
    !used.contains i && coveringPrincipal.isA principal).map Prod.snd

def coverFrom (containing : ComparablePrincipalSet) :
    List Nat → ComparablePrincipalSet → ComparablePrincipalSet → List Nat × ComparablePrincipalSet
  | used, principalsToAdd, [] => (used, principalsToAdd)
  | used, principalsToAdd, principal :: rest =>
    match findCover containing used principal with
    | some i => coverFrom containing (used ++ [i]) principalsToAdd rest
    | none => coverFrom containing used (principalsToAdd ++ [principal]) rest

/-- `MergeWithPlurality`: the containing set, and the principals of the contained set that it
does not cover. -/
def ComparablePrincipalSetPair.mergeWithPlurality (pair : ComparablePrincipalSetPair) :
    ComparablePrincipalSet :=
  pair.containing ++ (coverFrom pair.containing [] [] pair.contained).2

def toMergedPrincipalSets (pairs : List ComparablePrincipalSetPair) : ComparablePrincipalSets :=
  pairs.map ComparablePrincipalSetPair.mergeWithPlurality

/-- `OfMapping`, visiting the mapping in the order of the range. The indices are those
`computeContainedInMapping` found, so every lookup succeeds. -/
def ofMapping (cps : ComparablePrincipalSets) (mapping : IntMapping) (sets2 : ComparablePrincipalSets) :
    List ComparablePrincipalSetPair :=
  mapping.flatMap fun (i, js) =>
    js.filterMap fun j => do
      let contained ← cps[i]?
      let containing ← sets2[j]?
      pure ⟨contained, containing⟩

def reduce (cps : ComparablePrincipalSets) : ComparablePrincipalSets :=
  cps.zipIdx.filterMap fun (s1, i) =>
    let isContaining := cps.zipIdx.any fun (s2, j) => i != j && s2.isSubset s1
    if isContaining then none else some s1

def excludeIndices (cps : ComparablePrincipalSets) (mapping : IntMapping) : ComparablePrincipalSets :=
  cps.zipIdx.filterMap fun (set, i) =>
    if (mapping.lookup i).isSome then none else some set

def computeContainedInMapping (s1 s2 : ComparablePrincipalSets) : IntMapping :=
  s1.zipIdx.filterMap fun (ps1, i) =>
    let js := s2.zipIdx.filterMap fun (ps2, j) => if ps1.isContainedIn ps2 then some j else none
    if js.isEmpty then none else some (i, js)

def IntMapping.append (mapping : IntMapping) (key value : Nat) : IntMapping :=
  match mapping.lookup key with
  | some values => mapping.map fun entry => if entry.1 = key then (key, values ++ [value]) else entry
  | none => mapping ++ [(key, [value])]

def IntMapping.invert (im : IntMapping) : IntMapping :=
  im.foldl (fun res (i, js) => js.foldl (fun res j => res.append j i) res) []

def cartesianProduct (s1 s2 : ComparablePrincipalSets) : List ComparablePrincipalSetPair :=
  s1.flatMap fun x => s2.map fun y => ⟨x, y⟩

def merge (order₁ order₂ : MapOrder) (s1 s2 : ComparablePrincipalSets) : ComparablePrincipalSets :=
  let setsIn1ToTheContainingSetsIn2 := computeContainedInMapping s1 s2
  let setsIn1ThatAreIn2 := ofMapping s1 (order₁.visit setsIn1ToTheContainingSetsIn2) s2
  let s1 := excludeIndices s1 setsIn1ToTheContainingSetsIn2
  let setsIn2ToTheContainingSetsIn1 := computeContainedInMapping s2 s1
  let setsIn2ThatAreIn1 := ofMapping s2 (order₂.visit setsIn2ToTheContainingSetsIn1) s1
  let s2 := excludeIndices s2 setsIn2ToTheContainingSetsIn1
  let res := toMergedPrincipalSets setsIn1ThatAreIn2 ++ toMergedPrincipalSets setsIn2ThatAreIn1
  let s1 := excludeIndices s1 setsIn2ToTheContainingSetsIn1.invert
  -- the keys of this inverted mapping index `s2` as it was before the exclusion above
  let s2 := excludeIndices s2 setsIn1ToTheContainingSetsIn2.invert
  if s1.length = 0 || s2.length = 0 then reduce res
  else reduce (res ++ toMergedPrincipalSets (cartesianProduct s1 s2))

def ComparablePrincipal.WellFormed (p : ComparablePrincipal) : Prop :=
  p.principal.isSome ∧ (p.ou.isSome ∨ p.role.isSome)

def CoversBy (s x : ComparablePrincipalSet) (idx : List Nat) : Prop :=
  idx.Nodup ∧ List.Forall₂ (fun i p => ∃ q, s[i]? = some q ∧ q.isA p = true) idx x

def Covers (s x : ComparablePrincipalSet) : Prop := ∃ idx, CoversBy s x idx

theorem ComparablePrincipal.isA_self {p : ComparablePrincipal} (wf : p.WellFormed) :
    p.isA p = true := by
  obtain ⟨principal, shape⟩ := wf
  rcases p with ⟨_ | bytes, ou, role, mspID⟩
  · cases principal
  · rcases ou with _ | ou <;> rcases role with _ | ⟨role, mspIdentifier⟩
    · simp at shape
    · cases role <;> simp [ComparablePrincipal.isA]
    · simp [ComparablePrincipal.isA]
    · cases role <;> simp [ComparablePrincipal.isA]

theorem findCover_spec {containing : ComparablePrincipalSet} {used : List Nat}
    {principal : ComparablePrincipal} {i : Nat} (found : findCover containing used principal = some i) :
    i ∉ used ∧ ∃ q, containing[i]? = some q ∧ q.isA principal = true := by
  simp only [findCover, Option.map_eq_some_iff] at found
  obtain ⟨⟨q, j⟩, found, rfl⟩ := found
  have holds := List.find?_some found
  have mem := List.mem_zipIdx_iff_getElem?.mp (List.mem_of_find?_eq_some found)
  simp only [Bool.and_eq_true, Bool.not_eq_eq_eq_not, Bool.not_true, List.contains_eq_mem,
    decide_eq_false_iff_not] at holds
  exact ⟨holds.1, q, mem, holds.2⟩

section Cover

variable {s x : ComparablePrincipalSet} {idx : List Nat}

theorem CoversBy.nil (s : ComparablePrincipalSet) : CoversBy s [] [] := ⟨List.nodup_nil, .nil⟩

theorem CoversBy.append_right (covers : CoversBy s x idx) (t : ComparablePrincipalSet) :
    CoversBy (s ++ t) x idx := by
  refine ⟨covers.1, covers.2.imp fun i p ⟨q, at_, isA⟩ => ⟨q, ?_, isA⟩⟩
  rw [List.getElem?_append_left (List.getElem?_eq_some_iff.mp at_).1]
  exact at_

theorem CoversBy.snoc (covers : CoversBy s x idx) {i : Nat} (fresh : i ∉ idx) {p q : ComparablePrincipal}
    (at_ : s[i]? = some q) (isA : q.isA p = true) : CoversBy s (x ++ [p]) (idx ++ [i]) := by
  refine ⟨List.nodup_append.mpr ⟨covers.1, List.nodup_singleton i, ?_⟩, ?_⟩
  · intro j mem k same
    simp only [List.mem_singleton] at same
    subst same
    rintro rfl
    exact fresh mem
  · exact List.rel_append covers.2 (.cons ⟨q, at_, isA⟩ .nil)

theorem forall₂_range' (t : ComparablePrincipalSet) (start : Nat) :
    ∀ x : ComparablePrincipalSet, (∀ p ∈ x, p.WellFormed) →
      (∀ k (below : k < x.length), t[start + k]? = some x[k]) →
      List.Forall₂ (fun i p => ∃ q, t[i]? = some q ∧ q.isA p = true) (List.range' start x.length) x := by
  intro x
  induction x generalizing start with
  | nil => intro _ _; exact .nil
  | cons p x ih =>
    intro wf at_
    rw [List.length_cons, List.range'_succ]
    have first := at_ 0 (by simp)
    rw [Nat.add_zero] at first
    refine .cons ⟨p, first, ComparablePrincipal.isA_self (wf p (by simp))⟩ ?_
    apply ih (start + 1) (fun q mem => wf q (List.mem_cons_of_mem _ mem))
    intro k below
    have shifted := at_ (k + 1) (by simp; omega)
    rw [show start + (k + 1) = start + 1 + k by omega] at shifted
    simpa using shifted

theorem coversBy_prefix (x t : ComparablePrincipalSet) (wf : ∀ p ∈ x, p.WellFormed) :
    CoversBy (x ++ t) x (List.range' 0 x.length) := by
  refine ⟨List.nodup_range', forall₂_range' (x ++ t) 0 x wf fun k below => ?_⟩
  rw [Nat.zero_add, List.getElem?_append_left below, List.getElem?_eq_getElem below]

end Cover

structure CoverInv (containing toAdd : ComparablePrincipalSet) (used : List Nat)
    (done : ComparablePrincipalSet) (idx : List Nat) : Prop where
  covers : CoversBy (containing ++ toAdd) done idx
  used_of_lt : ∀ i ∈ idx, i < containing.length → i ∈ used
  lt : ∀ i ∈ idx, i < containing.length + toAdd.length

section Loop

variable {containing toAdd done : ComparablePrincipalSet} {used idx : List Nat}
  {principal : ComparablePrincipal}

theorem CoverInv.found (inv : CoverInv containing toAdd used done idx) {i : Nat}
    (found : findCover containing used principal = some i) :
    CoverInv containing toAdd (used ++ [i]) (done ++ [principal]) (idx ++ [i]) := by
  obtain ⟨unused, q, at_, isA⟩ := findCover_spec found
  have below : i < containing.length := (List.getElem?_eq_some_iff.mp at_).1
  -- a used index is one of `used`, and `i` is not
  have fresh : i ∉ idx := fun mem => unused (inv.used_of_lt i mem below)
  refine ⟨inv.covers.snoc fresh (by rw [List.getElem?_append_left below]; exact at_) isA, ?_, ?_⟩
  · intro j mem lt
    rcases List.mem_append.mp mem with old | new
    · exact List.mem_append_left _ (inv.used_of_lt j old lt)
    · simp only [List.mem_singleton] at new
      simp [new]
  · intro j mem
    rcases List.mem_append.mp mem with old | new
    · exact inv.lt j old
    · simp only [List.mem_singleton] at new
      omega

theorem CoverInv.missed (inv : CoverInv containing toAdd used done idx) (wf : principal.WellFormed) :
    CoverInv containing (toAdd ++ [principal]) used (done ++ [principal])
      (idx ++ [containing.length + toAdd.length]) := by
  -- the new index is past every index used so far
  have fresh : containing.length + toAdd.length ∉ idx := fun mem => by
    have := inv.lt _ mem
    omega
  have at_ : (containing ++ (toAdd ++ [principal]))[containing.length + toAdd.length]? = some principal := by
    rw [← List.append_assoc, List.getElem?_append_right (by simp)]
    simp
  refine ⟨?_, ?_, ?_⟩
  · have extended := inv.covers.append_right [principal]
    rw [List.append_assoc] at extended
    exact extended.snoc fresh at_ (ComparablePrincipal.isA_self wf)
  · intro j mem lt
    rcases List.mem_append.mp mem with old | new
    · exact inv.used_of_lt j old lt
    · simp only [List.mem_singleton] at new
      omega
  · intro j mem
    rcases List.mem_append.mp mem with old | new
    · have := inv.lt j old
      simp only [List.length_append, List.length_singleton]
      omega
    · simp only [List.mem_singleton] at new
      simp [new]

theorem coverFrom_inv (containing : ComparablePrincipalSet) :
    ∀ (rest : ComparablePrincipalSet) used toAdd done idx, (∀ p ∈ rest, p.WellFormed) →
      CoverInv containing toAdd used done idx →
      ∃ idx', CoverInv containing (coverFrom containing used toAdd rest).2
        (coverFrom containing used toAdd rest).1 (done ++ rest) idx' := by
  intro rest
  induction rest with
  | nil => intro used toAdd done idx _ inv; exact ⟨idx, by simpa [coverFrom] using inv⟩
  | cons principal rest ih =>
    intro used toAdd done idx wf inv
    have wfRest : ∀ p ∈ rest, p.WellFormed := fun p mem => wf p (List.mem_cons_of_mem _ mem)
    rcases found : findCover containing used principal with _ | i
    · obtain ⟨idx', inv'⟩ := ih used (toAdd ++ [principal]) (done ++ [principal]) _ wfRest
        (inv.missed (wf principal List.mem_cons_self))
      exact ⟨idx', by simpa [coverFrom, found] using inv'⟩
    · obtain ⟨idx', inv'⟩ := ih (used ++ [i]) toAdd (done ++ [principal]) _ wfRest (inv.found found)
      exact ⟨idx', by simpa [coverFrom, found] using inv'⟩

end Loop

theorem mergeWithPlurality_covers (pair : ComparablePrincipalSetPair)
    (wf : ∀ p ∈ pair.contained ++ pair.containing, p.WellFormed) :
    Covers pair.mergeWithPlurality pair.contained ∧ Covers pair.mergeWithPlurality pair.containing := by
  constructor
  · obtain ⟨idx, inv⟩ := coverFrom_inv pair.containing pair.contained [] [] [] []
      (fun p mem => wf p (List.mem_append_left _ mem)) ⟨CoversBy.nil _, by simp, by simp⟩
    exact ⟨idx, by simpa [ComparablePrincipalSetPair.mergeWithPlurality] using inv.covers⟩
  · exact ⟨_, coversBy_prefix pair.containing _ fun p mem => wf p (List.mem_append_right _ mem)⟩

section Members

variable {cps s1 s2 : ComparablePrincipalSets} {set : ComparablePrincipalSet}
  {pair : ComparablePrincipalSetPair}

theorem mem_of_mem_dropping (drop : ComparablePrincipalSet → Nat → Bool)
    (mem : set ∈ cps.zipIdx.filterMap fun (kept, i) => if drop kept i then none else some kept) :
    set ∈ cps := by
  obtain ⟨⟨kept, i⟩, present, selected⟩ := List.mem_filterMap.mp mem
  simp only [Option.ite_none_left_eq_some, Option.some.injEq] at selected
  rw [← selected.2]
  exact List.mem_of_getElem? (List.mem_zipIdx_iff_getElem?.mp present)

theorem mem_of_mem_reduce (mem : set ∈ reduce cps) : set ∈ cps :=
  mem_of_mem_dropping (fun s1 i => cps.zipIdx.any fun (s2, j) => i != j && s2.isSubset s1) mem

theorem mem_of_mem_excludeIndices {mapping : IntMapping} (mem : set ∈ excludeIndices cps mapping) :
    set ∈ cps :=
  mem_of_mem_dropping (fun _ i => (mapping.lookup i).isSome) mem

theorem mem_ofMapping {mapping : IntMapping} (mem : pair ∈ ofMapping s1 mapping s2) :
    pair.contained ∈ s1 ∧ pair.containing ∈ s2 := by
  obtain ⟨⟨i, js⟩, -, present⟩ := List.mem_flatMap.mp mem
  obtain ⟨j, -, made⟩ := List.mem_filterMap.mp present
  simp only [Option.bind_eq_bind, Option.bind_eq_some_iff, Option.pure_def, Option.some.injEq] at made
  obtain ⟨contained, atI, containing, atJ, rfl⟩ := made
  exact ⟨List.mem_of_getElem? atI, List.mem_of_getElem? atJ⟩

theorem mem_cartesianProduct (mem : pair ∈ cartesianProduct s1 s2) :
    pair.contained ∈ s1 ∧ pair.containing ∈ s2 := by
  obtain ⟨x, inFirst, present⟩ := List.mem_flatMap.mp mem
  obtain ⟨y, inSecond, rfl⟩ := List.mem_map.mp present
  exact ⟨inFirst, inSecond⟩

end Members

/-- Every set `Merge` returns covers a set of each side, when every principal is one that
`NewComparablePrincipal` builds. -/
theorem merge_sound (order₁ order₂ : MapOrder) (s1 s2 : ComparablePrincipalSets)
    (wf : ∀ set ∈ s1 ++ s2, ∀ p ∈ set, p.WellFormed) :
    ∀ s ∈ merge order₁ order₂ s1 s2, ∃ x ∈ s1, ∃ y ∈ s2, Covers s x ∧ Covers s y := by
  -- a merged pair whose sets come from the two sides covers one set of each
  have pairCovers : ∀ pair : ComparablePrincipalSetPair, pair.contained ∈ s1 ++ s2 →
      pair.containing ∈ s1 ++ s2 →
      Covers pair.mergeWithPlurality pair.contained ∧ Covers pair.mergeWithPlurality pair.containing :=
    fun pair contained containing => mergeWithPlurality_covers pair fun p mem =>
      (List.mem_append.mp mem).elim (wf _ contained p) (wf _ containing p)
  intro s mem
  simp only [merge] at mem
  have inRes : s ∈ toMergedPrincipalSets (ofMapping s1 (order₁.visit (computeContainedInMapping s1 s2)) s2) ++
      toMergedPrincipalSets (ofMapping s2 (order₂.visit (computeContainedInMapping s2
        (excludeIndices s1 (computeContainedInMapping s1 s2)))) (excludeIndices s1 (computeContainedInMapping s1 s2))) ++
      toMergedPrincipalSets (cartesianProduct
        (excludeIndices (excludeIndices s1 (computeContainedInMapping s1 s2))
          (computeContainedInMapping s2 (excludeIndices s1 (computeContainedInMapping s1 s2))).invert)
        (excludeIndices (excludeIndices s2 (computeContainedInMapping s2
          (excludeIndices s1 (computeContainedInMapping s1 s2))))
          (computeContainedInMapping s1 s2).invert)) := by
    split at mem
    · exact List.mem_append_left _ (mem_of_mem_reduce mem)
    · exact mem_of_mem_reduce mem
  simp only [toMergedPrincipalSets, List.mem_append, List.mem_map] at inRes
  rcases inRes with (⟨pair, present, rfl⟩ | ⟨pair, present, rfl⟩) | ⟨pair, present, rfl⟩
  · -- a set of the first side contained in one of the second
    obtain ⟨contained, containing⟩ := mem_ofMapping present
    obtain ⟨first, second⟩ := pairCovers pair (List.mem_append_left _ contained)
      (List.mem_append_right _ containing)
    exact ⟨_, contained, _, containing, first, second⟩
  · -- a set of the second side contained in one of the first
    obtain ⟨contained, containing⟩ := mem_ofMapping present
    have containing := mem_of_mem_excludeIndices containing
    obtain ⟨first, second⟩ := pairCovers pair (List.mem_append_right _ contained)
      (List.mem_append_left _ containing)
    exact ⟨_, containing, _, contained, second, first⟩
  · -- a pair of sets neither of which contains the other
    obtain ⟨contained, containing⟩ := mem_cartesianProduct present
    have contained := mem_of_mem_excludeIndices (mem_of_mem_excludeIndices contained)
    have containing := mem_of_mem_excludeIndices (mem_of_mem_excludeIndices containing)
    obtain ⟨first, second⟩ := pairCovers pair (List.mem_append_left _ contained)
      (List.mem_append_right _ containing)
    exact ⟨_, contained, _, containing, first, second⟩

theorem ofMapping_perm (cps sets2 : ComparablePrincipalSets) {visited mapping : IntMapping}
    (perm : visited.Perm mapping) : (ofMapping cps visited sets2).Perm (ofMapping cps mapping sets2) :=
  List.Perm.flatMap_right _ perm

def memberOf (mspID : String) : ComparablePrincipal := ⟨some [], none, some ⟨.member, mspID⟩, mspID⟩

/-- Merging `{[A], [B]}` with `{[A, B]}`: both sets of the first side are contained in `[A, B]`,
the two merged pairs both give `[A, B]`, and `Reduce` drops each copy because the other is a
subset of it. The result is empty in every order of the ranges, although `[A, B]` covers `[A]`
and `[A, B]`. -/
theorem merge_of_contained_members_is_empty (order₁ order₂ : MapOrder) :
    merge order₁ order₂ [[memberOf "Org1MSP"], [memberOf "Org2MSP"]]
        [[memberOf "Org1MSP", memberOf "Org2MSP"]] = [] ∧
      Covers [memberOf "Org1MSP", memberOf "Org2MSP"] [memberOf "Org1MSP"] ∧
      Covers [memberOf "Org1MSP", memberOf "Org2MSP"] [memberOf "Org1MSP", memberOf "Org2MSP"] := by
  have contained : computeContainedInMapping [[memberOf "Org1MSP"], [memberOf "Org2MSP"]]
      [[memberOf "Org1MSP", memberOf "Org2MSP"]] = [(0, [0]), (1, [0])] := by decide
  have excluded : excludeIndices [[memberOf "Org1MSP"], [memberOf "Org2MSP"]] [(0, [0]), (1, [0])] = [] := by
    decide
  have nothingIn : computeContainedInMapping [[memberOf "Org1MSP", memberOf "Org2MSP"]] [] = [] := rfl
  have visitNothing : order₂.visit [] = [] := (order₂.perm []).eq_nil
  -- whatever the order of the range, both pairs merge to `[A, B]`
  have merged : toMergedPrincipalSets (ofMapping [[memberOf "Org1MSP"], [memberOf "Org2MSP"]]
      (order₁.visit [(0, [0]), (1, [0])]) [[memberOf "Org1MSP", memberOf "Org2MSP"]]) =
      List.replicate 2 [memberOf "Org1MSP", memberOf "Org2MSP"] := by
    have perm := (ofMapping_perm [[memberOf "Org1MSP"], [memberOf "Org2MSP"]]
      [[memberOf "Org1MSP", memberOf "Org2MSP"]] (order₁.perm [(0, [0]), (1, [0])])).map
        ComparablePrincipalSetPair.mergeWithPlurality
    have inOrder : toMergedPrincipalSets (ofMapping [[memberOf "Org1MSP"], [memberOf "Org2MSP"]]
        [(0, [0]), (1, [0])] [[memberOf "Org1MSP", memberOf "Org2MSP"]]) =
        List.replicate 2 [memberOf "Org1MSP", memberOf "Org2MSP"] := by decide
    change (toMergedPrincipalSets _).Perm (toMergedPrincipalSets _) at perm
    rw [inOrder] at perm
    exact List.perm_replicate.mp perm
  refine ⟨?_, ⟨[0], by decide, .cons ⟨memberOf "Org1MSP", rfl, by decide⟩ .nil⟩,
    ⟨[0, 1], by decide, .cons ⟨memberOf "Org1MSP", rfl, by decide⟩
      (.cons ⟨memberOf "Org2MSP", rfl, by decide⟩ .nil)⟩⟩
  simp only [merge, contained, excluded, nothingIn, visitNothing, merged]
  decide

theorem merge_sound_of_one_org_and_two :
    (∀ set ∈ [[memberOf "Org1MSP"]] ++ [[memberOf "Org1MSP", memberOf "Org2MSP"]],
        ∀ p ∈ set, p.WellFormed) ∧
      ∀ s ∈ merge .insertion .insertion [[memberOf "Org1MSP"]] [[memberOf "Org1MSP", memberOf "Org2MSP"]],
        ∃ x ∈ [[memberOf "Org1MSP"]], ∃ y ∈ [[memberOf "Org1MSP", memberOf "Org2MSP"]],
          Covers s x ∧ Covers s y := by
  have wf : ∀ set ∈ [[memberOf "Org1MSP"]] ++ [[memberOf "Org1MSP", memberOf "Org2MSP"]],
      ∀ p ∈ set, p.WellFormed := by
    simp [ComparablePrincipal.WellFormed, memberOf]
  exact ⟨wf, merge_sound .insertion .insertion _ _ wf⟩

end Fabric.Inquire
