import Fabric.Policy.Cauthdsl
import Fabric.Graph.Perm

/-! `common/policies/inquire`: the sets of principals that satisfy a signature policy
(`inquire.go`). The policy becomes a tree of `TreeVertex`es, one per rule; each permutation of
the tree contributes the principals of its `signedBy` leaves. -/

namespace Fabric.Inquire

open Cauthdsl Fabric.Graph

inductive Crash where
  | stackOverflow
  | nilDereference
  | indexOutOfRange
  deriving DecidableEq, Repr

mutual
/-- `computePolicyTree`: the vertex of a rule, with the id the source formats for it, and one
descendant per rule of an `nOutOf` gate, whose `N` becomes the threshold. -/
def computePolicyTree (id : String) : SignaturePolicy → TreeVertex SignaturePolicy
  | .nOutOf n rules => ⟨id, .nOutOf n rules, computeDescendants id 0 rules, n⟩
  | rule => ⟨id, rule, [], 0⟩
def computeDescendants (id : String) : Nat → List SignaturePolicy → List (TreeVertex SignaturePolicy)
  | _, [] => []
  | i, rule :: rules => computePolicyTree s!"{id}.{i}" rule :: computeDescendants id (i + 1) rules
end

variable {Principal : Type}

def principalsOfVertices (principals : List Principal) :
    List (TreeVertex SignaturePolicy) → List Principal → Except Crash (List Principal)
  | [], principalSet => .ok principalSet
  | v :: vs, principalSet =>
      if !v.isLeaf then principalsOfVertices principals vs principalSet
      else
        match v.data with
        | .signedBy index =>
            -- an index past the identities is logged and answered with nil; a negative one
            -- passes that check and panics when it indexes the slice
            if outside : (principals.length : Int) ≤ index then .ok []
            else if negative : index < 0 then .error .indexOutOfRange
            else principalsOfVertices principals vs
              (principalSet ++ [principals.get ⟨index.toNat, by omega⟩])
        | .empty => .error .nilDereference
        | _ => .ok []

def principalsOfTree (tree : Graph.Tree SignaturePolicy) (principals : List Principal) :
    Except Crash (List Principal) :=
  principalsOfVertices principals tree.bfs []

def principalSetsOf (principals : List Principal) :
    List (Graph.Tree SignaturePolicy) → List (List Principal) → Except Crash (List (List Principal))
  | [], res => .ok res
  | perm :: perms, res => do
      let principalSet ← principalsOfTree perm principals
      if principalSet.isEmpty then .ok []
      else principalSetsOf principals perms (res ++ [principalSet])

/-- `inquireableSignaturePolicy.SatisfiedBy`. -/
def satisfiedBy (sigPol : SignaturePolicyEnvelope Principal) : Except Crash (List (List Principal)) :=
  let root := computePolicyTree "0" sigPol.rule
  match root.toTree.permute with
  | none => .error .stackOverflow
  | some perms => principalSetsOf sigPol.identities perms []

def SignedLeaf (identities : List Principal) (u : TreeVertex SignaturePolicy) (signer : Principal) : Prop :=
  u.descendants = [] ∧ ∃ index, u.data = .signedBy index ∧ 0 ≤ index ∧ identities[index.toNat]? = some signer

def Signs (identities : List Principal) (index : Int) (signer : Principal) : Prop :=
  0 ≤ index ∧ identities[index.toNat]? = some signer

section Leaves

variable {identities : List Principal}

theorem computeDescendants_signedBy (id : String) :
    ∀ (i : Nat) {indices : List Int} {signers : List Principal},
      List.Forall₂ (Signs identities) indices signers →
        List.Forall₂ (SignedLeaf identities) (computeDescendants id i (indices.map .signedBy)) signers
  | _, [], [], .nil => .nil
  | i, index :: _, _ :: _, .cons ⟨nonneg, found⟩ rest =>
      .cons ⟨rfl, index, rfl, nonneg, found⟩ (computeDescendants_signedBy id (i + 1) rest)

theorem SignedLeaf.leaves :
    ∀ {us : List (TreeVertex SignaturePolicy)} {signers : List Principal},
      List.Forall₂ (SignedLeaf identities) us signers → ∀ u ∈ us, u.descendants = []
  | [], [], .nil => by simp
  | _ :: _, _ :: _, .cons leaf rest => by
      intro u member
      rcases List.mem_cons.mp member with rfl | later
      · exact leaf.1
      · exact SignedLeaf.leaves rest u later

theorem principalsOfVertices_signedLeaves :
    ∀ {us : List (TreeVertex SignaturePolicy)} {signers : List Principal},
      List.Forall₂ (SignedLeaf identities) us signers →
        ∀ principalSet, principalsOfVertices identities us principalSet = .ok (principalSet ++ signers)
  | [], [], .nil, principalSet => by simp [principalsOfVertices]
  | u :: _, signer :: _, .cons ⟨noDescendants, index, signed, nonneg, found⟩ rest, principalSet => by
      have inside : index.toNat < identities.length := (List.getElem?_eq_some_iff.mp found).1
      have within : ¬(identities.length : Int) ≤ index := by omega
      have positive : ¬index < 0 := by omega
      have named : identities.get ⟨index.toNat, inside⟩ = signer := by
        simpa [List.getElem?_eq_getElem inside] using found
      have leaf : u.isLeaf = true := by simp [TreeVertex.isLeaf, noDescendants]
      rw [principalsOfVertices, leaf]
      simp only [Bool.not_true, Bool.false_eq_true, if_false, signed, dif_neg within, dif_neg positive,
        named]
      rw [principalsOfVertices_signedLeaves rest]
      simp

theorem signedLeaves_select {us : List (TreeVertex SignaturePolicy)} {signers : List Principal}
    (leaves : List.Forall₂ (SignedLeaf identities) us signers) :
    ∀ (chosen : List Nat), (∀ j ∈ chosen, j < us.length) →
      List.Forall₂ (SignedLeaf identities) (chosen.filterMap (us[·]?)) (chosen.filterMap (signers[·]?))
  | [], _ => .nil
  | j :: chosen, inside => by
      have here : j < us.length := inside j List.mem_cons_self
      have here' : j < signers.length := leaves.length_eq ▸ here
      have rest : ∀ j' ∈ chosen, j' < us.length := fun j' member => inside j' (List.mem_cons_of_mem j member)
      rw [List.filterMap_cons_some (List.getElem?_eq_getElem here),
        List.filterMap_cons_some (List.getElem?_eq_getElem here')]
      exact .cons (by simpa using leaves.get here here') (signedLeaves_select leaves chosen rest)

theorem principalsOfTree_gate {id : String} {data : SignaturePolicy} {us : List (TreeVertex SignaturePolicy)}
    {signers : List Principal} (leaves : List.Forall₂ (SignedLeaf identities) us signers) (gate : us ≠ []) :
    principalsOfTree (TreeVertex.toTree ⟨id, data, us, 0⟩) identities = .ok signers := by
  have notLeaf : (⟨id, data, us, 0⟩ : TreeVertex SignaturePolicy).isLeaf = false := by
    simpa [TreeVertex.isLeaf] using gate
  unfold principalsOfTree Graph.Tree.bfs TreeVertex.toTree
  rw [TreeVertex.bfs_of_leaves (SignedLeaf.leaves leaves), principalsOfVertices, notLeaf]
  simpa using principalsOfVertices_signedLeaves leaves []

theorem principalSetsOf_nonempty :
    ∀ {perms : List (Graph.Tree SignaturePolicy)} {sets : List (List Principal)},
      List.Forall₂ (fun perm set => principalsOfTree perm identities = .ok set ∧ set ≠ []) perms sets →
        ∀ res, principalSetsOf identities perms res = .ok (res ++ sets)
  | [], [], .nil, res => by simp [principalSetsOf]
  | _ :: _, set :: _, .cons ⟨principals, nonempty⟩ rest, res => by
      rw [principalSetsOf, principals]
      simp only [Except.ok_bind, List.isEmpty_iff, nonempty, if_false]
      rw [principalSetsOf_nonempty rest]
      simp

theorem filterMap_getElem?_ne_nil {β : Type} {l : List β} :
    ∀ {chosen : List Nat}, chosen ≠ [] → (∀ j ∈ chosen, j < l.length) → chosen.filterMap (l[·]?) ≠ []
  | [], nonempty, _ => absurd rfl nonempty
  | j :: _, _, inside => by
      rw [List.filterMap_cons_some (List.getElem?_eq_getElem (inside j List.mem_cons_self))]
      exact List.cons_ne_nil _ _

theorem satisfiedBy_signedBy_gate {signers : List Principal} {indices : List Int} {n : Int} (version : Int)
    (positive : 0 < n) (enough : n ≤ indices.length) (signed : List.Forall₂ (Signs identities) indices signers) :
    ∃ sets, chosenIndices indices.length n = some sets ∧
      satisfiedBy ⟨version, .nOutOf n (indices.map .signedBy), identities⟩ =
        .ok (sets.map fun chosen => chosen.filterMap (signers[·]?)) := by
  set leaves := computeDescendants "0" 0 (indices.map .signedBy) with leavesDef
  have signedLeaves := computeDescendants_signedBy "0" 0 signed
  have sameLength : leaves.length = indices.length := by
    rw [signedLeaves.length_eq, signed.length_eq]
  have gate : leaves ≠ [] := by
    intro empty
    rw [empty] at sameLength
    simp at sameLength
    omega
  obtain ⟨sets, chosen, -, shape⟩ := chosenIndices_spec indices.length n.toNat
  rw [Int.toNat_of_nonneg (by omega)] at chosen
  refine ⟨sets, chosen, ?_⟩
  have permuted := permute_of_leaves (v := ⟨"0", .nOutOf n (indices.map .signedBy), leaves, n⟩)
    (SignedLeaf.leaves signedLeaves) gate
  simp only [sameLength, chosen] at permuted
  -- every permutation keeps `N ≥ 1` valid indices, so none has an empty principal set
  have each : ∀ indicesSet ∈ sets,
      principalsOfTree (TreeVertex.toTree ⟨"0", .nOutOf n (indices.map .signedBy),
          TreeVertex.selectDescendants ⟨"0", .nOutOf n (indices.map .signedBy), leaves, n⟩ indicesSet, 0⟩)
          identities = .ok (indicesSet.filterMap (signers[·]?)) ∧
        indicesSet.filterMap (signers[·]?) ≠ [] := by
    intro indicesSet member
    obtain ⟨size, below⟩ := shape indicesSet member
    have nonempty : indicesSet ≠ [] := by
      intro empty
      rw [empty] at size
      simp at size
      omega
    have inLeaves : ∀ j ∈ indicesSet, j < leaves.length := fun j m => sameLength ▸ below j m
    have inSigners : ∀ j ∈ indicesSet, j < signers.length := fun j m => signed.length_eq ▸ below j m
    exact ⟨principalsOfTree_gate (signedLeaves_select signedLeaves indicesSet inLeaves)
        (filterMap_getElem?_ne_nil nonempty inLeaves),
      filterMap_getElem?_ne_nil nonempty inSigners⟩
  have allKept := principalSetsOf_nonempty
    (List.forall₂_map_left_iff.mpr (List.forall₂_map_right_iff.mpr (List.forall₂_same.mpr each))) []
  simp only [satisfiedBy, computePolicyTree, Graph.Tree.permute, ← leavesDef, TreeVertex.toTree_root, permuted,
    Option.map_some, List.map_map]
  simpa [Function.comp_def] using allKept

/-- A gate of at most three out of `signedBy` rules, with valid indices: `SatisfiedBy` returns
every choice of that many signers exactly once, in increasing order of their positions. -/
theorem satisfiedBy_signedBy_gate_of_le_three {signers : List Principal} {indices : List Int} {n : Int}
    (version : Int) (positive : 0 < n) (small : n ≤ 3) (enough : n ≤ indices.length)
    (signed : List.Forall₂ (Signs identities) indices signers) :
    satisfiedBy ⟨version, .nOutOf n (indices.map .signedBy), identities⟩ =
      .ok (signers.sublistsLen n.toNat).reverse := by
  obtain ⟨sets, chosen, satisfied⟩ := satisfiedBy_signedBy_gate version positive enough signed
  have threshold : n = (n.toNat : Int) := by omega
  rw [threshold, chosenIndices_of_le_three (by omega), Option.some.injEq, signed.length_eq] at chosen
  have defined : ∀ j ∈ List.range signers.length, (signers[j]?).isSome := by
    intro j member
    simp [List.mem_range.mp member]
  rw [satisfied, ← chosen, List.map_reverse, List.sublistsLen_filterMap _ _ defined,
    List.filterMap_getElem?_range]

theorem satisfiedBy_signedBy_gate_of_two_out_of_three :
    (0 : Int) < 2 ∧ (2 : Int) ≤ 3 ∧ (2 : Int) ≤ ([0, 1, 2] : List Int).length ∧
      List.Forall₂ (Signs ["A", "B", "C"]) [0, 1, 2] ["A", "B", "C"] ∧
      satisfiedBy (⟨0, .nOutOf 2 ([0, 1, 2].map .signedBy), ["A", "B", "C"]⟩ : SignaturePolicyEnvelope String) =
        .ok (["A", "B", "C"].sublistsLen (2 : Int).toNat).reverse := by
  have signed : List.Forall₂ (Signs ["A", "B", "C"]) [0, 1, 2] ["A", "B", "C"] := by
    simp [Signs]
  exact ⟨by decide, by decide, by decide, signed,
    satisfiedBy_signedBy_gate_of_le_three 0 (by decide) (by decide) (by decide) signed⟩

end Leaves

def fourOutOfFive : SignaturePolicyEnvelope String :=
  ⟨0, .nOutOf 4 [.signedBy 0, .signedBy 1, .signedBy 2, .signedBy 3, .signedBy 4],
    ["A", "B", "C", "D", "E"]⟩

theorem four_out_of_five_repeats_a_choice_and_drops_another :
    satisfiedBy fourOutOfFive =
        .ok [["A", "B", "C", "E"], ["A", "B", "C", "E"], ["A", "B", "D", "E"], ["A", "C", "D", "E"],
          ["B", "C", "D", "E"]] ∧
      ["A", "B", "C", "D"] ∈ fourOutOfFive.identities.sublistsLen 4 := by
  decide

end Fabric.Inquire
