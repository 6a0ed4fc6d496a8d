import Mathlib
import Fabric.Policy.Inquire
import Fabric.Committer.Vscc

/-! `discovery/endorsement`: the endorsement descriptor that discovery returns for a chaincode
invocation (`endorsement.go`). The principal sets that satisfy the chaincodes' policies become
layouts: each distinct principal stands behind a group, a layout asks a group for as many
endorsers as its principal occurs in the set, and a layout is kept when every group has that
many alive peers satisfying its principal. -/

namespace Fabric.Discovery

open Inquire Cauthdsl

variable {Member Principal : Type} [DecidableEq Principal]

/-- `principalGroupMapper`: the principals met so far and the names of their groups. -/
abbrev PrincipalGroupMapper (Principal : Type) := List (Principal × String)

/-- `principalGroupMapper.group`: a principal not seen before is named after the number of
groups already named. -/
def PrincipalGroupMapper.group (mapper : PrincipalGroupMapper Principal) (principal : Principal) :
    String × PrincipalGroupMapper Principal :=
  match mapper.lookup principal with
  | some grp => (grp, mapper)
  | none =>
    let n := mapper.length
    (s!"G{n}", mapper ++ [(principal, s!"G{n}")])

/-- `mapPrincipalsToGroups`: the principals of all sets are collected as the keys of a map and
named in the order the range over that map visits them. -/
def mapPrincipalsToGroups (order : RangeOrder Principal) (principalsSets : List (List Principal)) :
    PrincipalGroupMapper Principal :=
  (order.visit principalsSets.flatten.dedup).foldl
    (fun groupMapper principal => (groupMapper.group principal).2) []

/-- `principalPeerGraph`: the peer vertices, and the vertex of each group with its neighbours. -/
structure PrincipalPeerGraph (Member : Type) where
  peerVertices : List Member
  principalVertices : List (String × List Member)

/-- `principalsToPeersGraph`: a peer and a group are joined when the peer satisfies the group's
principal; the neighbours of a vertex are a map keyed by the peer, so a peer counts once. -/
def principalsToPeersGraph [DecidableEq Member] (members : List Member)
    (pGrps : PrincipalGroupMapper Principal) (satisfiesPrincipal : Member → Principal → Bool) :
    PrincipalPeerGraph Member :=
  ⟨members, pGrps.map fun entry =>
    (entry.2, (members.filter fun member => satisfiesPrincipal member entry.1).dedup)⟩

/-- `principalVertices[grp].Neighbors()`: a group without a vertex reads the nil vertex. -/
def PrincipalPeerGraph.neighbors (satGraph : PrincipalPeerGraph Member) (grp : String) :
    Except Crash (List Member) :=
  match satGraph.principalVertices.lookup grp with
  | some neighbors => .ok neighbors
  | none => .error .nilDereference

def isLayoutSatisfied (satGraph : PrincipalPeerGraph Member) :
    List (String × Nat) → Except Crash Bool
  | [] => .ok true
  | (grp, plurality) :: layout => do
    let neighbors ← satGraph.neighbors grp
    if neighbors.length < plurality then .ok false else isLayoutSatisfied satGraph layout

def uniqueSet (principalSet : List Principal) : List (Principal × Nat) :=
  principalSet.dedup.map fun principal => (principal, principalSet.count principal)

structure Layout where
  quantitiesByGroup : List (String × Nat)
  deriving DecidableEq, Repr

def layoutOf (principalGroups : PrincipalGroupMapper Principal) :
    List (Principal × Nat) → List (String × Nat) × PrincipalGroupMapper Principal
  | [] => ([], principalGroups)
  | (principal, plurality) :: unique =>
    let named := principalGroups.group principal
    let rest := layoutOf named.2 unique
    ((named.1, plurality) :: rest.1, rest.2)

def computeLayouts (satGraph : PrincipalPeerGraph Member) :
    PrincipalGroupMapper Principal → List (List Principal) → Except Crash (List Layout)
  | _, [] => .ok []
  | principalGroups, principalSet :: principalsSets => do
    let layout := layoutOf principalGroups (uniqueSet principalSet)
    let satisfied ← isLayoutSatisfied satGraph layout.1
    let layouts ← computeLayouts satGraph layout.2 principalsSets
    pure (if satisfied then ⟨layout.1⟩ :: layouts else layouts)

def groupsSet (layouts : List Layout) : List String :=
  layouts.flatMap fun layout => layout.quantitiesByGroup.map Prod.fst

def endorsersByGroup (satGraph : PrincipalPeerGraph Member) (possibleLayouts : List Layout) :
    List (String × List Member) :=
  satGraph.principalVertices.filter fun vertex => (groupsSet possibleLayouts).contains vertex.1

structure EndorsementDescriptor (Member : Type) where
  chaincode : String
  layouts : List Layout
  endorsersByGroups : List (String × List Member)

inductive EndorsementError where
  | crash (c : Crash)
  | error (msg : String)
  deriving DecidableEq, Repr

structure Context (Member Principal : Type) where
  chaincode : String
  aliveMembership : List Member
  principalsSets : List (List Principal)

def computeEndorsementResponse [DecidableEq Member] (order : RangeOrder Principal)
    (satisfiesPrincipal : Member → Principal → Bool) (ctx : Context Member Principal) :
    Except EndorsementError (EndorsementDescriptor Member) := do
  let principalGroups := mapPrincipalsToGroups order ctx.principalsSets
  let satGraph := principalsToPeersGraph ctx.aliveMembership principalGroups satisfiesPrincipal
  let layouts ← (computeLayouts satGraph principalGroups ctx.principalsSets).mapError .crash
  if layouts.isEmpty then throw (.error "cannot satisfy any principal combination")
  pure ⟨ctx.chaincode, layouts, endorsersByGroup satGraph layouts⟩

structure Support (Member Principal : Type) where
  satisfiesPrincipal : Member → Principal → Bool
  mspOfPrincipal : Principal → String
  organizationOf : Member → Option String
  policyByChaincode : String → Option (SignaturePolicyEnvelope Principal)
  comparable : Principal → Bool
  merge : List (List Principal) → List (List Principal) → List (List Principal)

def excludeIfCCNotInstalled (support : Support Member Principal) (membersById : List Member)
    (principalsSet : List Principal) : Bool :=
  let mspIDsOfChannelPeers := membersById.filterMap support.organizationOf
  principalsSet.all fun principal =>
    let mspID := support.mspOfPrincipal principal
    mspID != "" && mspIDsOfChannelPeers.contains mspID

def comparableSetsOf (support : Support Member Principal) (filter : List Principal → Bool) :
    List (List Principal) → Except EndorsementError (List (List Principal))
  | [] => .ok []
  | ps :: sets =>
    if !filter ps then comparableSetsOf support filter sets
    else if ps.isEmpty || !ps.all support.comparable then
      .error (.error "failed creating a comparable principal set")
    else do
      let cmpsets ← comparableSetsOf support filter sets
      pure (ps :: cmpsets)

def mergePrincipalSets (support : Support Member Principal) :
    List (List (List Principal)) → Except EndorsementError (List (List Principal))
  | [] => .error (.error "no principal sets remained after filtering")
  | cps :: cpss => .ok (cpss.foldl support.merge cps)

def computePrincipalSets (support : Support Member Principal) (chaincodes : List String)
    (filter : List Principal → Bool) : Except EndorsementError (List (List Principal)) := do
  let inquireablePolicies ← chaincodes.mapM fun chaincode =>
    match support.policyByChaincode chaincode with
    | some pol => .ok pol
    | none => .error (.error "policy not found")
  let cpss ← inquireablePolicies.mapM fun policy => do
    let principalSets ← (satisfiedBy policy).mapError .crash
    let cmpsets ← comparableSetsOf support filter principalSets
    if cmpsets.isEmpty then
      throw (.error "chaincode isn't installed on sufficient organizations required by the endorsement policy")
    pure cmpsets
  mergePrincipalSets support cpss

def peersForEndorsement [DecidableEq Member] (order : RangeOrder Principal)
    (support : Support Member Principal) (chaincodes : List String)
    (aliveMembership : List Member) : Except EndorsementError (EndorsementDescriptor Member) := do
  let filter := excludeIfCCNotInstalled support aliveMembership
  let principalsSets ← computePrincipalSets support chaincodes filter
  computeEndorsementResponse order support.satisfiesPrincipal
    ⟨chaincodes.headD "", aliveMembership, principalsSets⟩

structure PrincipalGroupMapper.Wf (mapper : PrincipalGroupMapper Principal) : Prop where
  names : mapper.map Prod.snd = (List.range mapper.length).map fun n => s!"G{n}"

section Groups

variable {mapper : PrincipalGroupMapper Principal} {principal other : Principal}

omit [DecidableEq Principal] in
theorem PrincipalGroupMapper.Wf.names_nodup (wf : mapper.Wf) : (mapper.map Prod.snd).Nodup := by
  rw [wf.names]
  apply List.Nodup.map _ List.nodup_range
  intro m n named
  simpa using named

theorem PrincipalGroupMapper.group_of_lookup {grp : String} (found : mapper.lookup principal = some grp) :
    mapper.group principal = (grp, mapper) := by
  simp [PrincipalGroupMapper.group, found]

theorem PrincipalGroupMapper.Wf.group (wf : mapper.Wf) : (mapper.group principal).2.Wf := by
  unfold PrincipalGroupMapper.group
  split
  · exact wf
  · constructor
    simp [List.range_succ, wf.names]

theorem PrincipalGroupMapper.lookup_group_isSome :
    ((mapper.group principal).2.lookup other).isSome ↔
      other = principal ∨ (mapper.lookup other).isSome := by
  unfold PrincipalGroupMapper.group
  split
  next grp found =>
    constructor
    · exact Or.inr
    · rintro (rfl | named)
      · simp [found]
      · exact named
  next missing =>
    by_cases same : other = principal
    · subst same
      simp [List.lookup_append, missing]
    · simp [List.lookup_append, same]

theorem wf_foldl_group (principals : List Principal) :
    ∀ mapper : PrincipalGroupMapper Principal, mapper.Wf →
      (principals.foldl (fun groupMapper principal => (groupMapper.group principal).2) mapper).Wf := by
  induction principals with
  | nil => intro mapper wf; exact wf
  | cons principal principals ih =>
    intro mapper wf
    exact ih _ wf.group

theorem lookup_foldl_group_isSome (principals : List Principal) :
    ∀ mapper : PrincipalGroupMapper Principal,
      ((principals.foldl (fun groupMapper principal => (groupMapper.group principal).2) mapper).lookup
        other).isSome ↔ other ∈ principals ∨ (mapper.lookup other).isSome := by
  induction principals with
  | nil => intro mapper; simp
  | cons principal principals ih =>
    intro mapper
    rw [List.foldl_cons, ih, PrincipalGroupMapper.lookup_group_isSome, List.mem_cons]
    tauto

theorem wf_mapPrincipalsToGroups (order : RangeOrder Principal) (principalsSets : List (List Principal)) :
    (mapPrincipalsToGroups order principalsSets).Wf :=
  wf_foldl_group _ [] ⟨rfl⟩

theorem lookup_mapPrincipalsToGroups_isSome (order : RangeOrder Principal)
    {principalsSets : List (List Principal)} {principalSet : List Principal}
    (present : principalSet ∈ principalsSets) (member : principal ∈ principalSet) :
    ((mapPrincipalsToGroups order principalsSets).lookup principal).isSome := by
  have visited : principal ∈ order.visit principalsSets.flatten.dedup := by
    rw [(order.perm _).mem_iff, List.mem_dedup, List.mem_flatten]
    exact ⟨principalSet, present, member⟩
  exact (lookup_foldl_group_isSome _ []).mpr (Or.inl visited)

end Groups

section Layouts

variable [DecidableEq Member] {members : List Member} {satisfiesPrincipal : Member → Principal → Bool}
  {mapper : PrincipalGroupMapper Principal} {principal : Principal} {grp : String}

omit [DecidableEq Principal] [DecidableEq Member] in
theorem lookup_vertex (neighbors : Principal → List Member) :
    ∀ {mapper : PrincipalGroupMapper Principal}, (mapper.map Prod.snd).Nodup →
      (principal, grp) ∈ mapper →
      (mapper.map fun entry => (entry.2, neighbors entry.1)).lookup grp = some (neighbors principal)
  | [], _, member => absurd member List.not_mem_nil
  | (principal', grp') :: mapper, distinct, member => by
    rw [List.map_cons, List.nodup_cons] at distinct
    rcases List.mem_cons.mp member with same | later
    · cases same
      simp
    · have other : (grp == grp') = false := by
        simp only [beq_eq_false_iff_ne]
        rintro rfl
        exact distinct.1 (List.mem_map.mpr ⟨_, later, rfl⟩)
      simp only [List.map_cons, List.lookup_cons, other]
      exact lookup_vertex neighbors distinct.2 later

theorem principalVertices_lookup (wf : mapper.Wf) (found : mapper.lookup principal = some grp) :
    (principalsToPeersGraph members mapper satisfiesPrincipal).principalVertices.lookup grp =
      some (members.filter fun member => satisfiesPrincipal member principal).dedup :=
  lookup_vertex (fun principal => (members.filter fun member => satisfiesPrincipal member principal).dedup)
    wf.names_nodup (List.mem_of_lookup_eq_some found)

omit [DecidableEq Member] in
theorem isLayoutSatisfied_spec (satGraph : PrincipalPeerGraph Member) :
    ∀ {layout : List (String × Nat)},
      (∀ entry ∈ layout, (satGraph.principalVertices.lookup entry.1).isSome) →
      ∃ satisfied, isLayoutSatisfied satGraph layout = .ok satisfied ∧
        (satisfied = true ↔ ∀ entry ∈ layout, ∃ neighbors,
          satGraph.principalVertices.lookup entry.1 = some neighbors ∧ entry.2 ≤ neighbors.length)
  | [], _ => ⟨true, rfl, by simp⟩
  | (grp, plurality) :: layout, named => by
    obtain ⟨neighbors, found⟩ := Option.isSome_iff_exists.mp (named (grp, plurality) List.mem_cons_self)
    have read : satGraph.neighbors grp = .ok neighbors := by
      simp [PrincipalPeerGraph.neighbors, found]
    by_cases short : neighbors.length < plurality
    · refine ⟨false, by simp [isLayoutSatisfied, read, short, bind, Except.bind], ?_⟩
      simp only [Bool.false_eq_true, false_iff, not_forall]
      exact ⟨(grp, plurality), List.mem_cons_self, by simp [found]; omega⟩
    · obtain ⟨satisfied, rest, iff⟩ :=
        isLayoutSatisfied_spec satGraph fun entry member => named entry (List.mem_cons_of_mem _ member)
      refine ⟨satisfied, by simp [isLayoutSatisfied, read, short, bind, Except.bind, rest], ?_⟩
      have enough : plurality ≤ neighbors.length := by omega
      rw [iff, List.forall_mem_cons]
      simp [found, enough]

theorem layoutOf_of_named :
    ∀ {unique : List (Principal × Nat)}, (∀ entry ∈ unique, (mapper.lookup entry.1).isSome) →
      layoutOf mapper unique =
        (unique.map fun entry => ((mapper.lookup entry.1).getD "", entry.2), mapper)
  | [], _ => rfl
  | (principal, plurality) :: unique, named => by
    obtain ⟨grp, found⟩ := Option.isSome_iff_exists.mp (named (principal, plurality) List.mem_cons_self)
    have rest : layoutOf mapper unique = _ :=
      layoutOf_of_named fun entry member => named entry (List.mem_cons_of_mem _ member)
    simp only at found
    simp [layoutOf, PrincipalGroupMapper.group_of_lookup found, rest, found]

theorem mem_uniqueSet {principalSet : List Principal} {entry : Principal × Nat}
    (member : entry ∈ uniqueSet principalSet) : entry.1 ∈ principalSet := by
  obtain ⟨principal, present, rfl⟩ := List.mem_map.mp member
  exact List.mem_dedup.mp present

omit [DecidableEq Member] in
theorem uniqueSet_perm (principalSet : List Principal) :
    ((uniqueSet principalSet).flatMap fun entry => List.replicate entry.2 entry.1).Perm principalSet := by
  rw [List.perm_iff_count]
  intro principal
  have single : ∀ other, other ≠ principal → other ∈ principalSet.dedup →
      (List.replicate (principalSet.count other) other).count principal = 0 := by
    intro other distinct _
    simp [List.count_replicate, distinct]
  simp only [uniqueSet, List.flatMap_map, List.count_flatMap, Function.comp_def]
  rw [List.sum_map_eq_nsmul_single principal _ single]
  by_cases present : principal ∈ principalSet
  · rw [List.count_eq_one_of_mem (List.nodup_dedup _) (List.mem_dedup.mpr present)]
    simp
  · simp [List.count_eq_zero_of_not_mem present]

theorem computeLayouts_spec (members : List Member) (satisfiesPrincipal : Member → Principal → Bool)
    (wf : mapper.Wf) :
    ∀ {principalsSets : List (List Principal)},
      (∀ principalSet ∈ principalsSets, ∀ principal ∈ principalSet,
        (mapper.lookup principal).isSome) →
      ∃ layouts, computeLayouts (principalsToPeersGraph members mapper satisfiesPrincipal) mapper
          principalsSets = .ok layouts ∧
        ∀ layout ∈ layouts, ∃ principalSet ∈ principalsSets,
          layout.quantitiesByGroup = (uniqueSet principalSet).map
            (fun entry => ((mapper.lookup entry.1).getD "", entry.2)) ∧
          ∀ entry ∈ layout.quantitiesByGroup, ∃ neighbors,
            (principalsToPeersGraph members mapper satisfiesPrincipal).principalVertices.lookup
              entry.1 = some neighbors ∧ entry.2 ≤ neighbors.length
  | [], _ => ⟨[], rfl, by simp⟩
  | principalSet :: principalsSets, named => by
    let quantities := (uniqueSet principalSet).map fun entry => ((mapper.lookup entry.1).getD "", entry.2)
    have layout : layoutOf mapper (uniqueSet principalSet) = (quantities, mapper) :=
      layoutOf_of_named fun entry member => named principalSet List.mem_cons_self entry.1 (mem_uniqueSet member)
    have vertices : ∀ entry ∈ quantities,
        ((principalsToPeersGraph members mapper satisfiesPrincipal).principalVertices.lookup
          entry.1).isSome := by
      intro entry member
      obtain ⟨⟨principal, plurality⟩, present, rfl⟩ := List.mem_map.mp member
      obtain ⟨grp, found⟩ := Option.isSome_iff_exists.mp
        (named principalSet List.mem_cons_self principal (mem_uniqueSet present))
      simp [found, principalVertices_lookup wf found]
    obtain ⟨satisfied, checked, iff⟩ := isLayoutSatisfied_spec _ vertices
    obtain ⟨layouts, rest, spec⟩ := computeLayouts_spec members satisfiesPrincipal wf
      fun principalSet present => named principalSet (List.mem_cons_of_mem _ present)
    refine ⟨if satisfied then ⟨quantities⟩ :: layouts else layouts, ?_, ?_⟩
    · simp [computeLayouts, layout, checked, rest, bind, Except.bind, pure, Except.pure]
    · intro computed member
      split at member
      next accepted =>
        rcases List.mem_cons.mp member with rfl | member
        · exact ⟨principalSet, List.mem_cons_self, rfl, iff.mp accepted⟩
        · obtain ⟨other, present, spec⟩ := spec computed member
          exact ⟨other, List.mem_cons_of_mem _ present, spec⟩
      next =>
        obtain ⟨other, present, spec⟩ := spec computed member
        exact ⟨other, List.mem_cons_of_mem _ present, spec⟩

end Layouts

structure Realises (descriptor : EndorsementDescriptor Member) (layout : Layout)
    (pick : String → List Member) : Prop where
  length_eq : ∀ entry ∈ layout.quantitiesByGroup, (pick entry.1).length = entry.2
  drawn : ∀ entry ∈ layout.quantitiesByGroup, ∃ endorsers,
    descriptor.endorsersByGroups.lookup entry.1 = some endorsers ∧ ∀ peer ∈ pick entry.1, peer ∈ endorsers
  nodup : (layout.quantitiesByGroup.flatMap fun entry => pick entry.1).Nodup

section Descriptors

variable [DecidableEq Member] {order : RangeOrder Principal}
  {satisfiesPrincipal : Member → Principal → Bool} {ctx : Context Member Principal}
  {descriptor : EndorsementDescriptor Member} {layout : Layout} {pick : String → List Member}

omit [DecidableEq Principal] [DecidableEq Member] in
theorem Realises.sum_le (realises : Realises descriptor layout pick) {endorsers : List Member}
    (within : ∀ entry ∈ layout.quantitiesByGroup, ∀ peers,
      descriptor.endorsersByGroups.lookup entry.1 = some peers → ∀ peer ∈ peers, peer ∈ endorsers) :
    (layout.quantitiesByGroup.map Prod.snd).sum ≤ endorsers.length := by
  have chosen : (layout.quantitiesByGroup.flatMap fun entry => pick entry.1) ⊆ endorsers := by
    intro peer member
    obtain ⟨entry, present, picked⟩ := List.mem_flatMap.mp member
    obtain ⟨peers, found, drawn⟩ := realises.drawn entry present
    exact within entry present peers found peer (drawn peer picked)
  calc (layout.quantitiesByGroup.map Prod.snd).sum
      = (layout.quantitiesByGroup.flatMap fun entry => pick entry.1).length := by
        rw [List.length_flatMap]
        congr 1
        apply List.map_congr_left
        intro entry present
        exact (realises.length_eq entry present).symm
    _ ≤ endorsers.length := (realises.nodup.subperm chosen).length_le

omit [DecidableEq Principal] [DecidableEq Member] in
theorem lookup_filter_contains {groups : List String} {grp : String} (included : groups.contains grp) :
    ∀ vertices : List (String × List Member),
      (vertices.filter fun vertex => groups.contains vertex.1).lookup grp = vertices.lookup grp
  | [] => rfl
  | (name, neighbors) :: vertices => by
    by_cases kept : groups.contains name
    · simp only [List.filter_cons, kept, ↓reduceIte, List.lookup_cons,
        lookup_filter_contains included vertices]
    · have other : (grp == name) = false := by
        simp only [beq_eq_false_iff_ne]
        rintro rfl
        exact kept included
      simp only [List.filter_cons, kept, Bool.false_eq_true, ↓reduceIte, List.lookup_cons, other,
        lookup_filter_contains included vertices]

theorem computeEndorsementResponse_spec
    (computed : computeEndorsementResponse order satisfiesPrincipal ctx = .ok descriptor) :
    let principalGroups := mapPrincipalsToGroups order ctx.principalsSets
    let satGraph := principalsToPeersGraph ctx.aliveMembership principalGroups satisfiesPrincipal
    descriptor.layouts ≠ [] ∧ descriptor.endorsersByGroups = endorsersByGroup satGraph descriptor.layouts ∧
      ∀ layout ∈ descriptor.layouts, ∃ principalSet ∈ ctx.principalsSets,
        layout.quantitiesByGroup = (uniqueSet principalSet).map
          (fun entry => ((principalGroups.lookup entry.1).getD "", entry.2)) ∧
        ∀ entry ∈ layout.quantitiesByGroup, ∃ neighbors,
          satGraph.principalVertices.lookup entry.1 = some neighbors ∧ entry.2 ≤ neighbors.length := by
  intro principalGroups satGraph
  obtain ⟨layouts, computedLayouts, spec⟩ := computeLayouts_spec ctx.aliveMembership satisfiesPrincipal
    (wf_mapPrincipalsToGroups order ctx.principalsSets)
    fun principalSet present principal member =>
      lookup_mapPrincipalsToGroups_isSome order present member
  simp only [computeEndorsementResponse, computedLayouts, Except.mapError, bind, Except.bind] at computed
  split at computed
  · cases computed
  · next nonempty =>
    cases computed
    exact ⟨by simpa using nonempty, rfl, spec⟩

omit [DecidableEq Principal] [DecidableEq Member] in
theorem forall₂_replicate {R : Principal → Member → Prop} {principal : Principal} :
    ∀ {peers : List Member}, (∀ peer ∈ peers, R principal peer) →
      List.Forall₂ R (List.replicate peers.length principal) peers
  | [], _ => .nil
  | peer :: _, related =>
    .cons (related peer List.mem_cons_self)
      (forall₂_replicate fun other member => related other (List.mem_cons_of_mem _ member))

omit [DecidableEq Principal] [DecidableEq Member] in
theorem forall₂_flatMap {α : Type} {R : Principal → Member → Prop} {f : α → List Principal}
    {g : α → List Member} :
    ∀ {entries : List α}, (∀ entry ∈ entries, List.Forall₂ R (f entry) (g entry)) →
      List.Forall₂ R (entries.flatMap f) (entries.flatMap g)
  | [], _ => .nil
  | entry :: entries, related => by
    rw [List.flatMap_cons, List.flatMap_cons]
    exact List.rel_append (related entry List.mem_cons_self)
      (forall₂_flatMap fun other member => related other (List.mem_cons_of_mem _ member))

theorem Realises.satisfies_principal_set
    (computed : computeEndorsementResponse order satisfiesPrincipal ctx = .ok descriptor)
    (present : layout ∈ descriptor.layouts) (realises : Realises descriptor layout pick) :
    ∃ principalSet ∈ ctx.principalsSets, ∃ arranged : List Principal, arranged.Perm principalSet ∧
      List.Forall₂ (fun principal endorser => satisfiesPrincipal endorser principal = true) arranged
        (layout.quantitiesByGroup.flatMap fun entry => pick entry.1) := by
  obtain ⟨-, endorsed, spec⟩ := computeEndorsementResponse_spec computed
  obtain ⟨principalSet, member, quantities, -⟩ := spec layout present
  refine ⟨principalSet, member, _, uniqueSet_perm principalSet, ?_⟩
  rw [quantities, List.flatMap_map]
  apply forall₂_flatMap
  intro ⟨principal, plurality⟩ unique
  obtain ⟨grp, found⟩ := Option.isSome_iff_exists.mp
    (lookup_mapPrincipalsToGroups_isSome order member (mem_uniqueSet unique))
  have listed : (grp, plurality) ∈ layout.quantitiesByGroup := by
    rw [quantities]
    exact List.mem_map.mpr ⟨(principal, plurality), unique, by simp [found]⟩
  have included : (groupsSet descriptor.layouts).contains grp := by
    simp only [List.contains_iff_mem, groupsSet, List.mem_flatMap, List.mem_map]
    exact ⟨layout, present, (grp, plurality), listed, rfl⟩
  obtain ⟨endorsers, lookup, drawn⟩ := realises.drawn (grp, plurality) listed
  -- the endorsers of the group are the neighbours of its principal's vertex
  rw [endorsed, endorsersByGroup, lookup_filter_contains included,
    principalVertices_lookup (wf_mapPrincipalsToGroups order ctx.principalsSets) found,
    Option.some.injEq] at lookup
  have satisfied : ∀ peer ∈ pick grp, satisfiesPrincipal peer principal = true := by
    intro peer picked
    have neighbour := drawn peer picked
    rw [← lookup, List.mem_dedup, List.mem_filter] at neighbour
    exact neighbour.2
  have length : (pick grp).length = plurality := realises.length_eq (grp, plurality) listed
  simp only [found, Option.getD_some]
  rw [← length]
  exact forall₂_replicate satisfied

end Descriptors

open Txvalidator

def memberAndPeerPolicy : SignaturePolicyEnvelope MSPRole :=
  ⟨0, .nOutOf 2 [.signedBy 0, .signedBy 1], [⟨.member, "Org1MSP"⟩, ⟨.peer, "Org1MSP"⟩]⟩

def org1Support (merge : List (List MSPRole) → List (List MSPRole) → List (List MSPRole)) :
    Support String MSPRole where
  satisfiesPrincipal _ principal :=
    principal.mspIdentifier == "Org1MSP" && (principal.role == .member || principal.role == .peer)
  mspOfPrincipal principal := principal.mspIdentifier
  organizationOf _ := some "Org1MSP"
  policyByChaincode _ := some memberAndPeerPolicy
  comparable _ := true
  merge := merge

theorem one_peer_gets_a_layout_of_two_endorsers (order : RangeOrder MSPRole)
    (merge : List (List MSPRole) → List (List MSPRole) → List (List MSPRole)) :
    ∃ descriptor, peersForEndorsement order (org1Support merge) ["mycc"] ["peer0.org1"] = .ok descriptor ∧
      descriptor.layouts ≠ [] ∧
      ∀ layout ∈ descriptor.layouts, ∀ pick, ¬ Realises descriptor layout pick := by
  have sets : computePrincipalSets (org1Support merge) ["mycc"]
      (excludeIfCCNotInstalled (org1Support merge) ["peer0.org1"]) =
        .ok [[⟨.member, "Org1MSP"⟩, ⟨.peer, "Org1MSP"⟩]] := by
    rfl
  have keys : [[(⟨.member, "Org1MSP"⟩ : MSPRole), ⟨.peer, "Org1MSP"⟩]].flatten.dedup =
      [⟨.member, "Org1MSP"⟩, ⟨.peer, "Org1MSP"⟩] := by
    decide
  -- the range over the two principals names either one first
  have visited := List.perm_pair.mp (order.perm [⟨.member, "Org1MSP"⟩, ⟨.peer, "Org1MSP"⟩])
  obtain ⟨quantities, computed, total⟩ : ∃ quantities : List (String × Nat),
      peersForEndorsement order (org1Support merge) ["mycc"] ["peer0.org1"] =
        .ok ⟨"mycc", [⟨quantities⟩], [("G0", ["peer0.org1"]), ("G1", ["peer0.org1"])]⟩ ∧
      (quantities.map Prod.snd).sum = 2 := by
    simp only [peersForEndorsement, sets, bind, Except.bind, computeEndorsementResponse,
      mapPrincipalsToGroups, keys]
    rcases visited with visit | visit
    · exact ⟨[("G0", 1), ("G1", 1)], by rw [visit]; rfl, rfl⟩
    · exact ⟨[("G1", 1), ("G0", 1)], by rw [visit]; rfl, rfl⟩
  refine ⟨_, computed, by simp, ?_⟩
  intro layout present pick realises
  have alone : ∀ entry ∈ layout.quantitiesByGroup, ∀ peers,
      [("G0", ["peer0.org1"]), ("G1", ["peer0.org1"])].lookup entry.1 = some peers →
        ∀ peer ∈ peers, peer ∈ ["peer0.org1"] := by
    intro entry _ peers found
    have listed := List.mem_of_lookup_eq_some found
    simp only [List.mem_cons, Prod.mk.injEq, List.not_mem_nil, or_false] at listed
    rcases listed with ⟨-, rfl⟩ | ⟨-, rfl⟩ <;> simp
  have bound := realises.sum_le alone
  simp only [List.mem_singleton] at present
  subst present
  simp [total] at bound

end Fabric.Discovery
