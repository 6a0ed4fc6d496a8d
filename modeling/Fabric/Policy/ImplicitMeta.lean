import Mathlib.Data.List.Dedup
import Fabric.Configtx.Config
import Fabric.Policy.Manager

/-! `common/policies/policy.go` `NewManagerImpl` and `implicitmeta.go`: the policy manager of a
config tree. Each group gets a manager holding its own policies and, under `group/name`, every
policy of the managers below it. An implicit meta policy is compiled against the managers of the
group's children: it asks each child for its sub-policy and counts how many accept.

Providers compile the other policy types; the decoding of an `ImplicitMetaPolicy` body is a
parameter. An error whose text starts with `runtime error` or names the provider check is a Go
panic. -/

namespace Fabric.Policies

open Configtx (ConfigGroup ConfigPolicy)

/-- `common.ImplicitMetaPolicy_Rule`, with the values no name is given to. -/
inductive Rule where
  | any
  | all
  | majority
  | unknown (value : Int32)
  deriving DecidableEq, Repr

structure ImplicitMetaPolicyDef where
  subPolicy : String
  rule : Rule
  deriving DecidableEq, Repr

def implicitMetaType : Int32 := 3

structure ImplicitMetaPolicy where
  threshold : Int
  subPolicies : List Policy
  subPolicyName : String

def ImplicitMetaPolicy.evaluateFrom (imp : ImplicitMetaPolicy) (signatureSet : List SignedData) :
    Int → List Policy → Except String Unit
  | remaining, [] =>
    if remaining = 0 then .ok ()
    else
      let threshold := imp.threshold
      .error s!"Failed to reach implicit threshold of {threshold} sub-policies, required {remaining} remaining"
  | remaining, policy :: rest =>
    match policy signatureSet with
    | .ok () =>
      if remaining - 1 = 0 then .ok ()
      else imp.evaluateFrom signatureSet (remaining - 1) rest
    | .error _ => imp.evaluateFrom signatureSet remaining rest

def ImplicitMetaPolicy.evaluate (imp : ImplicitMetaPolicy) : Policy :=
  fun signatureSet => imp.evaluateFrom signatureSet imp.threshold imp.subPolicies

def ruleThreshold (rule : Rule) (subPolicies : Nat) : Int :=
  match rule with
  | .any => 1
  | .all => subPolicies
  | .majority => subPolicies / 2 + 1
  | .unknown _ => 0

def newImplicitMetaPolicy (decode : Bytes → Except String ImplicitMetaPolicyDef) (data : Bytes)
    (managers : List (String × ManagerImpl)) : Except String ImplicitMetaPolicy := do
  let definition ← match decode data with
    | .error err => .error s!"Error unmarshaling to ImplicitMetaPolicy: {err}"
    | .ok definition => .ok definition
  let subPolicies ← managers.mapM fun entry => do
    let (policy, _) ← entry.2.getPolicy definition.subPolicy
    pure policy
  -- in the special case that there are no policies, 0 is a majority or any
  let threshold := if subPolicies.length = 0 then 0 else ruleThreshold definition.rule subPolicies.length
  return ⟨threshold, subPolicies, definition.subPolicy⟩

abbrev Providers := Int32 → Option (Bytes → Except String Policy)

def compilePolicy (providers : Providers) (decode : Bytes → Except String ImplicitMetaPolicyDef)
    (path : String) (managers : List (String × ManagerImpl)) (policyName : String)
    (configPolicy : ConfigPolicy) : Except String Policy :=
  match configPolicy.policy with
  | none => .error s!"policy {policyName} at path {path} was nil"
  | some policy =>
    if policy.type = implicitMetaType then
      match newImplicitMetaPolicy decode policy.value managers with
      | .error err => .error s!"implicit policy {policyName} at path {path} did not compile: {err}"
      | .ok imp => .ok imp.evaluate
    else
      match providers policy.type with
      | none =>
        let type := policy.type
        .error s!"policy {policyName} at path {path} has unknown policy type: {type}"
      | some provider =>
        match provider policy.value with
        | .error err => .error s!"policy {policyName} at path {path} did not compile: {err}"
        | .ok cPolicy => .ok cPolicy

def flattenPolicies (managers : List (String × ManagerImpl)) (policies : List (String × Policy)) :
    List (String × Policy) :=
  managers.foldl (fun policies entry =>
    entry.2.policies.foldl (fun policies policy =>
      policies.setKey (entry.1 ++ pathSeparator ++ policy.1) policy.2) policies) policies

mutual
def newManagerImpl (providers : Providers) (decode : Bytes → Except String ImplicitMetaPolicyDef)
    (path : String) : ConfigGroup → Except String ManagerImpl
  | ⟨_, groups, _, configPolicies, _⟩ =>
    if (providers implicitMetaType).isSome then
      .error "ImplicitMetaPolicy type must be provider by the policy manager"
    else do
      let managers ← newManagers providers decode path [] groups
      let policies ← configPolicies.foldlM (fun policies entry => do
        let cPolicy ← compilePolicy providers decode path managers entry.1 entry.2
        pure (policies.setKey entry.1 cPolicy)) []
      return ⟨path, flattenPolicies managers policies, managers⟩

def newManagers (providers : Providers) (decode : Bytes → Except String ImplicitMetaPolicyDef)
    (path : String) (managers : List (String × ManagerImpl)) :
    List (String × ConfigGroup) → Except String (List (String × ManagerImpl))
  | [] => .ok managers
  | (groupName, group) :: rest => do
    let manager ← newManagerImpl providers decode (path ++ pathSeparator ++ groupName) group
    newManagers providers decode path (managers.setKey groupName manager) rest
end

def accepts (signatureSet : List SignedData) (policy : Policy) : Bool := (policy signatureSet).isOk

theorem accepts_iff {signatureSet : List SignedData} {policy : Policy} :
    accepts signatureSet policy = true ↔ policy signatureSet = .ok () := by
  unfold accepts
  cases policy signatureSet <;> simp [Except.isOk, Except.toBool]

theorem evaluateFrom_ok_iff (imp : ImplicitMetaPolicy) (signatureSet : List SignedData) :
    ∀ (policies : List Policy) (remaining : Int),
      imp.evaluateFrom signatureSet remaining policies = .ok () ↔
        if 0 < remaining then remaining ≤ policies.countP (accepts signatureSet)
        else remaining = 0 ∧ policies.countP (accepts signatureSet) = 0
  | [], remaining => by
    unfold ImplicitMetaPolicy.evaluateFrom
    split_ifs <;> simp_all
  | policy :: rest, remaining => by
    have later := evaluateFrom_ok_iff imp signatureSet rest
    unfold ImplicitMetaPolicy.evaluateFrom
    cases accepted : policy signatureSet with
    | error err =>
      have rejected : accepts signatureSet policy = false := by simp [accepts, accepted, Except.isOk, Except.toBool]
      simp only [later, List.countP_cons, rejected]
      simp
    | ok _ =>
      have passed : accepts signatureSet policy = true := accepts_iff.mpr accepted
      simp only [List.countP_cons, passed, if_true]
      by_cases reached : remaining - 1 = 0
      · -- the acceptance that brings the count to zero returns at once
        rw [if_pos reached, if_pos (by omega)]
        exact ⟨fun _ => by push_cast; omega, fun _ => rfl⟩
      · rw [if_neg reached, later (remaining - 1)]
        by_cases positive : 0 < remaining
        · rw [if_pos (by omega), if_pos positive]
          push_cast
          omega
        · rw [if_neg (by omega), if_neg positive]
          constructor <;> rintro ⟨_, _⟩ <;> omega

def requiredSubPolicies (rule : Rule) (k : Nat) : Nat :=
  if k = 0 then 0
  else match rule with
    | .any => 1
    | .all => k
    | .majority => k / 2 + 1
    | .unknown _ => 0

def subPolicyAccepts (subPolicy : String) (signatureSet : List SignedData) (manager : ManagerImpl) : Bool :=
  match manager.getPolicy subPolicy with
  | .ok (policy, true) => accepts signatureSet policy
  | _ => false

theorem lookupPolicy_accepts {pm : ManagerImpl} {relpath : Bytes} {policy : Policy} {found : Bool}
    (looked : pm.lookupPolicy relpath = (policy, found)) (signatureSet : List SignedData) :
    accepts signatureSet policy = (found && accepts signatureSet policy) := by
  unfold ManagerImpl.lookupPolicy at looked
  split at looked
  all_goals
    simp only [Prod.mk.injEq] at looked
    obtain ⟨rfl, rfl⟩ := looked
    rfl

theorem getPolicy_accepts {pm : ManagerImpl} {id : String} {policy : Policy} {found : Bool}
    (got : pm.getPolicy id = .ok (policy, found)) (signatureSet : List SignedData) :
    accepts signatureSet policy = (found && accepts signatureSet policy) := by
  rcases getPolicy_eq_ok got with rejected | ⟨relpath, looked⟩
  · obtain ⟨rfl, rfl⟩ := Prod.mk.inj rejected
    rfl
  · exact lookupPolicy_accepts looked signatureSet

theorem countP_subPolicies {subPolicy : String} {signatureSet : List SignedData}
    {managers : List (String × ManagerImpl)} {subPolicies : List Policy}
    (resolved : List.Forall₂ (fun (entry : String × ManagerImpl) policy =>
      (do let (policy, _) ← entry.2.getPolicy subPolicy; pure policy : Except String Policy) = .ok policy)
      managers subPolicies) :
    subPolicies.countP (accepts signatureSet) =
      managers.countP fun entry => subPolicyAccepts subPolicy signatureSet entry.2 := by
  induction resolved with
  | nil => rfl
  | @cons entry policy rest policies first _ ih =>
    rw [List.countP_cons, List.countP_cons, ih]
    congr 1
    cases got : entry.2.getPolicy subPolicy with
    | error err => simp [got] at first
    | ok result =>
      obtain ⟨policy', found⟩ := result
      simp only [got, Except.ok_bind, Except.pure_eq_ok_iff] at first
      subst first
      simp only [subPolicyAccepts, got]
      rw [getPolicy_accepts got signatureSet]
      cases found <;> simp

theorem requiredSubPolicies_pos {rule : Rule} (named : ∀ value, rule ≠ .unknown value) {k : Nat}
    (children : k ≠ 0) : 0 < requiredSubPolicies rule k := by
  unfold requiredSubPolicies
  cases rule with
  | any => simp [children]
  | all => simp [children]; omega
  | majority => simp [children]
  | unknown value => exact absurd rfl (named value)

theorem newImplicitMetaPolicy_evaluate {decode : Bytes → Except String ImplicitMetaPolicyDef}
    {data : Bytes} {managers : List (String × ManagerImpl)} {imp : ImplicitMetaPolicy}
    (built : newImplicitMetaPolicy decode data managers = .ok imp) {definition : ImplicitMetaPolicyDef}
    (decoded : decode data = .ok definition) (named : ∀ value, definition.rule ≠ .unknown value)
    (signatureSet : List SignedData) :
    imp.evaluate signatureSet = .ok () ↔
      requiredSubPolicies definition.rule managers.length ≤
        managers.countP fun entry => subPolicyAccepts definition.subPolicy signatureSet entry.2 := by
  unfold newImplicitMetaPolicy at built
  rw [decoded] at built
  simp only [Except.ok_bind] at built
  obtain ⟨subPolicies, mapped, built⟩ := Except.bind_eq_ok_iff.mp built
  rw [Except.pure_eq_ok_iff] at built
  subst built
  have resolved := Except.forall₂_of_mapM_eq_ok mapped
  have sameLength : subPolicies.length = managers.length := resolved.length_eq.symm
  rw [ImplicitMetaPolicy.evaluate, evaluateFrom_ok_iff, ← countP_subPolicies resolved, ← sameLength]
  dsimp only
  by_cases none : subPolicies.length = 0
  · -- no children: the threshold is zero and there is nothing to count
    have empty : subPolicies = [] := List.eq_nil_of_length_eq_zero none
    simp [empty, requiredSubPolicies]
  · have positive := requiredSubPolicies_pos named none
    have same : ruleThreshold definition.rule subPolicies.length =
        (requiredSubPolicies definition.rule subPolicies.length : Int) := by
      unfold ruleThreshold requiredSubPolicies
      cases definition.rule <;> simp [none]
    simp only [none, if_false, same]
    rw [if_pos (by omega)]
    omega

section Build

variable {providers : Providers} {decode : Bytes → Except String ImplicitMetaPolicyDef}

theorem newManagerImpl_eq_ok {path : String} {group : ConfigGroup} {pm : ManagerImpl}
    (built : newManagerImpl providers decode path group = .ok pm) :
    ∃ managers policies, newManagers providers decode path [] group.groups = .ok managers ∧
      group.policies.foldlM (fun policies entry => do
        let cPolicy ← compilePolicy providers decode path managers entry.1 entry.2
        pure (policies.setKey entry.1 cPolicy)) [] = .ok policies ∧
      pm = ⟨path, flattenPolicies managers policies, managers⟩ := by
  obtain ⟨version, groups, values, configPolicies, modPolicy⟩ := group
  unfold newManagerImpl at built
  split_ifs at built
  obtain ⟨managers, managersOk, built⟩ := Except.bind_eq_ok_iff.mp built
  obtain ⟨policies, policiesOk, built⟩ := Except.bind_eq_ok_iff.mp built
  exact ⟨managers, policies, managersOk, policiesOk, (Except.pure_eq_ok_iff.mp built).symm⟩

theorem newManagerImpl_path {path : String} {group : ConfigGroup} {pm : ManagerImpl}
    (built : newManagerImpl providers decode path group = .ok pm) : pm.path = path := by
  obtain ⟨managers, policies, -, -, rfl⟩ := newManagerImpl_eq_ok built
  rfl

theorem newManagers_spec (path : String) :
    ∀ {groups : List (String × ConfigGroup)} {acc result : List (String × ManagerImpl)},
      newManagers providers decode path acc groups = .ok result →
        (∀ name, name ∈ result.map Prod.fst ↔ name ∈ acc.map Prod.fst ∨ name ∈ groups.map Prod.fst) ∧
        ((acc.map Prod.fst).Nodup → (result.map Prod.fst).Nodup) ∧
        ∀ entry ∈ result, entry ∈ acc ∨
          ∃ sub, (entry.1, sub) ∈ groups ∧
            newManagerImpl providers decode (path ++ pathSeparator ++ entry.1) sub = .ok entry.2
  | [], acc, result, looped => by
    cases looped
    exact ⟨by simp, id, fun entry member => Or.inl member⟩
  | (groupName, group) :: rest, acc, result, looped => by
    unfold newManagers at looped
    obtain ⟨manager, managerOk, looped⟩ := Except.bind_eq_ok_iff.mp looped
    obtain ⟨keys, nodup, origin⟩ := newManagers_spec path looped
    refine ⟨fun name => ?_, fun distinct => nodup (List.nodup_keys_setKey groupName manager distinct), ?_⟩
    · rw [keys, List.mem_keys_setKey]
      simp only [List.map_cons, List.mem_cons]
      tauto
    · intro entry member
      rcases origin entry member with earlier | ⟨sub, listed, subBuilt⟩
      · rcases List.mem_of_mem_setKey earlier with rfl | before
        · exact Or.inr ⟨group, List.mem_cons_self, managerOk⟩
        · exact Or.inl before
      · exact Or.inr ⟨sub, List.mem_cons_of_mem _ listed, subBuilt⟩

theorem newManagerImpl_managers {path : String} {group : ConfigGroup} {pm : ManagerImpl}
    (built : newManagerImpl providers decode path group = .ok pm) :
    pm.managers.length = (group.groups.map Prod.fst).dedup.length ∧
      ∀ entry ∈ pm.managers, ∃ sub, (entry.1, sub) ∈ group.groups ∧
        newManagerImpl providers decode (path ++ pathSeparator ++ entry.1) sub = .ok entry.2 := by
  obtain ⟨managers, policies, managersOk, -, rfl⟩ := newManagerImpl_eq_ok built
  obtain ⟨keys, nodup, origin⟩ := newManagers_spec path managersOk
  refine ⟨?_, fun entry member => (origin entry member).resolve_left (by simp)⟩
  -- the names of the managers and the distinct names of the groups are one set
  have same : (managers.map Prod.fst).Perm (group.groups.map Prod.fst).dedup := by
    refine (List.perm_ext_iff_of_nodup (nodup List.nodup_nil) (List.nodup_dedup _)).mpr fun name => ?_
    rw [keys, List.mem_dedup]
    simp
  simpa using same.length_eq

theorem newManagerImpl_compiles {path : String} {group : ConfigGroup} {pm : ManagerImpl}
    (built : newManagerImpl providers decode path group = .ok pm) {name : String}
    {configPolicy : ConfigPolicy} (defined : (name, configPolicy) ∈ group.policies) :
    ∃ policy, compilePolicy providers decode path pm.managers name configPolicy = .ok policy := by
  obtain ⟨managers, policies, -, policiesOk, rfl⟩ := newManagerImpl_eq_ok built
  obtain ⟨before, after, step⟩ := Except.foldlM_eq_ok_each policiesOk _ defined
  obtain ⟨policy, compiled, -⟩ := Except.bind_eq_ok_iff.mp step
  exact ⟨policy, compiled⟩

end Build

theorem implicit_meta_policy_counts_accepting_children (providers : Providers)
    (decode : Bytes → Except String ImplicitMetaPolicyDef) (path : String) (group : ConfigGroup)
    (pm : ManagerImpl) (built : newManagerImpl providers decode path group = .ok pm) (name : String)
    (configPolicy : ConfigPolicy) (defined : (name, configPolicy) ∈ group.policies) (data : Bytes)
    (implicit : configPolicy.policy = some ⟨implicitMetaType, data⟩) (definition : ImplicitMetaPolicyDef)
    (decoded : decode data = .ok definition) (named : ∀ value, definition.rule ≠ .unknown value) :
    pm.managers.length = (group.groups.map Prod.fst).dedup.length ∧
      ∃ policy, compilePolicy providers decode path pm.managers name configPolicy = .ok policy ∧
        ∀ signatureSet, policy signatureSet = .ok () ↔
          requiredSubPolicies definition.rule pm.managers.length ≤
            pm.managers.countP fun entry => subPolicyAccepts definition.subPolicy signatureSet entry.2 := by
  refine ⟨(newManagerImpl_managers built).1, ?_⟩
  obtain ⟨policy, compiled⟩ := newManagerImpl_compiles built defined
  refine ⟨policy, compiled, fun signatureSet => ?_⟩
  -- an implicit meta policy compiles to the evaluation of the policy newImplicitMetaPolicy builds
  unfold compilePolicy at compiled
  rw [implicit] at compiled
  dsimp only at compiled
  rw [if_pos rfl] at compiled
  cases built' : newImplicitMetaPolicy decode data pm.managers with
  | error err =>
    rw [built'] at compiled
    cases compiled
  | ok imp =>
    rw [built'] at compiled
    cases compiled
    exact newImplicitMetaPolicy_evaluate built' decoded named signatureSet

def acceptingProviders : Providers := fun type => if type = 1 then some fun _ => .ok fun _ => .ok () else none

def majorityOfAdmins : Bytes → Except String ImplicitMetaPolicyDef := fun _ => .ok ⟨"Admins", .majority⟩

def orgGroup : ConfigGroup := ⟨0, [], [], [("Admins", ⟨0, some ⟨1, []⟩, "Admins"⟩)], "Admins"⟩

def twoOrgChannel : ConfigGroup :=
  ⟨0, [("Org1", orgGroup), ("Org2", orgGroup)], [], [("Admins", ⟨0, some ⟨implicitMetaType, []⟩, "Admins"⟩)],
    "Admins"⟩

theorem implicit_meta_policy_counts_accepting_children_of_two_orgs :
    ∃ pm, newManagerImpl acceptingProviders majorityOfAdmins "Channel" twoOrgChannel = .ok pm ∧
      pm.managers.length = (twoOrgChannel.groups.map Prod.fst).dedup.length ∧
      ∃ policy, compilePolicy acceptingProviders majorityOfAdmins "Channel" pm.managers "Admins"
          ⟨0, some ⟨implicitMetaType, []⟩, "Admins"⟩ = .ok policy ∧
        ∀ signatureSet, policy signatureSet = .ok () ↔
          requiredSubPolicies .majority pm.managers.length ≤
            pm.managers.countP fun entry => subPolicyAccepts "Admins" signatureSet entry.2 := by
  obtain ⟨pm, built⟩ : ∃ pm, newManagerImpl acceptingProviders majorityOfAdmins "Channel" twoOrgChannel = .ok pm :=
    ⟨_, rfl⟩
  exact ⟨pm, built, implicit_meta_policy_counts_accepting_children acceptingProviders majorityOfAdmins "Channel"
    twoOrgChannel pm built "Admins" _ List.mem_cons_self [] rfl ⟨"Admins", .majority⟩ rfl
    fun _ named => Rule.noConfusion named⟩

theorem getPolicy_of_own_path_panics (providers : Providers)
    (decode : Bytes → Except String ImplicitMetaPolicyDef) (path : String) (group : ConfigGroup)
    (pm : ManagerImpl) (built : newManagerImpl providers decode path group = .ok pm) :
    (let start := 1 + (goBytes path).length + 1
     let stop := (goBytes ("/" ++ path)).length
     pm.getPolicy ("/" ++ path) = .error s!"runtime error: slice bounds out of range [{start}:{stop}]") ∧
      (∀ (id : String) (b : UInt8) (rest : Bytes), goBytes id = goBytes ("/" ++ path) ++ b :: rest →
        pm.getPolicy id = .ok (pm.lookupPolicy rest)) ∧
      ∀ (c : Char) (relpath : String), c.val.toNat ≤ 0x7f →
        pm.getPolicy ("/" ++ path ++ String.singleton c ++ relpath) = .ok (pm.lookupPolicy (goBytes relpath)) := by
  have own := newManagerImpl_path built
  subst own
  obtain ⟨panics, cut⟩ := getPolicy_absolute pm
  refine ⟨panics, cut, fun c relpath ascii => cut _ (UInt8.ofNat c.val.toNat) (goBytes relpath) ?_⟩
  rw [goBytes_append, goBytes_append, goBytes_singleton_of_le ascii, List.append_assoc, List.singleton_append]

theorem getPolicy_of_own_path_panics_on_channel :
    ∃ pm, newManagerImpl acceptingProviders majorityOfAdmins "Channel" twoOrgChannel = .ok pm ∧
      (let start := 1 + (goBytes "Channel").length + 1
       let stop := (goBytes ("/" ++ "Channel")).length
       pm.getPolicy ("/" ++ "Channel") = .error s!"runtime error: slice bounds out of range [{start}:{stop}]") ∧
      (pm.getPolicy "/ChannelxAdmins").map Prod.snd = .ok true ∧
      (pm.getPolicy "/Channel\u00e9Admins").map Prod.snd = .ok false := by
  obtain ⟨pm, built⟩ : ∃ pm, newManagerImpl acceptingProviders majorityOfAdmins "Channel" twoOrgChannel = .ok pm :=
    ⟨_, rfl⟩
  obtain ⟨panics, cut, ascii⟩ :=
    getPolicy_of_own_path_panics acceptingProviders majorityOfAdmins "Channel" twoOrgChannel pm built
  have letter := ascii 'x' "Admins" (by decide)
  have accented := cut "/Channel\u00e9Admins" 0xc3 (0xa9 :: goBytes "Admins") (by decide)
  refine ⟨pm, built, panics, ?_, ?_⟩
  · rw [show "/ChannelxAdmins" = "/" ++ "Channel" ++ String.singleton 'x' ++ "Admins" by decide, letter]
    cases built
    decide
  · rw [accented]
    cases built
    decide

end Fabric.Policies
