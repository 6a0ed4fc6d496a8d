import Fabric.Protos.Common
import Fabric.Lib.Basic

/-! `protos/common/configtx.proto` and `common/configtx/compare.go`: the config tree, the
element at a path of it, and the comparison of two elements. A protobuf map is a list of
pairs; Go maps have distinct keys, which `keysDistinct` states where a proof needs it. -/

namespace Fabric.Configtx

structure ConfigValue where
  version : UInt64
  value : Bytes
  modPolicy : String
  deriving DecidableEq, Repr

/-- `common.Policy`: the policy type and its marshalled body. -/
structure Policy where
  type : Int32
  value : Bytes
  deriving DecidableEq, Repr

structure ConfigPolicy where
  version : UInt64
  policy : Option Policy
  modPolicy : String
  deriving DecidableEq, Repr

structure ConfigGroup where
  version : UInt64
  groups : List (String × ConfigGroup)
  values : List (String × ConfigValue)
  policies : List (String × ConfigPolicy)
  modPolicy : String
  deriving Repr

mutual
def ConfigGroup.keysDistinct : ConfigGroup → Bool
  | ⟨_, groups, values, policies, _⟩ =>
      decide (groups.map Prod.fst).Nodup && decide (values.map Prod.fst).Nodup &&
        decide (policies.map Prod.fst).Nodup && groupsKeysDistinct groups

def groupsKeysDistinct : List (String × ConfigGroup) → Bool
  | [] => true
  | (_, group) :: rest => group.keysDistinct && groupsKeysDistinct rest
end

mutual
def ConfigGroup.all (check : ConfigGroup → Bool) : ConfigGroup → Bool
  | group@⟨_, groups, _, _, _⟩ => check group && groupsAll check groups

def groupsAll (check : ConfigGroup → Bool) : List (String × ConfigGroup) → Bool
  | [] => true
  | (_, group) :: rest => group.all check && groupsAll check rest
end

inductive ElementKind where
  | group
  | value
  | policy
  deriving DecidableEq, Repr

inductive ConfigElement where
  | group (group : ConfigGroup)
  | value (value : ConfigValue)
  | policy (policy : ConfigPolicy)
  deriving Repr

def ConfigElement.kind : ConfigElement → ElementKind
  | .group _ => .group
  | .value _ => .value
  | .policy _ => .policy

/-- `comparable`: an element of a config tree, its key and the keys of the groups above it. -/
structure Comparable where
  element : ConfigElement
  key : String
  path : List String
  deriving Repr

def Comparable.version (cg : Comparable) : UInt64 :=
  match cg.element with
  | .group group => group.version
  | .value value => value.version
  | .policy policy => policy.version

def Comparable.modPolicy (cg : Comparable) : String :=
  match cg.element with
  | .group group => group.modPolicy
  | .value value => value.modPolicy
  | .policy policy => policy.modPolicy

def subsetOf {α : Type} (inner outer : List (String × α)) : Bool :=
  if inner.isEmpty then true
  else if outer.length < inner.length then false
  else inner.all fun entry => outer.any fun other => other.1 == entry.1

def subsetOfGroups (inner outer : List (String × ConfigGroup)) : Bool := subsetOf inner outer

def subsetOfPolicies (inner outer : List (String × ConfigPolicy)) : Bool := subsetOf inner outer

def subsetOfValues (inner outer : List (String × ConfigValue)) : Bool := subsetOf inner outer

def equalConfigValues (lhs rhs : ConfigValue) : Bool :=
  lhs.version == rhs.version && lhs.modPolicy == rhs.modPolicy && lhs.value == rhs.value

def equalConfigPolicies (lhs rhs : ConfigPolicy) : Bool :=
  if lhs.version != rhs.version || lhs.modPolicy != rhs.modPolicy then false
  else
    match lhs.policy, rhs.policy with
    | some lhsPolicy, some rhsPolicy =>
        lhsPolicy.type == rhsPolicy.type && lhsPolicy.value == rhsPolicy.value
    -- a nil policy equals only a nil policy
    | lhsPolicy, rhsPolicy => lhsPolicy.isNone && rhsPolicy.isNone

def equalConfigGroup (lhs rhs : ConfigGroup) : Bool :=
  if lhs.version != rhs.version || lhs.modPolicy != rhs.modPolicy then false
  else if !subsetOfGroups lhs.groups rhs.groups || !subsetOfGroups rhs.groups lhs.groups ||
      !subsetOfPolicies lhs.policies rhs.policies || !subsetOfPolicies rhs.policies lhs.policies ||
      !subsetOfValues lhs.values rhs.values || !subsetOfValues rhs.values lhs.values then false
  else true

def Comparable.equals (cg other : Comparable) : Bool :=
  match cg.element, other.element with
  | .group lhs, .group rhs => equalConfigGroup lhs rhs
  | .value lhs, .value rhs => equalConfigValues lhs rhs
  | .policy lhs, .policy rhs => equalConfigPolicies lhs rhs
  | _, _ => false

theorem subsetOf_of_keys_eq {α : Type} {inner outer : List (String × α)}
    (keysOk : inner.map Prod.fst = outer.map Prod.fst) : subsetOf inner outer = true := by
  have length : inner.length = outer.length := by
    simpa using congrArg List.length keysOk
  unfold subsetOf
  split_ifs with emptyEq shorter
  · rfl
  · omega
  · rw [List.all_eq_true]
    intro entry member
    have keyOk : entry.1 ∈ outer.map Prod.fst := keysOk ▸ List.mem_map_of_mem member
    obtain ⟨other, otherOk, same⟩ := List.mem_map.mp keyOk
    exact List.any_eq_true.mpr ⟨other, otherOk, by simp [same]⟩

theorem mem_of_subsetOf {α : Type} {inner outer : List (String × α)}
    (subset : subsetOf inner outer = true) {key : String} (keyOk : key ∈ inner.map Prod.fst) :
    key ∈ outer.map Prod.fst := by
  obtain ⟨entry, entryOk, rfl⟩ := List.mem_map.mp keyOk
  unfold subsetOf at subset
  split_ifs at subset with emptyEq shorter
  · simp_all
  · obtain ⟨other, otherOk, same⟩ := List.any_eq_true.mp (List.all_eq_true.mp subset entry entryOk)
    exact List.mem_map.mpr ⟨other, otherOk, by simpa using same⟩

theorem equalConfigGroup_of_keys_eq {lhs rhs : ConfigGroup} (version : lhs.version = rhs.version)
    (modPolicy : lhs.modPolicy = rhs.modPolicy)
    (groups : lhs.groups.map Prod.fst = rhs.groups.map Prod.fst)
    (values : lhs.values.map Prod.fst = rhs.values.map Prod.fst)
    (policies : lhs.policies.map Prod.fst = rhs.policies.map Prod.fst) :
    equalConfigGroup lhs rhs = true := by
  simp [equalConfigGroup, version, modPolicy, subsetOfGroups, subsetOfValues, subsetOfPolicies,
    subsetOf_of_keys_eq groups, subsetOf_of_keys_eq groups.symm, subsetOf_of_keys_eq values,
    subsetOf_of_keys_eq values.symm, subsetOf_of_keys_eq policies,
    subsetOf_of_keys_eq policies.symm]

theorem equalConfigValues_self (value : ConfigValue) : equalConfigValues value value = true := by
  simp [equalConfigValues]

theorem equalConfigPolicies_self (policy : ConfigPolicy) : equalConfigPolicies policy policy = true := by
  unfold equalConfigPolicies
  cases policyOk : policy.policy <;> simp

def ConfigGroup.keysOf (group : ConfigGroup) : ElementKind → List String
  | .group => group.groups.map Prod.fst
  | .value => group.values.map Prod.fst
  | .policy => group.policies.map Prod.fst

def ConfigGroup.childAt (group : ConfigGroup) : ElementKind → String → Option ConfigElement
  | .group, key => (group.groups.lookup key).map .group
  | .value, key => (group.values.lookup key).map .value
  | .policy, key => (group.policies.lookup key).map .policy

def ConfigGroup.groupAt (group : ConfigGroup) : List String → Option ConfigGroup
  | [] => some group
  | name :: names => (group.groups.lookup name).bind fun child => child.groupAt names

def ConfigGroup.comparableAt (group : ConfigGroup) (groupPath : List String) (groupKey : String)
    (kind : ElementKind) (path : List String) (key : String) : Option Comparable :=
  if path = groupPath then
    if kind = .group ∧ key = groupKey then some ⟨.group group, key, path⟩ else none
  else if path.take (groupPath.length + 1) = groupPath ++ [groupKey] then
    ((group.groupAt (path.drop (groupPath.length + 1))).bind fun parent =>
      parent.childAt kind key).map fun element => ⟨element, key, path⟩
  else none

def ConfigGroup.groupAtPath (root : ConfigGroup) (rootKey : String) : List String → Option ConfigGroup
  | [] => none
  | first :: names => if first = rootKey then root.groupAt names else none

theorem equalConfigGroup_version {lhs rhs : ConfigGroup} (equal : equalConfigGroup lhs rhs = true) :
    lhs.version = rhs.version := by
  by_contra ne
  simp [equalConfigGroup, ne] at equal

theorem equalConfigPolicies_version {lhs rhs : ConfigPolicy}
    (equal : equalConfigPolicies lhs rhs = true) : lhs.version = rhs.version := by
  by_contra ne
  simp [equalConfigPolicies, ne] at equal

theorem Comparable.version_eq_of_equals {cg other : Comparable} (equal : cg.equals other = true) :
    cg.version = other.version := by
  obtain ⟨element, key, path⟩ := cg
  obtain ⟨element', key', path'⟩ := other
  cases element <;> cases element' <;>
    simp only [Comparable.equals, Comparable.version, Bool.false_eq_true] at equal ⊢
  · exact equalConfigGroup_version equal
  · simp only [equalConfigValues, Bool.and_eq_true, beq_iff_eq] at equal
    exact equal.1.1
  · exact equalConfigPolicies_version equal

theorem keysOf_mem_iff_of_equals {lhs rhs : ConfigGroup} {key key' : String}
    {path path' : List String}
    (equal : (⟨.group lhs, key, path⟩ : Comparable).equals ⟨.group rhs, key', path'⟩ = true)
    (kind : ElementKind) (name : String) : name ∈ lhs.keysOf kind ↔ name ∈ rhs.keysOf kind := by
  simp only [Comparable.equals, equalConfigGroup] at equal
  -- the two failing branches are closed by `split_ifs` itself
  split_ifs at equal with differ subsets
  simp only [Bool.or_eq_true, Bool.not_eq_true', not_or, Bool.not_eq_false] at subsets
  obtain ⟨⟨⟨⟨⟨groups, groups'⟩, policies⟩, policies'⟩, values⟩, values'⟩ := subsets
  cases kind
  · exact ⟨mem_of_subsetOf groups, mem_of_subsetOf groups'⟩
  · exact ⟨mem_of_subsetOf values, mem_of_subsetOf values'⟩
  · exact ⟨mem_of_subsetOf policies, mem_of_subsetOf policies'⟩

theorem groupsKeysDistinct_iff :
    ∀ groups : List (String × ConfigGroup),
      groupsKeysDistinct groups = true ↔ ∀ entry ∈ groups, entry.2.keysDistinct = true
  | [] => by simp [groupsKeysDistinct]
  | (key, group) :: rest => by
      simp [groupsKeysDistinct, groupsKeysDistinct_iff rest]

theorem keysDistinct_iff (group : ConfigGroup) :
    group.keysDistinct = true ↔ (group.groups.map Prod.fst).Nodup ∧ (group.values.map Prod.fst).Nodup ∧
      (group.policies.map Prod.fst).Nodup ∧ ∀ entry ∈ group.groups, entry.2.keysDistinct = true := by
  obtain ⟨version, groups, values, policies, modPolicy⟩ := group
  simp [ConfigGroup.keysDistinct, groupsKeysDistinct_iff, and_assoc]

theorem keysDistinct_groupAt :
    ∀ {group : ConfigGroup} (names : List String) {found : ConfigGroup}, group.keysDistinct = true →
      group.groupAt names = some found → found.keysDistinct = true
  | group, [], found, distinct, located => by
      cases located
      exact distinct
  | group, name :: names, found, distinct, located => by
      simp only [ConfigGroup.groupAt, Option.bind_eq_some_iff] at located
      obtain ⟨child, childOk, below⟩ := located
      have member := List.mem_of_lookup_eq_some childOk
      exact keysDistinct_groupAt names (((keysDistinct_iff group).mp distinct).2.2.2 _ member) below

theorem groupsAll_iff (check : ConfigGroup → Bool) :
    ∀ groups : List (String × ConfigGroup),
      groupsAll check groups = true ↔ ∀ entry ∈ groups, entry.2.all check = true
  | [] => by simp [groupsAll]
  | (key, group) :: rest => by
      simp [groupsAll, groupsAll_iff check rest]

theorem all_iff (check : ConfigGroup → Bool) (group : ConfigGroup) :
    group.all check = true ↔ check group = true ∧ ∀ entry ∈ group.groups, entry.2.all check = true := by
  obtain ⟨version, groups, values, policies, modPolicy⟩ := group
  simp [ConfigGroup.all, groupsAll_iff]

theorem all_groupAt {check : ConfigGroup → Bool} :
    ∀ {group : ConfigGroup} (names : List String) {found : ConfigGroup}, group.all check = true →
      group.groupAt names = some found → found.all check = true
  | group, [], found, every, located => by
      cases located
      exact every
  | group, name :: names, found, every, located => by
      simp only [ConfigGroup.groupAt, Option.bind_eq_some_iff] at located
      obtain ⟨child, childOk, below⟩ := located
      exact all_groupAt names (((all_iff check group).mp every).2 _ (List.mem_of_lookup_eq_some childOk)) below

section Tree

variable (group : ConfigGroup)

theorem childAt_isSome_iff (kind : ElementKind) (key : String) :
    (group.childAt kind key).isSome ↔ key ∈ group.keysOf kind := by
  cases kind <;> simp [ConfigGroup.childAt, ConfigGroup.keysOf]

theorem groupAt_append (names names' : List String) :
    group.groupAt (names ++ names') = (group.groupAt names).bind fun below => below.groupAt names' := by
  induction names generalizing group with
  | nil => simp [ConfigGroup.groupAt]
  | cons name names ih => simp [ConfigGroup.groupAt, ih, Option.bind_assoc]

theorem groupAt_singleton (name : String) :
    group.groupAt [name] = group.groups.lookup name := by
  simp [ConfigGroup.groupAt]

-- The root of a whole config, at path `[]`.

theorem comparableAt_root_cons (rootKey : String) (kind : ElementKind) (first : String)
    (names : List String) (key : String) :
    group.comparableAt [] rootKey kind (first :: names) key =
      ((group.groupAtPath rootKey (first :: names)).bind fun parent => parent.childAt kind key).map
        fun element => ⟨element, key, first :: names⟩ := by
  by_cases firstOk : first = rootKey <;>
    simp [ConfigGroup.comparableAt, ConfigGroup.groupAtPath, firstOk]

theorem comparableAt_root_group (rootKey : String) (path : List String) (key : String) :
    group.comparableAt [] rootKey .group path key =
      (group.groupAtPath rootKey (path ++ [key])).map fun found => ⟨.group found, key, path⟩ := by
  cases path with
  | nil =>
      by_cases keyOk : key = rootKey <;>
        simp [ConfigGroup.comparableAt, ConfigGroup.groupAtPath, ConfigGroup.groupAt, keyOk]
  | cons first names =>
      rw [comparableAt_root_cons, List.cons_append]
      by_cases firstOk : first = rootKey
      · simp only [ConfigGroup.groupAtPath, firstOk, if_true, groupAt_append, groupAt_singleton]
        cases group.groupAt names <;> simp [ConfigGroup.childAt, Function.comp_def]
      · simp [ConfigGroup.groupAtPath, firstOk]

theorem groupAtPath_isSome_of_append (rootKey : String) {names : List String}
    (more : List String) (ne : names ≠ [])
    (isSome : (group.groupAtPath rootKey (names ++ more)).isSome) :
    (group.groupAtPath rootKey names).isSome := by
  obtain ⟨first, rest, rfl⟩ := List.exists_cons_of_ne_nil ne
  by_cases firstOk : first = rootKey
  · simp only [List.cons_append, ConfigGroup.groupAtPath, firstOk, if_true, groupAt_append] at isSome ⊢
    cases restOk : group.groupAt rest <;> simp_all
  · simp [ConfigGroup.groupAtPath, firstOk] at isSome

theorem take_append_getD {path : List String} {i : Nat} (iBound : i < path.length) :
    path.take i ++ [path.getD i ""] = path.take (i + 1) := by
  rw [List.getD_eq_getElem?_getD, List.getElem?_eq_getElem iBound, Option.getD_some,
    List.take_append_getElem iBound]

theorem comparableAt_ancestor (rootKey : String) {kind : ElementKind} {path : List String}
    {key : String} (isSome : (group.comparableAt [] rootKey kind path key).isSome) {i : Nat}
    (iBound : i < path.length) :
    (group.comparableAt [] rootKey .group (path.take i) (path.getD i "")).isSome := by
  obtain ⟨first, names, rfl⟩ :=
    List.exists_cons_of_ne_nil (show path ≠ [] from List.ne_nil_of_length_pos (by omega))
  rw [comparableAt_root_cons] at isSome
  -- the parent group is in the tree, and with it every group above it
  have parentOk : (group.groupAtPath rootKey (first :: names)).isSome := by
    cases pHolds : group.groupAtPath rootKey (first :: names) <;> simp_all
  rw [comparableAt_root_group, take_append_getD iBound, Option.isSome_map]
  apply groupAtPath_isSome_of_append group rootKey ((first :: names).drop (i + 1)) (by simp)
  rwa [List.take_append_drop]

theorem comparableAt_child_isSome (rootKey : String) {path : List String} {key : String}
    {found : ConfigGroup}
    (located : group.comparableAt [] rootKey .group path key = some ⟨.group found, key, path⟩)
    (kind : ElementKind) (child : String) :
    (group.comparableAt [] rootKey kind (path ++ [key]) child).isSome ↔
      child ∈ found.keysOf kind := by
  rw [comparableAt_root_group, Option.map_eq_some_iff] at located
  obtain ⟨found', foundOk, same⟩ := located
  cases same
  obtain ⟨first, names, consEq⟩ := List.exists_cons_of_ne_nil (List.append_ne_nil_of_right_ne_nil
    path (List.cons_ne_nil key []))
  rw [consEq] at foundOk ⊢
  rw [comparableAt_root_cons, foundOk, Option.isSome_map, Option.bind_some, childAt_isSome_iff]

-- A group below the root, at path `groupPath` with key `groupKey`: what lies at each path
-- relative to it.

theorem take_length_succ_append (groupPath : List String) (groupKey : String) (rest : List String) :
    (groupPath ++ groupKey :: rest).take (groupPath.length + 1) = groupPath ++ [groupKey] := by
  induction groupPath with
  | nil => simp
  | cons name names ih => simp [ih]

theorem drop_length_succ_append (groupPath : List String) (groupKey : String) (rest : List String) :
    (groupPath ++ groupKey :: rest).drop (groupPath.length + 1) = rest := by
  induction groupPath with
  | nil => simp
  | cons name names ih => simp [ih]

variable {groupPath : List String} {groupKey : String}

theorem comparableAt_self (kind : ElementKind) (key : String) :
    group.comparableAt groupPath groupKey kind groupPath key =
      if kind = .group ∧ key = groupKey then some ⟨.group group, key, groupPath⟩ else none := by
  simp [ConfigGroup.comparableAt]

theorem comparableAt_direct (kind : ElementKind) (key : String) :
    group.comparableAt groupPath groupKey kind (groupPath ++ [groupKey]) key =
      (group.childAt kind key).map fun element => ⟨element, key, groupPath ++ [groupKey]⟩ := by
  have take := take_length_succ_append groupPath groupKey []
  have drop := drop_length_succ_append groupPath groupKey []
  simp [ConfigGroup.comparableAt, ConfigGroup.groupAt, take, drop]

theorem comparableAt_deep (kind : ElementKind) (name : String) (names : List String)
    (key : String) :
    group.comparableAt groupPath groupKey kind (groupPath ++ groupKey :: name :: names) key =
      (group.groups.lookup name).bind fun child =>
        child.comparableAt (groupPath ++ [groupKey]) name kind (groupPath ++ groupKey :: name :: names)
          key := by
  -- the path runs through the child `name`, whose own path is `groupPath ++ [groupKey]`
  have parentOk : groupPath ++ groupKey :: name :: names ≠ groupPath := by simp
  have childPath : groupPath ++ groupKey :: name :: names ≠ groupPath ++ [groupKey] := by simp
  have take := take_length_succ_append groupPath groupKey (name :: names)
  have drop := drop_length_succ_append groupPath groupKey (name :: names)
  have assoc : groupPath ++ groupKey :: name :: names = (groupPath ++ [groupKey]) ++ name :: names := by
    simp
  have take' := take_length_succ_append (groupPath ++ [groupKey]) name names
  have drop' := drop_length_succ_append (groupPath ++ [groupKey]) name names
  rw [← assoc] at take' drop'
  simp only [List.length_append, List.length_singleton] at take' drop'
  cases childOk : group.groups.lookup name with
  | none => simp [ConfigGroup.comparableAt, ConfigGroup.groupAt, parentOk, take, drop, childOk]
  | some child =>
      simp [ConfigGroup.comparableAt, ConfigGroup.groupAt, parentOk, childPath, take, drop, childOk,
        take', drop']

theorem comparableAt_outside {kind : ElementKind} {path : List String} (key : String)
    (selfOk : path ≠ groupPath)
    (below : path.take (groupPath.length + 1) ≠ groupPath ++ [groupKey]) :
    group.comparableAt groupPath groupKey kind path key = none := by
  simp [ConfigGroup.comparableAt, selfOk, below]

theorem comparableAt_other_child {child : ConfigGroup} {childKey name : String}
    (nameOk : name ≠ childKey) (kind : ElementKind) (names : List String) (key : String) :
    child.comparableAt (groupPath ++ [groupKey]) childKey kind
      (groupPath ++ groupKey :: name :: names) key = none := by
  have assoc : groupPath ++ groupKey :: name :: names = (groupPath ++ [groupKey]) ++ name :: names := by
    simp
  apply comparableAt_outside
  · simp
  · rw [assoc, take_length_succ_append]
    simpa using nameOk

theorem findSome_comparableAt_deep {children : List (String × ConfigGroup)}
    (distinct : (children.map Prod.fst).Nodup) (kind : ElementKind) (name : String)
    (names : List String) (key : String) :
    children.findSome? (fun entry => entry.2.comparableAt (groupPath ++ [groupKey]) entry.1 kind
        (groupPath ++ groupKey :: name :: names) key) =
      (children.lookup name).bind fun child =>
        child.comparableAt (groupPath ++ [groupKey]) name kind (groupPath ++ groupKey :: name :: names)
          key := by
  induction children with
  | nil => rfl
  | cons entry rest ih =>
      obtain ⟨childKey, child⟩ := entry
      rw [List.map_cons, List.nodup_cons] at distinct
      by_cases nameOk : name = childKey
      · subst nameOk
        -- the key is not repeated further on
        have restOk : rest.lookup name = none := by
          rw [List.lookup_eq_none_iff]
          intro entry member
          simp only [bne_iff_ne, ne_eq]
          intro eq
          exact distinct.1 (List.mem_map.mpr ⟨entry, member, eq.symm⟩)
        cases foundOk : child.comparableAt (groupPath ++ [groupKey]) name kind
            (groupPath ++ groupKey :: name :: names) key with
        | none => simp [foundOk, ih distinct.2, restOk]
        | some found => simp [foundOk]
      · have beq : (name == childKey) = false := by simpa using nameOk
        simp [comparableAt_other_child nameOk, ih distinct.2, List.lookup_cons, beq]

theorem findSome_comparableAt_direct (children : List (String × ConfigGroup)) (kind : ElementKind)
    (key : String) :
    children.findSome? (fun entry => entry.2.comparableAt (groupPath ++ [groupKey]) entry.1 kind
        (groupPath ++ [groupKey]) key) =
      if kind = .group then
        (children.lookup key).map fun child => ⟨.group child, key, groupPath ++ [groupKey]⟩
      else none := by
  induction children with
  | nil => by_cases kindOk : kind = .group <;> simp [kindOk]
  | cons entry rest ih =>
      obtain ⟨childKey, child⟩ := entry
      rw [List.findSome?_cons, comparableAt_self, ih]
      by_cases kindOk : kind = .group <;> by_cases keyOk : key = childKey
      · simp [kindOk, keyOk]
      · have beq : (key == childKey) = false := by simpa using keyOk
        simp [kindOk, keyOk, List.lookup_cons, beq]
      · simp [kindOk, keyOk]
      · simp [kindOk, keyOk]

theorem comparableAt_decompose (distinct : (group.groups.map Prod.fst).Nodup) (kind : ElementKind)
    (path : List String) (key : String) (rest : Option Comparable) :
    ((if kind = .policy ∧ path = groupPath ++ [groupKey] then
        (group.policies.lookup key).map fun policy => ⟨.policy policy, key, path⟩ else none).or
      ((if kind = .value ∧ path = groupPath ++ [groupKey] then
          (group.values.lookup key).map fun value => ⟨.value value, key, path⟩ else none).or
        ((group.groups.findSome? fun entry =>
            entry.2.comparableAt (groupPath ++ [groupKey]) entry.1 kind path key).or
          ((if kind = .group ∧ path = groupPath ∧ key = groupKey then
              some ⟨.group group, key, path⟩ else none).or rest)))) =
      (group.comparableAt groupPath groupKey kind path key).or rest := by
  by_cases selfOk : path = groupPath
  · -- the group itself: no child, value or policy has its path
    subst selfOk
    have childrenOk : ∀ entry ∈ group.groups,
        entry.2.comparableAt (path ++ [groupKey]) entry.1 kind path key = none := by
      intro entry _
      apply comparableAt_outside
      · simp
      · intro take
        have length := congrArg List.length take
        simp only [List.length_take, List.length_append, List.length_singleton] at length
        omega
    rw [List.findSome?_eq_none_iff.mpr childrenOk, comparableAt_self]
    by_cases kindOk : kind = .group <;> simp [kindOk]
  by_cases belowOk : path.take (groupPath.length + 1) = groupPath ++ [groupKey]
  · obtain ⟨below, rfl⟩ : ∃ below, path = groupPath ++ groupKey :: below := by
      refine ⟨path.drop (groupPath.length + 1), ?_⟩
      conv_lhs => rw [← List.take_append_drop (groupPath.length + 1) path, belowOk]
      simp
    cases below with
    | nil =>
        -- a child of the group: a child group, a value or a policy
        have direct : groupPath ++ [groupKey] = groupPath ++ groupKey :: [] := rfl
        rw [← direct, findSome_comparableAt_direct, comparableAt_direct]
        cases kind <;> simp [ConfigGroup.childAt, Function.comp_def]
    | cons name names =>
        -- deeper: inside the tree of the child group `name`
        have deeperOk : groupPath ++ groupKey :: name :: names ≠ groupPath ++ [groupKey] := by simp
        rw [findSome_comparableAt_deep distinct, comparableAt_deep]
        simp [deeperOk, selfOk]
  · -- outside the tree of the group
    have childrenOk : ∀ entry ∈ group.groups,
        entry.2.comparableAt (groupPath ++ [groupKey]) entry.1 kind path key = none := by
      intro entry _
      apply comparableAt_outside
      · rintro rfl
        exact belowOk (by rw [List.take_of_length_le (by simp)])
      · intro take
        apply belowOk
        have shorter := congrArg (List.take (groupPath.length + 1)) take
        rw [List.take_take, Nat.min_eq_left (by simp)] at shorter
        rw [shorter, List.append_assoc, List.singleton_append, take_length_succ_append]
    have notDirect : path ≠ groupPath ++ [groupKey] := by
      rintro rfl
      exact belowOk (List.take_of_length_le (by simp))
    rw [List.findSome?_eq_none_iff.mpr childrenOk, comparableAt_outside group key selfOk belowOk]
    simp [notDirect, selfOk]

theorem comparableAt_key_unique {child child' : ConfigGroup} {childKey childKey' : String}
    {kind : ElementKind} {path : List String} {key : String}
    (isSome : child.comparableAt groupPath childKey kind path key ≠ none)
    (isSome' : child'.comparableAt groupPath childKey' kind path key ≠ none) : childKey = childKey' := by
  -- where a child's tree holds something: at the child itself, or below its path
  have whereOk : ∀ (found : ConfigGroup) (foundKey : String),
      found.comparableAt groupPath foundKey kind path key ≠ none →
        (path = groupPath ∧ key = foundKey) ∨
          path.take (groupPath.length + 1) = groupPath ++ [foundKey] := by
    intro found foundKey foundOk
    unfold ConfigGroup.comparableAt at foundOk
    split at foundOk
    · split at foundOk
      · rename_i pathOk selfOk
        exact Or.inl ⟨pathOk, selfOk.2⟩
      · exact absurd rfl foundOk
    · split at foundOk
      · rename_i belowOk
        exact Or.inr belowOk
      · exact absurd rfl foundOk
  have long : ∀ foundKey, path = groupPath →
      path.take (groupPath.length + 1) ≠ groupPath ++ [foundKey] := by
    rintro foundKey rfl take
    have length := congrArg List.length take
    simp at length
  rcases whereOk child childKey isSome with ⟨pathOk, rfl⟩ | take <;>
    rcases whereOk child' childKey' isSome' with ⟨pathOk', rfl⟩ | take'
  · rfl
  · exact absurd take' (long _ pathOk)
  · exact absurd take (long _ pathOk')
  · rw [take] at take'
    exact (List.append_singleton_inj.mp take').2

-- Two trees under one root key: where an element is in one of them only, the nearest group
-- above it that both hold has different keys in the two.

def ConfigGroup.ancestorAt (tree : ConfigGroup) (rootKey : String) (path : List String) (i : Nat) :
    Option Comparable :=
  tree.comparableAt [] rootKey .group (path.take i) (path.getD i "")

theorem comparableAt_root_isSome (tree : ConfigGroup) (rootKey key : String) :
    (tree.comparableAt [] rootKey .group [] key).isSome ↔ key = rootKey := by
  rw [comparableAt_self]
  by_cases keyOk : key = rootKey <;> simp [keyOk]

theorem comparableAt_root_self (tree : ConfigGroup) (rootKey : String) :
    tree.comparableAt [] rootKey .group [] rootKey = some ⟨.group tree, rootKey, []⟩ := by
  simp [comparableAt_self]

theorem comparableAt_root_child (tree : ConfigGroup) (rootKey key : String) :
    tree.comparableAt [] rootKey .group [rootKey] key =
      (tree.groups.lookup key).map fun child => ⟨.group child, key, [rootKey]⟩ := by
  rw [comparableAt_root_group]
  simp [ConfigGroup.groupAtPath, groupAt_singleton]

theorem comparableAt_group_eq_some {tree : ConfigGroup} {rootKey : String} {path : List String}
    {key : String} (isSome : (tree.comparableAt [] rootKey .group path key).isSome) :
    ∃ found, tree.comparableAt [] rootKey .group path key = some ⟨.group found, key, path⟩ := by
  rw [comparableAt_root_group, Option.isSome_map] at isSome
  obtain ⟨found, foundOk⟩ := Option.isSome_iff_exists.mp isSome
  exact ⟨found, by rw [comparableAt_root_group, foundOk, Option.map_some]⟩

theorem nearest_ancestor_of_isSome (tree tree' : ConfigGroup) (rootKey : String)
    {kind : ElementKind} {path : List String} {key : String}
    (inside : (tree.comparableAt [] rootKey kind path key).isSome)
    (out : (tree'.comparableAt [] rootKey kind path key).isSome = false) :
    ∃ i < path.length,
      (∃ found found', tree.ancestorAt rootKey path i = some ⟨.group found, path.getD i "", path.take i⟩ ∧
        tree'.ancestorAt rootKey path i = some ⟨.group found', path.getD i "", path.take i⟩ ∧
        ∃ kind' child, child ∈ found.keysOf kind' ∧ child ∉ found'.keysOf kind') ∧
      ∀ j, i < j → j < path.length →
        ¬((tree.ancestorAt rootKey path j).isSome ∧ (tree'.ancestorAt rootKey path j).isSome) := by
  -- an element at the root path is the root itself, in both trees or in neither
  have ne : path ≠ [] := by
    rintro rfl
    rw [comparableAt_self] at inside out
    split_ifs at inside out <;> simp_all
  have length : 0 < path.length := List.length_pos_of_ne_nil ne
  -- the root is above the element in both trees
  have rootOk : (tree.ancestorAt rootKey path 0).isSome ∧ (tree'.ancestorAt rootKey path 0).isSome := by
    have firstOk := comparableAt_ancestor tree rootKey inside length
    simp only [ConfigGroup.ancestorAt, List.take_zero, comparableAt_root_isSome] at firstOk ⊢
    exact ⟨firstOk, firstOk⟩
  -- the deepest group above the element that both trees hold
  obtain ⟨i, le, ⟨common, common'⟩, max⟩ := @Nat.exists_greatest_of_zero
    (fun j => (tree.ancestorAt rootKey path j).isSome ∧ (tree'.ancestorAt rootKey path j).isSome) _
    (path.length - 1) rootOk
  obtain ⟨found, foundOk⟩ := comparableAt_group_eq_some common
  obtain ⟨found', foundOk'⟩ := comparableAt_group_eq_some common'
  refine ⟨i, by omega, ⟨found, found', foundOk, foundOk', ?_⟩, fun j ij jBound => max j ij (by omega)⟩
  -- what lies right below that group is in `tree` only, as a child of the group
  have splitAt := take_append_getD (show i < path.length by omega)
  by_cases last : i + 1 < path.length
  · have nextOk := comparableAt_ancestor tree rootKey inside last
    have nextOk' : (tree'.comparableAt [] rootKey .group (path.take (i + 1)) (path.getD (i + 1) "")).isSome
        = false := by
      cases isSome : (tree'.comparableAt [] rootKey .group (path.take (i + 1)) (path.getD (i + 1) "")).isSome
      · rfl
      · exact (max (i + 1) (by omega) (by omega) ⟨nextOk, isSome⟩).elim
    rw [← splitAt] at nextOk nextOk'
    refine ⟨.group, path.getD (i + 1) "", (comparableAt_child_isSome tree rootKey foundOk _ _).mp nextOk,
      fun member => ?_⟩
    have isSome := (comparableAt_child_isSome tree' rootKey foundOk' _ _).mpr member
    simp_all
  · rw [List.take_of_length_le (show path.length ≤ i + 1 by omega)] at splitAt
    rw [← splitAt] at inside out
    refine ⟨kind, key, (comparableAt_child_isSome tree rootKey foundOk _ _).mp inside, fun member => ?_⟩
    have isSome := (comparableAt_child_isSome tree' rootKey foundOk' _ _).mpr member
    simp_all

theorem nearest_common_ancestor (tree tree' : ConfigGroup) (rootKey : String)
    {kind : ElementKind} {path : List String} {key : String}
    (differ : (tree.comparableAt [] rootKey kind path key).isSome ≠
      (tree'.comparableAt [] rootKey kind path key).isSome) :
    ∃ i < path.length,
      (∃ found found', tree.ancestorAt rootKey path i = some ⟨.group found, path.getD i "", path.take i⟩ ∧
        tree'.ancestorAt rootKey path i = some ⟨.group found', path.getD i "", path.take i⟩ ∧
        ∃ kind' child, ¬(child ∈ found.keysOf kind' ↔ child ∈ found'.keysOf kind')) ∧
      ∀ j, i < j → j < path.length →
        ¬((tree.ancestorAt rootKey path j).isSome ∧ (tree'.ancestorAt rootKey path j).isSome) := by
  cases inside : (tree.comparableAt [] rootKey kind path key).isSome <;>
    cases inside' : (tree'.comparableAt [] rootKey kind path key).isSome
  · simp [inside, inside'] at differ
  · -- the element is in `tree'` only
    obtain ⟨i, iBound, ⟨found', found, foundOk', foundOk, kind', child, member, negated⟩, max⟩ :=
      nearest_ancestor_of_isSome tree' tree rootKey inside' inside
    exact ⟨i, iBound, ⟨found, found', foundOk, foundOk', kind', child, by tauto⟩,
      fun j ij jBound both => max j ij jBound both.symm⟩
  · -- the element is in `tree` only
    obtain ⟨i, iBound, ⟨found, found', foundOk, foundOk', kind', child, member, negated⟩, max⟩ :=
      nearest_ancestor_of_isSome tree tree' rootKey inside inside'
    exact ⟨i, iBound, ⟨found, found', foundOk, foundOk', kind', child, by tauto⟩, max⟩
  · simp [inside, inside'] at differ

end Tree

end Fabric.Configtx
