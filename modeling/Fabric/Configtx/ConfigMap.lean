import Mathlib.Data.String.Basic
import Fabric.Configtx.Config
import Fabric.Lib.SortedAssoc
import Fabric.Lib.PathString
import Fabric.Lib.Basic

/-! `common/configtx/configmap.go` and the config ID rules of `validator.go`: a config tree
flattened to a map from the path of each element to the element, and rebuilt from such a map.
A map key is the element's path written as a string, a prefix naming its kind followed by its
keys joined by `/`. Config IDs hold no `/`, so the string determines the path. -/

namespace Fabric.Configtx

open SortedAssoc PathString

def groupPrefix : String := "[Group]  "

def valuePrefix : String := "[Value]  "

def policyPrefix : String := "[Policy] "

def pathSeparator : String := "/"

def hackyFixOrdererCapabilities : String := "[Value]  /Channel/Orderer/Capabilities"

def hackyFixNewModPolicy : String := "Admins"

def configAllowedChar (c : Char) : Bool := c.isAlphanum || c == '.' || c == '-'

def maxLength : Nat := 249

/-- `validateConfigID`. Go's `len` counts bytes; the regular expression matches the whole ID
exactly when every character of it is allowed. -/
def validateConfigID (configID : String) : Except String Unit :=
  if configID.utf8ByteSize = 0 then .error "config ID illegal, cannot be empty"
  else if maxLength < configID.utf8ByteSize then
    .error s!"config ID illegal, cannot be longer than {maxLength}"
  else if configID = "." ∨ configID = ".." then
    .error s!"name \x27{configID}\x27 for config ID is not allowed"
  else if !configID.toList.all configAllowedChar then
    .error s!"config ID \x27{configID}\x27 contains illegal characters"
  else .ok ()

def ElementKind.fqPathHead : ElementKind → String
  | .group => groupPrefix
  | .value => valuePrefix
  | .policy => policyPrefix

def configKey (kind : ElementKind) (names : List String) : String :=
  kind.fqPathHead ++ pathSeparator ++ String.intercalate pathSeparator names

structure ConfigMap where
  entries : List (String × Comparable)
  ordered : Ordered entries

def ConfigMap.empty : ConfigMap := ⟨[], ordered_nil⟩

def ConfigMap.find (configMap : ConfigMap) (key : String) : Option Comparable :=
  SortedAssoc.find key configMap.entries

def ConfigMap.insert (configMap : ConfigMap) (key : String) (cg : Comparable) : ConfigMap :=
  ⟨SortedAssoc.insert key cg configMap.entries, insert_ordered configMap.ordered⟩

theorem ConfigMap.find_insert (configMap : ConfigMap) (key key' : String) (cg : Comparable) :
    (configMap.insert key cg).find key' = if key = key' then some cg else configMap.find key' :=
  SortedAssoc.find_insert key key' cg configMap.entries

/-- `addToMap`: the element under the key of its path, once its own key is a valid ID. -/
def addToMap (cg : Comparable) (result : ConfigMap) : Except String ConfigMap :=
  let fqPath := cg.element.kind.fqPathHead
  match validateConfigID cg.key with
  | .error _ => .error s!"Illegal characters in key: {fqPath}"
  | .ok () =>
      let fqPath :=
        if cg.path.isEmpty then fqPath ++ pathSeparator ++ cg.key
        else fqPath ++ pathSeparator ++ String.intercalate pathSeparator cg.path ++ pathSeparator ++ cg.key
      .ok (result.insert fqPath cg)

def addElements (result : ConfigMap) (elements : List Comparable) : Except String ConfigMap :=
  elements.foldlM (fun result cg => addToMap cg result) result

mutual
/-- `recurseConfig` on the group with key `key` below the groups `path` (Go passes
`path ++ [key]` as one slice): the group, the trees of its child groups, its values and its
policies. -/
def recurseConfig (result : ConfigMap) (path : List String) (key : String) :
    ConfigGroup → Except String ConfigMap
  | group@⟨_, groups, values, policies, _⟩ => do
      let result ← addToMap ⟨.group group, key, path⟩ result
      let result ← recurseGroups result (path ++ [key]) groups
      let result ← addElements result (values.map fun entry => ⟨.value entry.2, entry.1, path ++ [key]⟩)
      addElements result (policies.map fun entry => ⟨.policy entry.2, entry.1, path ++ [key]⟩)

def recurseGroups (result : ConfigMap) (path : List String) :
    List (String × ConfigGroup) → Except String ConfigMap
  | [] => .ok result
  | (key, group) :: rest => do
      let result ← recurseConfig result path key group
      recurseGroups result path rest
end

def mapConfig (channelGroup : Option ConfigGroup) (rootGroupKey : String) :
    Except String ConfigMap :=
  match channelGroup with
  | none => .ok ConfigMap.empty
  | some group => recurseConfig ConfigMap.empty [] rootGroupKey group

theorem validateConfigID_clean {configID : String} (valid : validateConfigID configID = .ok ()) :
    '/' ∉ configID.toList := by
  unfold validateConfigID at valid
  split_ifs at valid with emptyEq long dots chars
  intro member
  have allowed := List.all_eq_true.mp (by simpa using chars) '/' member
  exact absurd allowed (by decide)

theorem configKey_injective {kind kind' : ElementKind} {names names' : List String}
    (clean : Clean '/' names) (clean' : Clean '/' names') (ne : names ≠ []) (ne' : names' ≠ [])
    (keyOk : configKey kind names = configKey kind' names') : kind = kind' ∧ names = names' := by
  have length : (kind.fqPathHead ++ String.singleton '/').length =
      (kind'.fqPathHead ++ String.singleton '/').length := by
    cases kind <;> cases kind' <;> decide
  obtain ⟨head, namesOk⟩ := tagged_injective length clean clean' ne ne' keyOk
  refine ⟨?_, namesOk⟩
  cases kind <;> cases kind' <;> first | rfl | exact absurd head (by decide)

theorem find_insert_configKey (result : ConfigMap) {kind kind' : ElementKind}
    {names names' : List String} (cg : Comparable) (clean : Clean '/' names)
    (clean' : Clean '/' names') (ne : names ≠ []) (ne' : names' ≠ []) :
    (result.insert (configKey kind' names') cg).find (configKey kind names) =
      if kind' = kind ∧ names' = names then some cg else result.find (configKey kind names) := by
  rw [ConfigMap.find_insert]
  by_cases same : kind' = kind ∧ names' = names
  · obtain ⟨rfl, rfl⟩ := same
    simp
  · rw [if_neg same, if_neg]
    intro keyOk
    exact same (configKey_injective clean' clean ne' ne keyOk)

theorem addToMap_eq_ok {cg : Comparable} {result result' : ConfigMap}
    (added : addToMap cg result = .ok result') :
    validateConfigID cg.key = .ok () ∧
      result' = result.insert (configKey cg.element.kind (cg.path ++ [cg.key])) cg := by
  unfold addToMap at added
  split at added
  · cases added
  · rename_i valid
    refine ⟨valid, ?_⟩
    cases added
    congr 1
    -- Go writes the key of an element at the root without the joined path
    cases pathOk : cg.path with
    | nil => simp [configKey]
    | cons first rest =>
        rw [configKey, intercalate_append_singleton pathSeparator (List.cons_ne_nil first rest)]
        simp [String.append_assoc]

theorem addElements_find {α : Type} {wrap : α → ConfigElement} {kind₀ : ElementKind}
    (wrapOk : ∀ a, (wrap a).kind = kind₀) {path : List String} (pathOk : Clean '/' path) :
    ∀ {entries : List (String × α)} {result result' : ConfigMap},
      (entries.map Prod.fst).Nodup →
      addElements result (entries.map fun entry => ⟨wrap entry.2, entry.1, path⟩) = .ok result' →
      ∀ (kind : ElementKind) (path' : List String) (key : String), Clean '/' (path' ++ [key]) →
        result'.find (configKey kind (path' ++ [key])) =
          (if kind = kind₀ ∧ path' = path then
              (entries.lookup key).map fun a => ⟨wrap a, key, path'⟩ else none).or
            (result.find (configKey kind (path' ++ [key])))
  | [], result, result', _, added, kind, path', key, _ => by
      cases added
      by_cases here : kind = kind₀ ∧ path' = path <;> simp [here]
  | (first, a) :: rest, result, result', distinct, added, kind, path', key, clean => by
      rw [List.map_cons, List.nodup_cons] at distinct
      simp only [addElements, List.map_cons, List.foldlM_cons] at added
      obtain ⟨result₁, firstOk, restOk⟩ := Except.bind_eq_ok_iff.mp added
      obtain ⟨valid, rfl⟩ := addToMap_eq_ok firstOk
      have cleanFirst : Clean '/' (path ++ [first]) :=
        pathOk.append (by simpa [Clean] using validateConfigID_clean valid)
      rw [addElements_find wrapOk pathOk distinct.2 restOk kind path' key clean, wrapOk,
        find_insert_configKey _ _ clean cleanFirst (by simp) (by simp)]
      by_cases here : kind = kind₀ ∧ path' = path
      · obtain ⟨rfl, rfl⟩ := here
        by_cases keyOk : key = first
        · subst keyOk
          -- the key does not come again in the rest
          have noneEq : rest.lookup key = none := by
            rw [List.lookup_eq_none_iff]
            intro entry member
            simp only [bne_iff_ne, ne_eq]
            intro eq
            exact distinct.1 (List.mem_map.mpr ⟨entry, member, eq.symm⟩)
          simp [noneEq]
        · have beq : (key == first) = false := by simpa using keyOk
          simp [Ne.symm keyOk, List.lookup_cons, beq]
      · -- the element inserted first has another path
        simp only [here, if_false, Option.none_or, List.append_singleton_inj]
        split_ifs with same
        · exact absurd ⟨same.1.symm, same.2.1.symm⟩ here
        · rfl

theorem keysDistinct_mk {version : UInt64} {groups : List (String × ConfigGroup)}
    {values : List (String × ConfigValue)} {policies : List (String × ConfigPolicy)}
    {modPolicy : String}
    (distinct : ConfigGroup.keysDistinct ⟨version, groups, values, policies, modPolicy⟩ = true) :
    (groups.map Prod.fst).Nodup ∧ (values.map Prod.fst).Nodup ∧ (policies.map Prod.fst).Nodup ∧
      groupsKeysDistinct groups = true := by
  simpa [ConfigGroup.keysDistinct, and_assoc] using distinct

mutual
theorem recurseConfig_find : ∀ (group : ConfigGroup) {result result' : ConfigMap}
    {path : List String} {key : String},
    recurseConfig result path key group = .ok result' → Clean '/' path → group.keysDistinct = true →
      '/' ∉ key.toList ∧ ∀ (kind : ElementKind) (path' : List String) (key' : String),
        Clean '/' (path' ++ [key']) →
          result'.find (configKey kind (path' ++ [key'])) =
            (group.comparableAt path key kind path' key').or
              (result.find (configKey kind (path' ++ [key'])))
  | ⟨version, groups, values, policies, modPolicy⟩, result, result', path, key, ran, pathOk,
      distinct => by
      obtain ⟨groupsDistinct, valuesDistinct, policiesDistinct, belowDistinct⟩ :=
        keysDistinct_mk distinct
      rw [recurseConfig] at ran
      obtain ⟨withSelf, selfOk, ran⟩ := Except.bind_eq_ok_iff.mp ran
      obtain ⟨withGroups, groupsOk, ran⟩ := Except.bind_eq_ok_iff.mp ran
      obtain ⟨withValues, valuesOk, policiesOk⟩ := Except.bind_eq_ok_iff.mp ran
      obtain ⟨valid, withSelfOk⟩ := addToMap_eq_ok selfOk
      have keyClean : '/' ∉ key.toList := validateConfigID_clean valid
      have groupPath : Clean '/' (path ++ [key]) := pathOk.append (by simpa [Clean] using keyClean)
      -- the group itself, under the key of its own path
      have selfFind : ∀ (kind : ElementKind) (path' : List String) (key' : String),
          Clean '/' (path' ++ [key']) →
            withSelf.find (configKey kind (path' ++ [key'])) =
              (if kind = .group ∧ path' = path ∧ key' = key then
                some ⟨.group ⟨version, groups, values, policies, modPolicy⟩, key', path'⟩ else none).or
                (result.find (configKey kind (path' ++ [key']))) := by
        intro kind path' key' clean
        rw [withSelfOk, find_insert_configKey _ _ clean groupPath (by simp) (by simp)]
        by_cases here : kind = .group ∧ path' = path ∧ key' = key
        · obtain ⟨rfl, rfl, rfl⟩ := here
          simp [ConfigElement.kind]
        · rw [if_neg here, if_neg]
          · simp
          rintro ⟨kindOk, same⟩
          obtain ⟨pathOk', keyOk'⟩ := List.append_singleton_inj.mp same
          exact here ⟨kindOk.symm, pathOk'.symm, keyOk'.symm⟩
      have below := recurseGroups_find groups groupsOk groupPath belowDistinct groupsDistinct
      refine ⟨keyClean, fun kind path' key' clean => ?_⟩
      -- the four parts `recurseConfig` inserts, in the order it inserts them
      rw [addElements_find (fun _ => rfl : ∀ policy, (ConfigElement.policy policy).kind = .policy)
          groupPath policiesDistinct policiesOk kind path' key' clean,
        addElements_find (fun _ => rfl : ∀ value, (ConfigElement.value value).kind = .value)
          groupPath valuesDistinct valuesOk kind path' key' clean,
        below kind path' key' clean, selfFind kind path' key' clean,
        ← comparableAt_decompose _ groupsDistinct kind path' key']

theorem recurseGroups_find : ∀ (children : List (String × ConfigGroup)) {result result' : ConfigMap}
    {path : List String},
    recurseGroups result path children = .ok result' → Clean '/' path →
      groupsKeysDistinct children = true → (children.map Prod.fst).Nodup →
      ∀ (kind : ElementKind) (path' : List String) (key' : String), Clean '/' (path' ++ [key']) →
        result'.find (configKey kind (path' ++ [key'])) =
          (children.findSome? fun entry => entry.2.comparableAt path entry.1 kind path' key').or
            (result.find (configKey kind (path' ++ [key'])))
  | [], result, result', path, ran, _, _, _ => by
      cases ran
      simp
  | (childKey, child) :: rest, result, result', path, ran, pathOk, distinct, nodup => by
      rw [List.map_cons, List.nodup_cons] at nodup
      simp only [groupsKeysDistinct, Bool.and_eq_true] at distinct
      rw [recurseGroups] at ran
      obtain ⟨withChild, childOk, restOk⟩ := Except.bind_eq_ok_iff.mp ran
      have childFind := (recurseConfig_find child childOk pathOk distinct.1).2
      have restFind := recurseGroups_find rest restOk pathOk distinct.2 nodup.2
      intro kind path' key' clean
      rw [restFind kind path' key' clean, childFind kind path' key' clean]
      cases foundOk : child.comparableAt path childKey kind path' key' with
      | none => simp [foundOk]
      | some found =>
          -- a path in the tree of this child lies in the tree of no other child
          have restNone : rest.findSome? (fun entry => entry.2.comparableAt path entry.1 kind path' key') =
              none := by
            rw [List.findSome?_eq_none_iff]
            intro entry member
            by_contra otherOk
            have same := comparableAt_key_unique
              (show child.comparableAt path childKey kind path' key' ≠ none by simp [foundOk]) otherOk
            exact nodup.1 (List.mem_map.mpr ⟨entry, member, same.symm⟩)
          simp [foundOk, restNone]
end

theorem addElements_clean {α : Type} {wrap : α → ConfigElement} {path : List String} :
    ∀ {entries : List (String × α)} {result result' : ConfigMap},
      addElements result (entries.map fun entry => ⟨wrap entry.2, entry.1, path⟩) = .ok result' →
        ∀ key ∈ entries.map Prod.fst, '/' ∉ key.toList
  | [], _, _, _ => by simp
  | (first, a) :: rest, result, result', added => by
      simp only [addElements, List.map_cons, List.foldlM_cons] at added
      obtain ⟨result₁, firstOk, restOk⟩ := Except.bind_eq_ok_iff.mp added
      intro key keyOk
      rcases List.mem_cons.mp keyOk with rfl | member
      · exact validateConfigID_clean (addToMap_eq_ok firstOk).1
      · exact addElements_clean restOk key member

mutual
theorem recurseConfig_clean : ∀ (group : ConfigGroup) {result result' : ConfigMap}
    {path : List String} {key : String},
    recurseConfig result path key group = .ok result' → Clean '/' path → group.keysDistinct = true →
      ∀ (kind : ElementKind) (path' : List String) (key' : String),
        (group.comparableAt path key kind path' key').isSome → Clean '/' (path' ++ [key'])
  | ⟨version, groups, values, policies, modPolicy⟩, result, result', path, key, ran, pathOk,
      distinct => by
      obtain ⟨groupsDistinct, -, -, belowDistinct⟩ := keysDistinct_mk distinct
      rw [recurseConfig] at ran
      obtain ⟨withSelf, selfOk, ran⟩ := Except.bind_eq_ok_iff.mp ran
      obtain ⟨withGroups, groupsOk, ran⟩ := Except.bind_eq_ok_iff.mp ran
      obtain ⟨withValues, valuesOk, policiesOk⟩ := Except.bind_eq_ok_iff.mp ran
      have keyClean : '/' ∉ key.toList := validateConfigID_clean (addToMap_eq_ok selfOk).1
      have groupPath : Clean '/' (path ++ [key]) := pathOk.append (by simpa [Clean] using keyClean)
      intro kind path' key' isSome
      -- the element is a policy, a value, in the tree of a child group, or the group itself
      have parts := @comparableAt_decompose ⟨version, groups, values, policies, modPolicy⟩ path key
        groupsDistinct kind path' key' none
      simp only [Option.or_none] at parts
      rw [← parts] at isSome
      simp only [Option.isSome_or, Bool.or_eq_true] at isSome
      rcases isSome with policyOk | valueOk | childOk | hitself
      · split_ifs at policyOk with here
        · obtain ⟨-, rfl⟩ := here
          rw [Option.isSome_map, List.lookup_isSome_iff] at policyOk
          obtain ⟨entry, entryOk, beq⟩ := policyOk
          have member : key' ∈ policies.map Prod.fst :=
            List.mem_map.mpr ⟨entry, entryOk, (beq_iff_eq.mp beq).symm⟩
          exact groupPath.append (by simpa [Clean] using addElements_clean policiesOk key' member)
        · cases policyOk
      · split_ifs at valueOk with here
        · obtain ⟨-, rfl⟩ := here
          rw [Option.isSome_map, List.lookup_isSome_iff] at valueOk
          obtain ⟨entry, entryOk, beq⟩ := valueOk
          have member : key' ∈ values.map Prod.fst :=
            List.mem_map.mpr ⟨entry, entryOk, (beq_iff_eq.mp beq).symm⟩
          exact groupPath.append (by simpa [Clean] using addElements_clean valuesOk key' member)
        · cases valueOk
      · exact recurseGroups_clean groups groupsOk groupPath belowDistinct kind path' key' childOk
      · split_ifs at hitself with here
        · obtain ⟨-, rfl, rfl⟩ := here
          exact groupPath
        · cases hitself

theorem recurseGroups_clean : ∀ (children : List (String × ConfigGroup)) {result result' : ConfigMap}
    {path : List String},
    recurseGroups result path children = .ok result' → Clean '/' path →
      groupsKeysDistinct children = true →
      ∀ (kind : ElementKind) (path' : List String) (key' : String),
        (children.findSome? fun entry => entry.2.comparableAt path entry.1 kind path' key').isSome →
          Clean '/' (path' ++ [key'])
  | [], _, _, _, _, _, _ => by simp
  | (childKey, child) :: rest, result, result', path, ran, pathOk, distinct => by
      simp only [groupsKeysDistinct, Bool.and_eq_true] at distinct
      rw [recurseGroups] at ran
      obtain ⟨withChild, childOk, restOk⟩ := Except.bind_eq_ok_iff.mp ran
      intro kind path' key' isSome
      cases foundOk : child.comparableAt path childKey kind path' key' with
      | none =>
          simp only [List.findSome?_cons, foundOk] at isSome
          exact recurseGroups_clean rest restOk pathOk distinct.2 kind path' key' isSome
      | some found =>
          exact recurseConfig_clean child childOk pathOk distinct.1 kind path' key' (by simp [foundOk])
end

theorem mapConfig_find {root : ConfigGroup} {rootKey : String} {configMap : ConfigMap}
    (mapped : mapConfig (some root) rootKey = .ok configMap) (distinct : root.keysDistinct = true)
    (kind : ElementKind) (path : List String) (key : String) (clean : Clean '/' (path ++ [key])) :
    configMap.find (configKey kind (path ++ [key])) = root.comparableAt [] rootKey kind path key := by
  have findEq := (recurseConfig_find root mapped (by simp [Clean]) distinct).2 kind path key clean
  simpa [ConfigMap.empty, ConfigMap.find] using findEq

theorem mapConfig_clean {root : ConfigGroup} {rootKey : String} {configMap : ConfigMap}
    (mapped : mapConfig (some root) rootKey = .ok configMap) (distinct : root.keysDistinct = true)
    {kind : ElementKind} {path : List String} {key : String}
    (isSome : (root.comparableAt [] rootKey kind path key).isSome) : Clean '/' (path ++ [key]) :=
  recurseConfig_clean root mapped (by simp [Clean]) distinct kind path key isSome

def pathString (path : List String) : String := pathSeparator ++ String.intercalate pathSeparator path

def upgradeModPolicy (hack : Bool) (modPolicy : String) : String :=
  if hack && modPolicy == "" then hackyFixNewModPolicy else modPolicy

def ConfigValue.upgradeModPolicy (hack : Bool) (value : ConfigValue) : ConfigValue :=
  { value with modPolicy := Configtx.upgradeModPolicy hack value.modPolicy }

def ConfigPolicy.upgradeModPolicy (hack : Bool) (policy : ConfigPolicy) : ConfigPolicy :=
  { policy with modPolicy := Configtx.upgradeModPolicy hack policy.modPolicy }

def lookupValue (configMap : ConfigMap) (path : List String) (key : String) :
    Except String ConfigValue :=
  let valuePath := valuePrefix ++ pathString path ++ pathSeparator ++ key
  match configMap.find valuePath with
  | none => .error s!"Missing value at path: {valuePath}"
  | some cg =>
      match cg.element with
      | .value value => .ok value
      | _ => .error s!"ConfigValue not found at value path: {valuePath}"

def lookupPolicy (configMap : ConfigMap) (path : List String) (key : String) :
    Except String ConfigPolicy :=
  let policyPath := policyPrefix ++ pathString path ++ pathSeparator ++ key
  match configMap.find policyPath with
  | none => .error s!"Missing policy at path: {policyPath}"
  | some cg =>
      match cg.element with
      | .policy policy => .ok policy
      | _ => .error s!"ConfigPolicy not found at policy path: {policyPath}"

def lookupGroup (configMap : ConfigMap) (path : List String) : Except String ConfigGroup :=
  let groupPath := groupPrefix ++ pathString path
  match configMap.find groupPath with
  | none => .error s!"Missing group at path: {groupPath}"
  | some cg =>
      match cg.element with
      | .group group => .ok group
      | _ => .error s!"ConfigGroup not found at group path: {groupPath}"

/-- `recurseConfigMap` on the group at `path` (its path followed by its key), each child group,
value and policy taken from the map at its own path, and the mod policies upgraded when the
orderer capabilities are in the map. `fuel` bounds the depth; `configMapToConfig` gives enough. -/
def recurseConfigMap (configMap : ConfigMap) : Nat → List String → Except String ConfigGroup
  | 0, _ => .error "recursion depth exceeded"
  | fuel + 1, path => do
      let group ← lookupGroup configMap path
      let groups ← group.groups.mapM fun entry => do
        let updatedGroup ← recurseConfigMap configMap fuel (path ++ [entry.1])
        return (entry.1, updatedGroup)
      let values ← group.values.mapM fun entry => do
        let value ← lookupValue configMap path entry.1
        return (entry.1, value)
      let policies ← group.policies.mapM fun entry => do
        let policy ← lookupPolicy configMap path entry.1
        return (entry.1, policy)
      -- the upgrade of channels built by v1.0 with unset mod policies, done only when the orderer
      -- capabilities are in the map; without them `upgradeModPolicy` changes nothing
      let hack := (configMap.find hackyFixOrdererCapabilities).isSome
      return ⟨group.version, groups,
        values.map fun entry => (entry.1, entry.2.upgradeModPolicy hack),
        policies.map fun entry => (entry.1, entry.2.upgradeModPolicy hack),
        upgradeModPolicy hack group.modPolicy⟩

def configMapToConfig (configMap : ConfigMap) (rootGroupKey : String) : Except String ConfigGroup :=
  recurseConfigMap configMap (configMap.entries.length + 1) [rootGroupKey]

def ConfigElement.upgradeModPolicy (hack : Bool) : ConfigElement → ConfigElement
  | .group inner => .group { inner with modPolicy := Configtx.upgradeModPolicy hack inner.modPolicy }
  | .value inner => .value (inner.upgradeModPolicy hack)
  | .policy inner => .policy (inner.upgradeModPolicy hack)

def Comparable.upgradeModPolicy (hack : Bool) (cg : Comparable) : Comparable :=
  { cg with element := cg.element.upgradeModPolicy hack }

theorem upgradeModPolicy_false (modPolicy : String) : upgradeModPolicy false modPolicy = modPolicy := by
  simp [upgradeModPolicy]

theorem Comparable.version_upgradeModPolicy (hack : Bool) (cg : Comparable) :
    (cg.upgradeModPolicy hack).version = cg.version := by
  obtain ⟨element, key, path⟩ := cg
  cases element <;> rfl

theorem equals_upgradeModPolicy_of_keysOf {found found' : ConfigGroup} {key key' : String}
    {path path' : List String} (hack : Bool) {kind : ElementKind} {child : String}
    (keysOk : ¬(child ∈ found.keysOf kind ↔ child ∈ found'.keysOf kind)) :
    (⟨.group found', key', path'⟩ : Comparable).equals
      ((⟨.group found, key, path⟩ : Comparable).upgradeModPolicy hack) = false := by
  cases equal : (⟨.group found', key', path'⟩ : Comparable).equals
      ((⟨.group found, key, path⟩ : Comparable).upgradeModPolicy hack)
  · rfl
  · -- the upgrade touches the mod policy only, so the keys would agree
    have same := keysOf_mem_iff_of_equals equal kind child
    cases kind <;> exact absurd same.symm keysOk

theorem groupPath_eq (path : List String) : groupPrefix ++ pathString path = configKey .group path := by
  simp [configKey, pathString, ElementKind.fqPathHead, String.append_assoc]

theorem elementPath_eq {path : List String} (ne : path ≠ []) (kind : ElementKind) (key : String) :
    kind.fqPathHead ++ pathString path ++ pathSeparator ++ key = configKey kind (path ++ [key]) := by
  rw [configKey, intercalate_append_singleton pathSeparator ne]
  simp [pathString, String.append_assoc]

theorem lookupGroup_eq_ok {configMap : ConfigMap} {path : List String} {group : ConfigGroup}
    (lookedUp : lookupGroup configMap path = .ok group) :
    ∃ cg, configMap.find (configKey .group path) = some cg ∧ cg.element = .group group := by
  unfold lookupGroup at lookedUp
  rw [groupPath_eq] at lookedUp
  dsimp only at lookedUp
  split at lookedUp
  · cases lookedUp
  · rename_i cg findEq
    split at lookedUp
    · cases lookedUp
      exact ⟨cg, findEq, by assumption⟩
    · cases lookedUp

theorem lookupValue_eq_ok {configMap : ConfigMap} {path : List String} (ne : path ≠ [])
    {key : String} {value : ConfigValue} (lookedUp : lookupValue configMap path key = .ok value) :
    ∃ cg, configMap.find (configKey .value (path ++ [key])) = some cg ∧ cg.element = .value value := by
  unfold lookupValue at lookedUp
  rw [show valuePrefix = ElementKind.value.fqPathHead from rfl, elementPath_eq ne] at lookedUp
  dsimp only at lookedUp
  split at lookedUp
  · cases lookedUp
  · rename_i cg findEq
    split at lookedUp
    · cases lookedUp
      exact ⟨cg, findEq, by assumption⟩
    · cases lookedUp

theorem lookupPolicy_eq_ok {configMap : ConfigMap} {path : List String} (ne : path ≠ [])
    {key : String} {policy : ConfigPolicy} (lookedUp : lookupPolicy configMap path key = .ok policy) :
    ∃ cg, configMap.find (configKey .policy (path ++ [key])) = some cg ∧ cg.element = .policy policy := by
  unfold lookupPolicy at lookedUp
  rw [show policyPrefix = ElementKind.policy.fqPathHead from rfl, elementPath_eq ne] at lookedUp
  dsimp only at lookedUp
  split at lookedUp
  · cases lookedUp
  · rename_i cg findEq
    split at lookedUp
    · cases lookedUp
      exact ⟨cg, findEq, by assumption⟩
    · cases lookedUp

-- The lookups succeed on an entry of the right kind.

theorem lookupGroup_of_find {configMap : ConfigMap} {path : List String} {cg : Comparable}
    {group : ConfigGroup} (findEq : configMap.find (configKey .group path) = some cg)
    (element : cg.element = .group group) : lookupGroup configMap path = .ok group := by
  unfold lookupGroup
  rw [groupPath_eq]
  simp [findEq, element]

theorem lookupValue_of_find {configMap : ConfigMap} {path : List String} (ne : path ≠ []) {key : String}
    {cg : Comparable} {value : ConfigValue} (findEq : configMap.find (configKey .value (path ++ [key])) = some cg)
    (element : cg.element = .value value) : lookupValue configMap path key = .ok value := by
  unfold lookupValue
  rw [show valuePrefix = ElementKind.value.fqPathHead from rfl, elementPath_eq ne]
  simp [findEq, element]

theorem lookupPolicy_of_find {configMap : ConfigMap} {path : List String} (ne : path ≠ []) {key : String}
    {cg : Comparable} {policy : ConfigPolicy} (findEq : configMap.find (configKey .policy (path ++ [key])) = some cg)
    (element : cg.element = .policy policy) : lookupPolicy configMap path key = .ok policy := by
  unfold lookupPolicy
  rw [show policyPrefix = ElementKind.policy.fqPathHead from rfl, elementPath_eq ne]
  simp [findEq, element]

section Rebuild

variable (configMap : ConfigMap)

def ConfigMap.upgradeHack : Bool := (configMap.find hackyFixOrdererCapabilities).isSome

theorem recurseConfigMap_succ_eq_ok {fuel : Nat} {path : List String} {group : ConfigGroup}
    (ran : recurseConfigMap configMap (fuel + 1) path = .ok group) :
    ∃ (found : ConfigGroup) (groups : List (String × ConfigGroup))
      (values : List (String × ConfigValue)) (policies : List (String × ConfigPolicy)),
      lookupGroup configMap path = .ok found ∧
      groups.map Prod.fst = found.groups.map Prod.fst ∧
      (∀ entry ∈ groups, recurseConfigMap configMap fuel (path ++ [entry.1]) = .ok entry.2) ∧
      values.map Prod.fst = found.values.map Prod.fst ∧
      (∀ entry ∈ values, lookupValue configMap path entry.1 = .ok entry.2) ∧
      policies.map Prod.fst = found.policies.map Prod.fst ∧
      (∀ entry ∈ policies, lookupPolicy configMap path entry.1 = .ok entry.2) ∧
      group = ⟨found.version, groups,
        values.map fun entry => (entry.1, entry.2.upgradeModPolicy configMap.upgradeHack),
        policies.map fun entry => (entry.1, entry.2.upgradeModPolicy configMap.upgradeHack),
        upgradeModPolicy configMap.upgradeHack found.modPolicy⟩ := by
  rw [recurseConfigMap] at ran
  obtain ⟨found, foundOk, ran⟩ := Except.bind_eq_ok_iff.mp ran
  obtain ⟨groups, groupsOk, ran⟩ := Except.bind_eq_ok_iff.mp ran
  obtain ⟨values, valuesOk, ran⟩ := Except.bind_eq_ok_iff.mp ran
  obtain ⟨policies, policiesOk, ran⟩ := Except.bind_eq_ok_iff.mp ran
  obtain ⟨groupKeys, groupsRebuilt⟩ :=
    @Except.mapM_keyed_eq_ok String ConfigGroup String ConfigGroup
      (fun key => recurseConfigMap configMap fuel (path ++ [key])) found.groups groups groupsOk
  obtain ⟨valueKeys, valuesFound⟩ := Except.mapM_keyed_eq_ok valuesOk
  obtain ⟨policyKeys, policiesFound⟩ := Except.mapM_keyed_eq_ok policiesOk
  exact ⟨found, groups, values, policies, foundOk, groupKeys, groupsRebuilt, valueKeys,
    valuesFound, policyKeys, policiesFound, (Except.pure_eq_ok_iff.mp ran).symm⟩

theorem recurseConfigMap_rebuilds :
    ∀ (fuel : Nat) {path : List String} {group : ConfigGroup}, path ≠ [] →
      recurseConfigMap configMap fuel path = .ok group →
        (∃ cg, configMap.find (configKey .group path) = some cg ∧
          ({ cg with element := .group group } : Comparable).equals
            (cg.upgradeModPolicy configMap.upgradeHack) = true) ∧
        ∀ (names : List String) (kind : ElementKind) (key : String) (element : ConfigElement),
          ((group.groupAt names).bind fun parent => parent.childAt kind key) = some element →
            ∃ cg, configMap.find (configKey kind (path ++ names ++ [key])) = some cg ∧
              ({ cg with element := element } : Comparable).equals
                (cg.upgradeModPolicy configMap.upgradeHack) = true
  | 0, _, _, _, ran => by cases ran
  | fuel + 1, path, group, ne, ran => by
      obtain ⟨found, groups, values, policies, foundOk, groupKeys, groupsRebuilt, valueKeys,
        valuesFound, policyKeys, policiesFound, rfl⟩ := recurseConfigMap_succ_eq_ok configMap ran
      obtain ⟨cg, cgOk, elementOk⟩ := lookupGroup_eq_ok foundOk
      -- a child group rebuilt one level down is its entry of the map
      have childGroup : ∀ key child, groups.lookup key = some child →
          recurseConfigMap configMap fuel (path ++ [key]) = .ok child := by
        intro key child lookedUp
        exact groupsRebuilt (key, child) (List.mem_of_lookup_eq_some lookedUp)
      refine ⟨⟨cg, cgOk, ?_⟩, ?_⟩
      · -- the group itself: its version, mod policy and keys are those of the map's group
        simp only [Comparable.upgradeModPolicy, elementOk, ConfigElement.upgradeModPolicy,
          Comparable.equals]
        apply equalConfigGroup_of_keys_eq
        · rfl
        · rfl
        · exact groupKeys
        · rw [List.map_fst_map_snd, valueKeys]
        · rw [List.map_fst_map_snd, policyKeys]
      · intro names kind key element located
        cases names with
        | nil =>
            simp only [ConfigGroup.groupAt, Option.bind_some] at located
            cases kind with
            | group =>
                simp only [ConfigGroup.childAt, Option.map_eq_some_iff] at located
                obtain ⟨child, lookedUp, rfl⟩ := located
                simpa using
                  (recurseConfigMap_rebuilds fuel (by simp) (childGroup key child lookedUp)).1
            | value =>
                simp only [ConfigGroup.childAt, List.lookup_map_snd, Option.map_map,
                  Option.map_eq_some_iff] at located
                obtain ⟨value, lookedUp, rfl⟩ := located
                obtain ⟨valueCg, valueCgOk, valueElement⟩ :=
                  lookupValue_eq_ok ne (valuesFound (key, value) (List.mem_of_lookup_eq_some lookedUp))
                refine ⟨valueCg, by simpa using valueCgOk, ?_⟩
                simp [valueElement, Comparable.upgradeModPolicy, ConfigElement.upgradeModPolicy,
                  Comparable.equals, equalConfigValues_self]
            | policy =>
                simp only [ConfigGroup.childAt, List.lookup_map_snd, Option.map_map,
                  Option.map_eq_some_iff] at located
                obtain ⟨policy, lookedUp, rfl⟩ := located
                obtain ⟨policyCg, policyCgOk, policyElement⟩ :=
                  lookupPolicy_eq_ok ne (policiesFound (key, policy) (List.mem_of_lookup_eq_some lookedUp))
                refine ⟨policyCg, by simpa using policyCgOk, ?_⟩
                simp [policyElement, Comparable.upgradeModPolicy, ConfigElement.upgradeModPolicy,
                  Comparable.equals, equalConfigPolicies_self]
        | cons name names =>
            -- below the child group `name`, rebuilt one level down
            simp only [ConfigGroup.groupAt, Option.bind_assoc] at located
            cases lookedUp : groups.lookup name with
            | none => simp [lookedUp] at located
            | some child =>
                rw [lookedUp, Option.bind_some] at located
                obtain ⟨cgBelow, findEq, equal⟩ :=
                  (recurseConfigMap_rebuilds fuel (by simp) (childGroup name child lookedUp)).2
                    names kind key element located
                exact ⟨cgBelow, by simpa using findEq, equal⟩

theorem configMapToConfig_comparableAt {rootKey : String} {tree : ConfigGroup}
    (ran : configMapToConfig configMap rootKey = .ok tree) {kind : ElementKind} {path : List String}
    {key : String} {element : Comparable} (located : tree.comparableAt [] rootKey kind path key = some element) :
    ∃ cg, configMap.find (configKey kind (path ++ [key])) = some cg ∧
      element.equals (cg.upgradeModPolicy configMap.upgradeHack) = true := by
  have rebuiltOk := recurseConfigMap_rebuilds configMap _ (List.cons_ne_nil rootKey []) ran
  cases path with
  | nil =>
      -- the root, rebuilt from the map's entry at the root key
      rw [comparableAt_self] at located
      split_ifs at located with rootOk
      obtain ⟨rfl, rfl⟩ := rootOk
      cases located
      exact rebuiltOk.1
  | cons first names =>
      rw [comparableAt_root_cons, Option.map_eq_some_iff] at located
      obtain ⟨inner, innerOk, rfl⟩ := located
      simp only [ConfigGroup.groupAtPath] at innerOk
      split_ifs at innerOk with firstOk
      · subst firstOk
        obtain ⟨cg, findEq, equal⟩ := rebuiltOk.2 names kind key inner innerOk
        exact ⟨cg, by simpa using findEq, equal⟩
      · simp at innerOk

-- The Go recursion has no bound: it stops because every group below `path` has a longer key.
-- The count of entries with keys at least as long bounds the depth, so the fuel of
-- `configMapToConfig` never runs out.

def ConfigMap.groupsBelow (path : List String) : Nat :=
  (configMap.entries.filter fun entry => (configKey .group path).length ≤ entry.1.length).length

theorem configKey_length_append {path : List String} (ne : path ≠ []) (kind : ElementKind)
    (key : String) : (configKey kind (path ++ [key])).length = (configKey kind path).length + 1 + key.length := by
  rw [configKey, configKey, intercalate_append_singleton pathSeparator ne]
  simp only [String.length_append]
  have separator : pathSeparator.length = 1 := by decide
  omega

theorem groupsBelow_le : configMap.groupsBelow path ≤ configMap.entries.length :=
  List.length_filter_le _ _

theorem groupsBelow_append_lt {path : List String} (ne : path ≠ []) (key : String) {cg : Comparable}
    (findEq : configMap.find (configKey .group path) = some cg) :
    configMap.groupsBelow (path ++ [key]) < configMap.groupsBelow path := by
  have length := configKey_length_append ne .group key
  have sub : (configMap.entries.filter fun entry =>
        (configKey .group (path ++ [key])).length ≤ entry.1.length).Sublist
      (configMap.entries.filter fun entry => (configKey .group path).length ≤ entry.1.length) :=
    List.monotone_filter_right _ fun entry entryOk => by simp only [decide_eq_true_eq] at entryOk ⊢; omega
  have member : (configKey .group path, cg) ∈ configMap.entries := mem_of_find_eq_some findEq
  apply lt_of_le_of_ne sub.length_le
  intro count
  have parentOk : (configKey .group path, cg) ∈
      configMap.entries.filter fun entry => (configKey .group path).length ≤ entry.1.length := by
    simp [member]
  rw [← sub.eq_of_length count] at parentOk
  simp only [List.mem_filter, decide_eq_true_eq] at parentOk
  omega

end Rebuild

-- A tree whose keys are valid IDs flattens, and the map rebuilds it as it was, unless the upgrade
-- hack finds an unset mod policy to change.

def ConfigGroup.keysValid (group : ConfigGroup) : Bool :=
  (group.groups.map Prod.fst ++ group.values.map Prod.fst ++ group.policies.map Prod.fst).all fun key =>
    (validateConfigID key).isOk

def ConfigGroup.modPoliciesSet (group : ConfigGroup) : Bool :=
  group.modPolicy != "" && group.values.all (fun entry => entry.2.modPolicy != "") &&
    group.policies.all fun entry => entry.2.modPolicy != ""

theorem validateConfigID_of_keysValid {group : ConfigGroup} (valid : group.keysValid = true)
    (kind : ElementKind) {key : String} (member : key ∈ group.keysOf kind) : validateConfigID key = .ok () := by
  have succeeded := List.all_eq_true.mp valid key (by cases kind <;> simp_all [ConfigGroup.keysOf])
  cases check : validateConfigID key with
  | error message => simp [check, Except.isOk, Except.toBool] at succeeded
  | ok u => rfl

theorem modPoliciesSet_iff (group : ConfigGroup) :
    group.modPoliciesSet = true ↔ group.modPolicy ≠ "" ∧ (∀ entry ∈ group.values, entry.2.modPolicy ≠ "") ∧
      ∀ entry ∈ group.policies, entry.2.modPolicy ≠ "" := by
  simp [ConfigGroup.modPoliciesSet, and_assoc]

theorem addToMap_of_valid (cg : Comparable) (result : ConfigMap) (valid : validateConfigID cg.key = .ok ()) :
    ∃ result', addToMap cg result = .ok result' := by
  unfold addToMap
  rw [valid]
  exact ⟨_, rfl⟩

theorem addElements_of_valid (elements : List Comparable)
    (valid : ∀ cg ∈ elements, validateConfigID cg.key = .ok ()) (result : ConfigMap) :
    ∃ result', addElements result elements = .ok result' :=
  Except.foldlM_eq_ok_of_forall (fun cg member before => addToMap_of_valid cg before (valid cg member)) result

theorem keys_valid_of_mem {α : Type} {group : ConfigGroup} (valid : group.keysValid = true)
    (kind : ElementKind) {entries : List (String × α)} (keysOk : entries.map Prod.fst = group.keysOf kind)
    (wrap : α → ConfigElement) (path : List String) :
    ∀ cg ∈ entries.map (fun entry => (⟨wrap entry.2, entry.1, path⟩ : Comparable)),
      validateConfigID cg.key = .ok () := by
  intro cg member
  obtain ⟨entry, entryOk, rfl⟩ := List.mem_map.mp member
  apply validateConfigID_of_keysValid valid kind
  rw [← keysOk]
  exact List.mem_map.mpr ⟨entry, entryOk, rfl⟩

mutual
theorem recurseConfig_ok : ∀ (group : ConfigGroup) (result : ConfigMap) (path : List String) (key : String),
    validateConfigID key = .ok () → group.all ConfigGroup.keysValid = true →
      ∃ result', recurseConfig result path key group = .ok result'
  | ⟨version, groups, values, policies, modPolicy⟩, result, path, key, keyOk, every => by
      obtain ⟨valid, below⟩ := (all_iff _ _).mp every
      obtain ⟨withSelf, selfOk⟩ :=
        addToMap_of_valid ⟨.group ⟨version, groups, values, policies, modPolicy⟩, key, path⟩ result keyOk
      obtain ⟨withGroups, groupsOk⟩ := recurseGroups_ok groups withSelf (path ++ [key])
        (fun entry member => validateConfigID_of_keysValid valid .group (List.mem_map.mpr ⟨entry, member, rfl⟩))
        below
      obtain ⟨withValues, valuesOk⟩ := addElements_of_valid _
        (keys_valid_of_mem valid .value rfl ConfigElement.value (path ++ [key])) withGroups
      obtain ⟨withPolicies, policiesOk⟩ := addElements_of_valid _
        (keys_valid_of_mem valid .policy rfl ConfigElement.policy (path ++ [key])) withValues
      refine ⟨withPolicies, ?_⟩
      rw [recurseConfig, selfOk, Except.ok_bind, groupsOk, Except.ok_bind, valuesOk, Except.ok_bind, policiesOk]

theorem recurseGroups_ok : ∀ (children : List (String × ConfigGroup)) (result : ConfigMap) (path : List String),
    (∀ entry ∈ children, validateConfigID entry.1 = .ok ()) →
      (∀ entry ∈ children, entry.2.all ConfigGroup.keysValid = true) →
        ∃ result', recurseGroups result path children = .ok result'
  | [], result, _, _, _ => ⟨result, rfl⟩
  | (childKey, child) :: rest, result, path, keysOk, every => by
      obtain ⟨withChild, childOk⟩ :=
        recurseConfig_ok child result path childKey (keysOk _ List.mem_cons_self) (every _ List.mem_cons_self)
      obtain ⟨result', restOk⟩ := recurseGroups_ok rest withChild path
        (fun entry member => keysOk entry (List.mem_cons_of_mem _ member))
        (fun entry member => every entry (List.mem_cons_of_mem _ member))
      exact ⟨result', by rw [recurseGroups, childOk, Except.ok_bind, restOk]⟩
end

section RoundTrip

variable {root : ConfigGroup} {rootKey : String} {configMap : ConfigMap}

theorem mapConfig_find_element (mapped : mapConfig (some root) rootKey = .ok configMap)
    (distinct : root.keysDistinct = true) {kind : ElementKind} {path : List String} {key : String}
    {cg : Comparable} (located : root.comparableAt [] rootKey kind path key = some cg) :
    configMap.find (configKey kind (path ++ [key])) = some cg := by
  rw [mapConfig_find mapped distinct kind path key (mapConfig_clean mapped distinct (by rw [located]; rfl)), located]

theorem comparableAt_of_groupAt {names : List String} {group : ConfigGroup}
    (located : root.groupAt names = some group) (kind : ElementKind) (key : String) :
    root.comparableAt [] rootKey kind (rootKey :: names) key =
      (group.childAt kind key).map fun element => ⟨element, key, rootKey :: names⟩ := by
  rw [comparableAt_root_cons]
  simp [ConfigGroup.groupAtPath, located]

theorem find_group_of_groupAt (mapped : mapConfig (some root) rootKey = .ok configMap)
    (distinct : root.keysDistinct = true) {names : List String} {group : ConfigGroup}
    (located : root.groupAt names = some group) :
    ∃ cg, configMap.find (configKey .group (rootKey :: names)) = some cg ∧ cg.element = .group group := by
  obtain ⟨path, key, splitAt⟩ : ∃ path key, rootKey :: names = path ++ [key] :=
    ⟨_, _, (List.dropLast_append_getLast (List.cons_ne_nil rootKey names)).symm⟩
  have element : root.comparableAt [] rootKey .group path key = some ⟨.group group, key, path⟩ := by
    rw [comparableAt_root_group, ← splitAt]
    simp [ConfigGroup.groupAtPath, located]
  rw [splitAt]
  exact ⟨_, mapConfig_find_element mapped distinct element, rfl⟩

theorem upgradeModPolicy_eq_self {hack : Bool} {modPolicy : String} (setOk : hack = true → modPolicy ≠ "") :
    upgradeModPolicy hack modPolicy = modPolicy := by
  cases hack with
  | false => exact upgradeModPolicy_false modPolicy
  | true => simp [upgradeModPolicy, setOk rfl]

theorem recurseConfigMap_of_mapConfig (mapped : mapConfig (some root) rootKey = .ok configMap)
    (distinct : root.keysDistinct = true)
    (kept : configMap.upgradeHack = true → root.all ConfigGroup.modPoliciesSet = true) :
    ∀ (fuel : Nat) (names : List String) {group : ConfigGroup}, root.groupAt names = some group →
      configMap.groupsBelow (rootKey :: names) < fuel →
        recurseConfigMap configMap fuel (rootKey :: names) = .ok group := by
  intro fuel
  induction fuel with
  | zero => exact fun names group _ below => absurd below (Nat.not_lt_zero _)
  | succ fuel ih =>
    intro names group located below
    obtain ⟨groupsDistinct, valuesDistinct, policiesDistinct, -⟩ :=
      (keysDistinct_iff group).mp (keysDistinct_groupAt names distinct located)
    obtain ⟨cg, findEq, element⟩ := find_group_of_groupAt mapped distinct located
    have groups : ∀ entry ∈ group.groups,
        recurseConfigMap configMap fuel ((rootKey :: names) ++ [entry.1]) = .ok entry.2 := by
      intro entry member
      have childOk : root.groupAt (names ++ [entry.1]) = some entry.2 := by
        rw [groupAt_append, located, Option.bind_some, groupAt_singleton, List.lookup_of_mem groupsDistinct member]
      have fewer := groupsBelow_append_lt configMap (List.cons_ne_nil rootKey names) entry.1 findEq
      rw [List.cons_append] at fewer
      exact ih (names ++ [entry.1]) childOk (by omega)
    have values : ∀ entry ∈ group.values, lookupValue configMap (rootKey :: names) entry.1 = .ok entry.2 := by
      intro entry member
      have valueOk : root.comparableAt [] rootKey .value (rootKey :: names) entry.1 =
          some ⟨.value entry.2, entry.1, rootKey :: names⟩ := by
        simp [comparableAt_of_groupAt located, ConfigGroup.childAt, List.lookup_of_mem valuesDistinct member]
      exact lookupValue_of_find (List.cons_ne_nil rootKey names) (mapConfig_find_element mapped distinct valueOk) rfl
    have policies : ∀ entry ∈ group.policies,
        lookupPolicy configMap (rootKey :: names) entry.1 = .ok entry.2 := by
      intro entry member
      have policyOk : root.comparableAt [] rootKey .policy (rootKey :: names) entry.1 =
          some ⟨.policy entry.2, entry.1, rootKey :: names⟩ := by
        simp [comparableAt_of_groupAt located, ConfigGroup.childAt, List.lookup_of_mem policiesDistinct member]
      exact lookupPolicy_of_find (List.cons_ne_nil rootKey names) (mapConfig_find_element mapped distinct policyOk) rfl
    rw [recurseConfigMap, lookupGroup_of_find findEq element, Except.ok_bind,
      @Except.mapM_keyed_of_forall String ConfigGroup String
        (fun key => recurseConfigMap configMap fuel ((rootKey :: names) ++ [key])) group.groups groups,
      Except.ok_bind, Except.mapM_keyed_of_forall values, Except.ok_bind,
      Except.mapM_keyed_of_forall policies, Except.ok_bind]
    -- the upgrade hack finds no unset mod policy to change
    have setOk := fun hack => (modPoliciesSet_iff group).mp
      ((all_iff _ group).mp (all_groupAt names (kept hack) located)).1
    have valuesKept : (group.values.map fun entry => (entry.1, entry.2.upgradeModPolicy configMap.upgradeHack)) =
        group.values := by
      conv_rhs => rw [← List.map_id group.values]
      apply List.map_congr_left
      intro entry member
      rw [ConfigValue.upgradeModPolicy, upgradeModPolicy_eq_self fun hack => (setOk hack).2.1 entry member]
      rfl
    have policiesKept :
        (group.policies.map fun entry => (entry.1, entry.2.upgradeModPolicy configMap.upgradeHack)) =
          group.policies := by
      conv_rhs => rw [← List.map_id group.policies]
      apply List.map_congr_left
      intro entry member
      rw [ConfigPolicy.upgradeModPolicy, upgradeModPolicy_eq_self fun hack => (setOk hack).2.2 entry member]
      rfl
    have modPolicy : upgradeModPolicy configMap.upgradeHack group.modPolicy = group.modPolicy :=
      upgradeModPolicy_eq_self fun hack => (setOk hack).1
    show pure (⟨group.version, group.groups,
      group.values.map fun entry => (entry.1, entry.2.upgradeModPolicy configMap.upgradeHack),
      group.policies.map fun entry => (entry.1, entry.2.upgradeModPolicy configMap.upgradeHack),
      upgradeModPolicy configMap.upgradeHack group.modPolicy⟩ : ConfigGroup) = _
    rw [valuesKept, policiesKept, modPolicy]
    exact Except.pure_eq_ok_iff.mpr (by cases group; rfl)

theorem upgradeHack_iff (mapped : mapConfig (some root) rootKey = .ok configMap)
    (distinct : root.keysDistinct = true) :
    configMap.upgradeHack = (root.comparableAt [] rootKey .value ["Channel", "Orderer"] "Capabilities").isSome := by
  have keyOk : hackyFixOrdererCapabilities = configKey .value (["Channel", "Orderer"] ++ ["Capabilities"]) := by
    decide
  have clean : Clean '/' (["Channel", "Orderer"] ++ ["Capabilities"]) := by simp [Clean]
  rw [ConfigMap.upgradeHack, keyOk, mapConfig_find mapped distinct .value _ _ clean]

end RoundTrip

/-- Flattening a tree whose keys are valid IDs and rebuilding it gives the tree back, when no
mod policy is unset or the orderer capabilities are absent; the map holds each element at the
key of its path, and elements at different paths have different keys. -/
theorem config_map_round_trip {root : ConfigGroup} {rootKey : String} (distinct : root.keysDistinct = true)
    (rootKeyOk : validateConfigID rootKey = .ok ()) (valid : root.all ConfigGroup.keysValid = true)
    (modPolicies : (root.comparableAt [] rootKey .value ["Channel", "Orderer"] "Capabilities").isSome →
      root.all ConfigGroup.modPoliciesSet = true) :
    ∃ configMap, mapConfig (some root) rootKey = .ok configMap ∧ configMapToConfig configMap rootKey = .ok root ∧
      ∀ (kind kind' : ElementKind) (path path' : List String) (key key' : String) (cg cg' : Comparable),
        root.comparableAt [] rootKey kind path key = some cg →
        root.comparableAt [] rootKey kind' path' key' = some cg' →
          configMap.find (configKey kind (path ++ [key])) = some cg ∧
            (configKey kind (path ++ [key]) = configKey kind' (path' ++ [key']) →
              kind = kind' ∧ path = path' ∧ key = key') := by
  obtain ⟨configMap, mapped⟩ : ∃ configMap, mapConfig (some root) rootKey = .ok configMap :=
    recurseConfig_ok root ConfigMap.empty [] rootKey rootKeyOk valid
  have kept : configMap.upgradeHack = true → root.all ConfigGroup.modPoliciesSet = true := by
    rw [upgradeHack_iff mapped distinct]
    exact modPolicies
  refine ⟨configMap, mapped, ?_, fun kind kind' path path' key key' cg cg' located located' =>
    ⟨mapConfig_find_element mapped distinct located, fun same => ?_⟩⟩
  · -- the root, rebuilt with fuel beyond the count of the map's keys
    exact recurseConfigMap_of_mapConfig mapped distinct kept _ [] rfl
      (Nat.lt_succ_of_le (groupsBelow_le configMap))
  · -- keys of clean paths tell the kind and the path
    have cleanOk := mapConfig_clean mapped distinct (by rw [located]; rfl)
    have clean' := mapConfig_clean mapped distinct (by rw [located']; rfl)
    obtain ⟨rfl, names⟩ := configKey_injective cleanOk clean' (by simp) (by simp) same
    obtain ⟨rfl, rfl⟩ := List.append_singleton_inj.mp names
    exact ⟨rfl, rfl, rfl⟩

def ordererCapabilitiesConfig : ConfigGroup :=
  ⟨0, [("Orderer", ⟨0, [], [("Capabilities", ⟨0, [1], "Admins"⟩)], [], "Admins"⟩)], [], [], "Admins"⟩

theorem config_map_round_trip_with_orderer_capabilities :
    ordererCapabilitiesConfig.keysDistinct = true ∧ validateConfigID "Channel" = .ok () ∧
      ordererCapabilitiesConfig.all ConfigGroup.keysValid = true ∧
      ((ordererCapabilitiesConfig.comparableAt [] "Channel" .value ["Channel", "Orderer"] "Capabilities").isSome →
        ordererCapabilitiesConfig.all ConfigGroup.modPoliciesSet = true) ∧
    ∃ configMap, mapConfig (some ordererCapabilitiesConfig) "Channel" = .ok configMap ∧
      configMapToConfig configMap "Channel" = .ok ordererCapabilitiesConfig ∧
      ∀ (kind kind' : ElementKind) (path path' : List String) (key key' : String) (cg cg' : Comparable),
        ordererCapabilitiesConfig.comparableAt [] "Channel" kind path key = some cg →
        ordererCapabilitiesConfig.comparableAt [] "Channel" kind' path' key' = some cg' →
          configMap.find (configKey kind (path ++ [key])) = some cg ∧
            (configKey kind (path ++ [key]) = configKey kind' (path' ++ [key']) →
              kind = kind' ∧ path = path' ∧ key = key') :=
  ⟨by decide, by decide, by decide, by decide,
    config_map_round_trip (by decide) (by decide) (by decide) (by decide)⟩

end Fabric.Configtx
