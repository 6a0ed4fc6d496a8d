import Fabric.Configtx.ConfigMap
import Fabric.Policy.Manager

/-! `common/configtx/validator.go` and `update.go`: a channel's config validator and the
authorization of a config update. The update's read set must match the current config; the
elements its write set changes (the delta set) must each move one version up and satisfy the mod
policy of the element they replace; the proposed config is the current map overlaid with the
delta, rebuilt into a tree.

The envelope is taken decoded: the update's read and write sets, and the signed data
`AsSignedData` makes of its signatures. -/

namespace Fabric.Configtx

open SortedAssoc Policies PathString

structure Config where
  sequence : UInt64
  channelGroup : Option ConfigGroup

structure ConfigUpdate where
  channelId : String
  readSet : Option ConfigGroup
  writeSet : Option ConfigGroup

/-- `common.ConfigUpdateEnvelope`, its update decoded and its signatures as signed data. -/
structure ConfigUpdateEnvelope where
  configUpdate : ConfigUpdate
  signedData : List SignedData

structure ConfigEnvelope where
  config : Config
  lastUpdate : ConfigUpdateEnvelope

structure ValidatorImpl where
  channelID : String
  sequence : UInt64
  configMap : ConfigMap
  configProto : Config
  namespace_ : String
  pm : ManagerImpl

/-- `channelAllowedChars`, `[a-z][a-z0-9.-]*`: the first character and the others. -/
def channelAllowedFirstChar (c : Char) : Bool := c.isLower

def channelAllowedChar (c : Char) : Bool := c.isLower || c.isDigit || c == '.' || c == '-'

/-- `validateChannelID`. The leftmost match of the expression is the whole ID exactly when its
first character is a lower-case letter and every other is allowed. -/
def validateChannelID (channelID : String) : Except String Unit :=
  if channelID.utf8ByteSize = 0 then .error "channel ID illegal, cannot be empty"
  else if maxLength < channelID.utf8ByteSize then
    .error s!"channel ID illegal, cannot be longer than {maxLength}"
  else
    match channelID.toList with
    | first :: rest =>
        if channelAllowedFirstChar first && rest.all channelAllowedChar then .ok ()
        else .error s!"channel ID \x27{channelID}\x27 contains illegal characters"
    | [] => .error s!"channel ID \x27{channelID}\x27 contains illegal characters"

def newValidatorImpl (channelID : String) (config : Option Config) (namespace_ : String)
    (pm : ManagerImpl) : Except String ValidatorImpl :=
  match config with
  | none => .error "nil config parameter"
  | some config =>
      match config.channelGroup with
      | none => .error "nil channel group"
      | some _ =>
          match validateChannelID channelID with
          | .error err => .error s!"bad channel ID: {err}"
          | .ok () =>
              match mapConfig config.channelGroup namespace_ with
              | .error err => .error s!"error converting config to map: {err}"
              | .ok configMap => .ok ⟨channelID, config.sequence, configMap, config, namespace_, pm⟩

def ValidatorImpl.verifyReadSet (vi : ValidatorImpl) (readSet : ConfigMap) : Except String Unit :=
  readSet.entries.forM fun (key, value) =>
    match vi.configMap.find key with
    | none => .error s!"existing config does not contain element for {key} but was in the read set"
    | some existing =>
        if existing.version ≠ value.version then
          .error s!"readset expected key {key} at version {value.version}, but got version {existing.version}"
        else .ok ()

/-- `computeDeltaSet`: the elements of the write set not read at their own version. -/
def computeDeltaSet (readSet writeSet : ConfigMap) : ConfigMap :=
  ⟨writeSet.entries.filter fun entry =>
      !(readSet.find entry.1).any fun readVal => readVal.version == entry.2.version,
    writeSet.ordered.filter _⟩

def validatePathElements : Nat → List String → Except String Unit
  | _, [] => .ok ()
  | i, pathElement :: rest =>
      match validateConfigID pathElement with
      | .error err => .error s!"path element at {i} is invalid: {err}"
      | .ok () => validatePathElements (i + 1) rest

/-- `validateModPolicy`: a set mod policy, each element of its path (a leading `/` aside) a
valid config ID. -/
def validateModPolicy (modPolicy : String) : Except String Unit :=
  if modPolicy = "" then .error "mod_policy not set"
  else
    let trimmed := if modPolicy.front = '/' then String.ofList (modPolicy.toList.drop 1) else modPolicy
    validatePathElements 0 ((trimmed.toList.splitOn '/').map String.ofList)

/-- `policyForItem`: the mod policy of an element, resolved by the manager of the element's
group when it is relative and the element is not the root (a group counts as its own group), by
the root manager otherwise. `none` is Go's `false`: no such manager, or no such policy. -/
def ValidatorImpl.policyForItem (vi : ValidatorImpl) (item : Comparable) :
    Except String (Option Policies.Policy) :=
  let resolve (manager : ManagerImpl) : Except String (Option Policies.Policy) := do
    let (policy, found) ← manager.getPolicy item.modPolicy
    return if found then some policy else none
  if item.modPolicy ≠ "" ∧ item.modPolicy.front ≠ '/' ∧ item.path ≠ [] then
    match vi.pm.manager item.path.tail with
    | none => .ok none
    | some manager =>
        let manager := match item.element with
          | .group _ => manager.manager [item.key]
          | _ => some manager
        match manager with
        | none => .ok none
        | some manager => resolve manager
  else resolve vi.pm

def ValidatorImpl.verifyDeltaEntry (vi : ValidatorImpl) (signedData : List SignedData)
    (key : String) (value : Comparable) : Except String Unit :=
  match validateModPolicy value.modPolicy with
  | .error err => .error s!"invalid mod_policy for element {key}: {err}"
  | .ok () =>
      match vi.configMap.find key with
      | none =>
          if value.version ≠ 0 then
            .error s!"attempted to set key {key} to version {value.version}, but key does not exist"
          else .ok ()
      | some existing =>
          if value.version ≠ existing.version + 1 then
            .error s!"attempt to set key {key} to version {value.version}, but key is at version {existing.version}"
          else
            match vi.policyForItem existing with
            | .error err => .error err
            | .ok none => .error s!"unexpected missing policy {existing.modPolicy} for item {key}"
            | .ok (some policy) => Except.wrapf s!"policy for {key} not satisfied" (policy signedData)

def ValidatorImpl.verifyDeltaSet (vi : ValidatorImpl) (deltaSet : ConfigMap)
    (signedData : List SignedData) : Except String Unit :=
  if deltaSet.entries.isEmpty then .error "delta set was empty -- update would have no effect"
  else deltaSet.entries.forM fun (key, value) => vi.verifyDeltaEntry signedData key value

def verifyFullProposedConfig (writeSet fullProposedConfig : ConfigMap) : Except String Unit :=
  writeSet.entries.forM fun (key, _) =>
    if (fullProposedConfig.find key).isSome then .ok ()
    else .error s!"writeset contained key {key} which did not appear in proposed config"

def ValidatorImpl.computeUpdateResult (vi : ValidatorImpl) (updatedConfig : ConfigMap) : ConfigMap :=
  updatedConfig.entries.foldl (fun newConfigMap entry => newConfigMap.insert entry.1 entry.2) vi.configMap

def ValidatorImpl.authorizeUpdate (vi : ValidatorImpl) (configUpdateEnv : ConfigUpdateEnvelope) :
    Except String ConfigMap := do
  let configUpdate := configUpdateEnv.configUpdate
  if configUpdate.channelId ≠ vi.channelID then
    throw s!"Update not for correct channel: {configUpdate.channelId} for {vi.channelID}"
  let readSet ← Except.wrapf "error mapping ReadSet" (mapConfig configUpdate.readSet vi.namespace_)
  Except.wrapf "error validating ReadSet" (vi.verifyReadSet readSet)
  let writeSet ← Except.wrapf "error mapping WriteSet" (mapConfig configUpdate.writeSet vi.namespace_)
  let deltaSet := computeDeltaSet readSet writeSet
  Except.wrapf "error validating DeltaSet" (vi.verifyDeltaSet deltaSet configUpdateEnv.signedData)
  let fullProposedConfig := vi.computeUpdateResult deltaSet
  Except.wrapf "full config did not verify" (verifyFullProposedConfig writeSet fullProposedConfig)
  return fullProposedConfig

def ValidatorImpl.proposeConfigUpdate (vi : ValidatorImpl) (configtx : ConfigUpdateEnvelope) :
    Except String ConfigEnvelope := do
  let configMap ← Except.wrapf "error authorizing update" (vi.authorizeUpdate configtx)
  let channelGroup ← Except.wrapf "could not turn configMap back to channelGroup"
    (configMapToConfig configMap vi.namespace_)
  return ⟨⟨vi.sequence + 1, some channelGroup⟩, configtx⟩

def ValidatorImpl.satisfiesModPolicy (vi : ValidatorImpl) (signedData : List SignedData)
    (item : Comparable) : Bool :=
  match vi.policyForItem item with
  | .ok (some policy) => (policy signedData).isOk
  | _ => false

theorem satisfiesModPolicy_of_accepts {vi : ValidatorImpl} {signedData : List SignedData}
    {item : Comparable} {policy : Policies.Policy} (policyOk : vi.policyForItem item = .ok (some policy))
    (accepts : policy signedData = .ok ()) : vi.satisfiesModPolicy signedData item = true := by
  simp [ValidatorImpl.satisfiesModPolicy, policyOk, accepts, Except.isOk, Except.toBool]

def ValidatorImpl.changeAuthorized (vi : ValidatorImpl) (signedData : List SignedData)
    (old new : Comparable) : Bool :=
  new.version == old.version + 1 && vi.satisfiesModPolicy signedData old

theorem newValidatorImpl_eq_ok {channelID namespace_ : String} {config : Config} {root : ConfigGroup}
    {pm : ManagerImpl} {vi : ValidatorImpl} (rootOk : config.channelGroup = some root)
    (viOk : newValidatorImpl channelID (some config) namespace_ pm = .ok vi) :
    validateChannelID channelID = .ok () ∧ mapConfig (some root) namespace_ = .ok vi.configMap ∧
      vi.sequence = config.sequence ∧ vi.namespace_ = namespace_ ∧ vi.pm = pm ∧
      vi.configProto = config := by
  simp only [newValidatorImpl, rootOk] at viOk
  split at viOk
  · cases viOk
  · rename_i channel
    split at viOk
    · cases viOk
    · rename_i configMap mapped
      cases viOk
      exact ⟨channel, mapped, rfl, rfl, rfl, rfl⟩

theorem authorizeUpdate_eq_ok {vi : ValidatorImpl} {configUpdateEnv : ConfigUpdateEnvelope}
    {fullProposedConfig : ConfigMap}
    (authorized : vi.authorizeUpdate configUpdateEnv = .ok fullProposedConfig) :
    ∃ readSet writeSet, configUpdateEnv.configUpdate.channelId = vi.channelID ∧
      mapConfig configUpdateEnv.configUpdate.readSet vi.namespace_ = .ok readSet ∧
      vi.verifyReadSet readSet = .ok () ∧
      mapConfig configUpdateEnv.configUpdate.writeSet vi.namespace_ = .ok writeSet ∧
      vi.verifyDeltaSet (computeDeltaSet readSet writeSet) configUpdateEnv.signedData = .ok () ∧
      verifyFullProposedConfig writeSet fullProposedConfig = .ok () ∧
      fullProposedConfig = vi.computeUpdateResult (computeDeltaSet readSet writeSet) := by
  unfold ValidatorImpl.authorizeUpdate at authorized
  dsimp only at authorized
  -- an update for another channel is refused before anything else
  split_ifs at authorized with channelOk
  · cases authorized
  obtain ⟨readSet, readSetOk, authorized⟩ := Except.bind_eq_ok_iff.mp authorized
  obtain ⟨_, verifyRead, authorized⟩ := Except.bind_eq_ok_iff.mp authorized
  obtain ⟨writeSet, writeSetOk, authorized⟩ := Except.bind_eq_ok_iff.mp authorized
  obtain ⟨_, verifyDelta, authorized⟩ := Except.bind_eq_ok_iff.mp authorized
  obtain ⟨_, verifyFull, authorized⟩ := Except.bind_eq_ok_iff.mp authorized
  rw [Except.wrapf_eq_ok_iff] at readSetOk verifyRead writeSetOk verifyDelta verifyFull
  cases Except.pure_eq_ok_iff.mp authorized
  exact ⟨readSet, writeSet, not_not.mp channelOk, readSetOk, verifyRead, writeSetOk, verifyDelta,
    verifyFull, rfl⟩

theorem proposeConfigUpdate_eq_ok {vi : ValidatorImpl} {configtx : ConfigUpdateEnvelope}
    {configEnv : ConfigEnvelope} (proposed : vi.proposeConfigUpdate configtx = .ok configEnv) :
    ∃ fullProposedConfig channelGroup, vi.authorizeUpdate configtx = .ok fullProposedConfig ∧
      configMapToConfig fullProposedConfig vi.namespace_ = .ok channelGroup ∧
      configEnv = ⟨⟨vi.sequence + 1, some channelGroup⟩, configtx⟩ := by
  unfold ValidatorImpl.proposeConfigUpdate at proposed
  obtain ⟨fullProposedConfig, authorized, proposed⟩ := Except.bind_eq_ok_iff.mp proposed
  obtain ⟨channelGroup, rebuilt, proposed⟩ := Except.bind_eq_ok_iff.mp proposed
  rw [Except.wrapf_eq_ok_iff] at authorized rebuilt
  exact ⟨fullProposedConfig, channelGroup, authorized, rebuilt, (Except.pure_eq_ok_iff.mp proposed).symm⟩

theorem find_foldl_insert (key : String) :
    ∀ {updates : List (String × Comparable)}, Ordered updates → ∀ configMap : ConfigMap,
      (updates.foldl (fun newConfigMap entry => newConfigMap.insert entry.1 entry.2) configMap).find key =
        (find key updates).or (configMap.find key)
  | [], _, configMap => by simp
  | (first, value) :: rest, ordered, configMap => by
      rw [ordered_cons] at ordered
      rw [List.foldl_cons, find_foldl_insert key ordered.2, ConfigMap.find_insert, find_cons]
      by_cases keyOk : first = key
      · -- a key of the delta occurs once in it
        subst keyOk
        rw [find_eq_none_of_lt ordered.1]
        simp
      · simp [keyOk]

theorem find_computeUpdateResult (vi : ValidatorImpl) (updatedConfig : ConfigMap) (key : String) :
    (vi.computeUpdateResult updatedConfig).find key = (updatedConfig.find key).or (vi.configMap.find key) :=
  find_foldl_insert key updatedConfig.ordered vi.configMap

theorem verifyReadSet_find {vi : ValidatorImpl} {readSet : ConfigMap}
    (verified : vi.verifyReadSet readSet = .ok ()) {key : String} {value : Comparable}
    (read : readSet.find key = some value) :
    ∃ existing, vi.configMap.find key = some existing ∧ existing.version = value.version := by
  have entryOk := Except.forM_eq_ok verified (key, value) (mem_of_find_eq_some read)
  dsimp only at entryOk
  split at entryOk
  · cases entryOk
  · rename_i existing existingOk
    split_ifs at entryOk with version
    exact ⟨existing, existingOk, not_not.mp version⟩

theorem find_computeDeltaSet (readSet writeSet : ConfigMap) (key : String) :
    (computeDeltaSet readSet writeSet).find key = (writeSet.find key).filter fun value =>
      !(readSet.find key).any fun readVal => readVal.version == value.version :=
  find_filter writeSet.ordered _ key

theorem verifyDeltaEntry_existing {vi : ValidatorImpl} {signedData : List SignedData} {key : String}
    {value existing : Comparable} (verified : vi.verifyDeltaEntry signedData key value = .ok ())
    (existingOk : vi.configMap.find key = some existing) :
    value.version = existing.version + 1 ∧
      ∃ policy, vi.policyForItem existing = .ok (some policy) ∧ policy signedData = .ok () := by
  unfold ValidatorImpl.verifyDeltaEntry at verified
  split at verified
  · cases verified
  · rw [existingOk] at verified
    dsimp only at verified
    split_ifs at verified with version
    refine ⟨not_not.mp version, ?_⟩
    split at verified
    · cases verified
    · cases verified
    · rename_i policy policyOk
      exact ⟨policy, policyOk, Except.wrapf_eq_ok_iff.mp verified⟩

theorem verifyDeltaSet_existing {vi : ValidatorImpl} {deltaSet : ConfigMap}
    {signedData : List SignedData} (verified : vi.verifyDeltaSet deltaSet signedData = .ok ())
    {key : String} {value existing : Comparable} (delta : deltaSet.find key = some value)
    (existingOk : vi.configMap.find key = some existing) :
    value.version = existing.version + 1 ∧
      ∃ policy, vi.policyForItem existing = .ok (some policy) ∧ policy signedData = .ok () := by
  unfold ValidatorImpl.verifyDeltaSet at verified
  split_ifs at verified with emptyEq
  have entryOk := Except.forM_eq_ok verified (key, value) (mem_of_find_eq_some delta)
  exact verifyDeltaEntry_existing entryOk existingOk

theorem find_computeDeltaSet_of_version_ne {vi : ValidatorImpl} {readSet writeSet : ConfigMap}
    (verifyRead : vi.verifyReadSet readSet = .ok ()) {key : String} {value existing : Comparable}
    (written : writeSet.find key = some value) (existingOk : vi.configMap.find key = some existing)
    (version : value.version ≠ existing.version) :
    (computeDeltaSet readSet writeSet).find key = some value := by
  rw [find_computeDeltaSet, written]
  cases read : readSet.find key with
  | none => rfl
  | some readVal =>
      obtain ⟨existing', existingOk', same⟩ := verifyReadSet_find verifyRead read
      rw [existingOk, Option.some_inj] at existingOk'
      subst existingOk'
      have ne : readVal.version ≠ value.version := fun read => version (read.symm.trans same.symm)
      simp [Option.filter, ne]

theorem authorizeUpdate_write_authorized {vi : ValidatorImpl} {configUpdateEnv : ConfigUpdateEnvelope}
    {fullProposedConfig : ConfigMap}
    (authorized : vi.authorizeUpdate configUpdateEnv = .ok fullProposedConfig) {writeSet : ConfigMap}
    (writeSetOk : mapConfig configUpdateEnv.configUpdate.writeSet vi.namespace_ = .ok writeSet)
    {key : String} {value existing : Comparable} (written : writeSet.find key = some value)
    (existingOk : vi.configMap.find key = some existing) (version : value.version ≠ existing.version) :
    value.version = existing.version + 1 ∧
      vi.satisfiesModPolicy configUpdateEnv.signedData existing = true := by
  obtain ⟨readSet, writeSet', -, -, verifyRead, writeSetOk', verifyDelta, -, -⟩ :=
    authorizeUpdate_eq_ok authorized
  rw [writeSetOk] at writeSetOk'
  cases writeSetOk'
  have delta := find_computeDeltaSet_of_version_ne verifyRead written existingOk version
  obtain ⟨nextOk, policy, policyOk, accepts⟩ := verifyDeltaSet_existing verifyDelta delta existingOk
  exact ⟨nextOk, satisfiesModPolicy_of_accepts policyOk accepts⟩

theorem authorizeUpdate_find {vi : ValidatorImpl} {configUpdateEnv : ConfigUpdateEnvelope}
    {fullProposedConfig : ConfigMap}
    (authorized : vi.authorizeUpdate configUpdateEnv = .ok fullProposedConfig) {writeSet : ConfigMap}
    (writeSetOk : mapConfig configUpdateEnv.configUpdate.writeSet vi.namespace_ = .ok writeSet)
    {key : String} {cg : Comparable} (findEq : fullProposedConfig.find key = some cg) :
    writeSet.find key = some cg ∨ vi.configMap.find key = some cg := by
  obtain ⟨readSet, writeSet', -, -, -, writeSetOk', -, -, full⟩ := authorizeUpdate_eq_ok authorized
  rw [writeSetOk] at writeSetOk'
  cases writeSetOk'
  rw [full, find_computeUpdateResult] at findEq
  cases deltaOk : (computeDeltaSet readSet writeSet).find key with
  | none =>
      rw [deltaOk, Option.none_or] at findEq
      exact Or.inr findEq
  | some value =>
      -- a delta entry is the write set's own
      rw [deltaOk, Option.some_or] at findEq
      rw [find_computeDeltaSet, Option.filter_eq_some_iff] at deltaOk
      exact Or.inl (findEq ▸ deltaOk.1)

section Authorization

variable {channelID namespace_ : String} {config : Config} {root : ConfigGroup} {pm : ManagerImpl}
  {vi : ValidatorImpl} {configtx : ConfigUpdateEnvelope}

section Rebuilt

variable (rootOk : config.channelGroup = some root) (distinct : root.keysDistinct = true)
  (viOk : newValidatorImpl channelID (some config) namespace_ pm = .ok vi)
  {fullProposedConfig : ConfigMap} {updated : ConfigGroup}
  (authorized : vi.authorizeUpdate configtx = .ok fullProposedConfig)
  (rebuilt : configMapToConfig fullProposedConfig namespace_ = .ok updated)

include rootOk distinct viOk authorized rebuilt

theorem changed_element_authorized {kind : ElementKind} {path : List String} {key : String} {old new : Comparable}
    (hold : root.comparableAt [] namespace_ kind path key = some old)
    (fresh : updated.comparableAt [] namespace_ kind path key = some new)
    (changed : new.equals (old.upgradeModPolicy fullProposedConfig.upgradeHack) = false) :
    vi.changeAuthorized configtx.signedData old new = true := by
  obtain ⟨-, mapped, -, -, -, -⟩ := newValidatorImpl_eq_ok rootOk viOk
  -- the current map holds the element under the key of its path
  have clean := mapConfig_clean mapped distinct (Option.isSome_iff_exists.mpr ⟨old, hold⟩)
  have findOld : vi.configMap.find (configKey kind (path ++ [key])) = some old :=
    (mapConfig_find mapped distinct kind path key clean).trans hold
  obtain ⟨readSet, writeSet, -, -, -, -, verifyDelta, -, full⟩ := authorizeUpdate_eq_ok authorized
  obtain ⟨cg, findNew, equal⟩ := configMapToConfig_comparableAt fullProposedConfig rebuilt fresh
  rw [full, find_computeUpdateResult, findOld] at findNew
  cases deltaOk : (computeDeltaSet readSet writeSet).find (configKey kind (path ++ [key])) with
  | none =>
      -- left alone by the delta: the rebuilt element is the current one, upgraded
      rw [deltaOk, Option.none_or, Option.some_inj] at findNew
      subst findNew
      rw [equal] at changed
      cases changed
  | some value =>
      rw [deltaOk, Option.some_or, Option.some_inj] at findNew
      subst findNew
      obtain ⟨version, policy, policyOk, accepts⟩ := verifyDeltaSet_existing verifyDelta deltaOk findOld
      have newVersion : new.version = value.version := by
        rw [Comparable.version_eq_of_equals equal, Comparable.version_upgradeModPolicy]
      simp [ValidatorImpl.changeAuthorized, newVersion, version,
        satisfiesModPolicy_of_accepts policyOk accepts]

theorem rebuilt_group_keys {writeRoot : ConfigGroup} (writeRootOk : configtx.configUpdate.writeSet = some writeRoot)
    (writeDistinct : writeRoot.keysDistinct = true) {path : List String} {key : String}
    (clean : Clean '/' (path ++ [key])) {found : ConfigGroup}
    (located : updated.comparableAt [] namespace_ .group path key = some ⟨.group found, key, path⟩) :
    ∃ source, (writeRoot.comparableAt [] namespace_ .group path key = some ⟨.group source, key, path⟩ ∨
        root.comparableAt [] namespace_ .group path key = some ⟨.group source, key, path⟩) ∧
      ∀ kind name, name ∈ found.keysOf kind ↔ name ∈ source.keysOf kind := by
  obtain ⟨-, mapped, -, namespaceOk, -, -⟩ := newValidatorImpl_eq_ok rootOk viOk
  obtain ⟨readSet, writeSet, -, -, -, writeSetOk, -⟩ := authorizeUpdate_eq_ok authorized
  rw [namespaceOk, writeRootOk] at writeSetOk
  obtain ⟨cg, findEq, equal⟩ := configMapToConfig_comparableAt fullProposedConfig rebuilt located
  -- the map entry is a group of one of the two trees, at the same place
  have sourceOk : writeRoot.comparableAt [] namespace_ .group path key = some cg ∨
      root.comparableAt [] namespace_ .group path key = some cg := by
    rcases authorizeUpdate_find authorized (by rw [namespaceOk, writeRootOk]; exact writeSetOk) findEq
      with written | current
    · exact Or.inl ((mapConfig_find writeSetOk writeDistinct .group path key clean).symm.trans written)
    · exact Or.inr ((mapConfig_find mapped distinct .group path key clean).symm.trans current)
  have groupOk : ∃ source, cg = ⟨.group source, key, path⟩ := by
    rcases sourceOk with isSome | isSome
    all_goals
      obtain ⟨source, sourceOk⟩ := comparableAt_group_eq_some (Option.isSome_iff_exists.mpr ⟨cg, isSome⟩)
      exact ⟨source, Option.some_inj.mp (isSome.symm.trans sourceOk)⟩
  obtain ⟨source, rfl⟩ := groupOk
  refine ⟨source, sourceOk, fun kind name => ?_⟩
  -- the upgrade touches the mod policy only
  rw [keysOf_mem_iff_of_equals equal kind name]
  cases kind <;> rfl

theorem rebuilt_root_child {writeRoot : ConfigGroup} (writeRootOk : configtx.configUpdate.writeSet = some writeRoot)
    (writeDistinct : writeRoot.keysDistinct = true) (clean : Clean '/' [namespace_])
    {kind : ElementKind} {name : String} (writeChild : name ∈ writeRoot.keysOf kind)
    (rootChild : name ∈ root.keysOf kind) : name ∈ updated.keysOf kind := by
  obtain ⟨source, sourceOk, keysOk⟩ := rebuilt_group_keys rootOk distinct viOk authorized rebuilt writeRootOk
    writeDistinct (show Clean '/' ([] ++ [namespace_]) from clean) (comparableAt_root_self updated namespace_)
  rw [keysOk]
  -- the root of either tree is that tree itself
  rcases sourceOk with written | currentOk
  · rw [comparableAt_root_self, Option.some_inj] at written
    cases written
    exact writeChild
  · rw [comparableAt_root_self, Option.some_inj] at currentOk
    cases currentOk
    exact rootChild

end Rebuilt

/-- A proposed config is one sequence number up, and it differs from the current config only
where the signatures authorize it. Apart from the upgrade of unset mod policies to `Admins`, made
when the proposed map holds the orderer's `Capabilities` value, an element in both configs with
other content moved one version up with the consent of its mod policy; an element in one of them
only hangs below a group, the nearest one both hold, changed that way. -/
theorem proposeConfigUpdate_authorized (rootOk : config.channelGroup = some root)
    (distinct : root.keysDistinct = true)
    (viOk : newValidatorImpl channelID (some config) namespace_ pm = .ok vi)
    {configEnv : ConfigEnvelope} (proposedOk : vi.proposeConfigUpdate configtx = .ok configEnv) :
    configEnv.config.sequence = config.sequence + 1 ∧
      ∃ proposed updated, vi.authorizeUpdate configtx = .ok proposed ∧
        configMapToConfig proposed namespace_ = .ok updated ∧ configEnv.config.channelGroup = some updated ∧
        (∀ kind path key old new, root.comparableAt [] namespace_ kind path key = some old →
          updated.comparableAt [] namespace_ kind path key = some new →
          new.equals (old.upgradeModPolicy (proposed.find hackyFixOrdererCapabilities).isSome) = false →
          vi.changeAuthorized configtx.signedData old new = true) ∧
        (∀ kind path key, (root.comparableAt [] namespace_ kind path key).isSome ≠
            (updated.comparableAt [] namespace_ kind path key).isSome →
          ∃ i < path.length,
            (root.ancestorAt namespace_ path i).isSome ∧ (updated.ancestorAt namespace_ path i).isSome ∧
            (∀ j, i < j → j < path.length →
              ¬((root.ancestorAt namespace_ path j).isSome ∧ (updated.ancestorAt namespace_ path j).isSome)) ∧
            ∀ old new, root.ancestorAt namespace_ path i = some old →
              updated.ancestorAt namespace_ path i = some new →
              new.equals (old.upgradeModPolicy (proposed.find hackyFixOrdererCapabilities).isSome) = false ∧
                vi.changeAuthorized configtx.signedData old new = true) := by
  obtain ⟨-, -, sequence, namespaceOk, -, -⟩ := newValidatorImpl_eq_ok rootOk viOk
  obtain ⟨fullProposedConfig, updated, authorized, rebuilt, rfl⟩ := proposeConfigUpdate_eq_ok proposedOk
  rw [namespaceOk] at rebuilt
  refine ⟨by rw [sequence], fullProposedConfig, updated, authorized, rebuilt, rfl, ?_, ?_⟩
  · intro kind path key old new hold fresh changed
    exact changed_element_authorized rootOk distinct viOk authorized rebuilt hold fresh changed
  · -- the nearest group above the element in both configs has other keys in the two
    intro kind path key differ
    obtain ⟨i, iBound, ⟨found, found', foundOk, foundOk', kind', child, keysOk⟩, max⟩ :=
      nearest_common_ancestor root updated namespace_ differ
    refine ⟨i, iBound, by simp [foundOk], by simp [foundOk'], max, ?_⟩
    intro old new hold fresh
    rw [foundOk, Option.some_inj] at hold
    rw [foundOk', Option.some_inj] at fresh
    subst hold fresh
    have changed : (⟨.group found', path.getD i "", path.take i⟩ : Comparable).equals
        ((⟨.group found, path.getD i "", path.take i⟩ : Comparable).upgradeModPolicy
          fullProposedConfig.upgradeHack) = false :=
      equals_upgradeModPolicy_of_keysOf _ keysOk
    exact ⟨changed,
      changed_element_authorized rootOk distinct viOk authorized rebuilt foundOk foundOk' changed⟩

def sampleConfig : Config :=
  ⟨3, some ⟨0, [], [("A", ⟨0, [1], "Admins"⟩)], [("Admins", ⟨0, some ⟨1, [2]⟩, "Admins"⟩)], "Admins"⟩⟩

def sampleManager : ManagerImpl := ⟨"Channel", [("Admins", fun _ => .ok ())], []⟩

def sampleUpdate : ConfigUpdateEnvelope :=
  ⟨⟨"mychannel", some ⟨0, [], [("A", ⟨0, [1], "Admins"⟩)], [], "Admins"⟩,
    some ⟨0, [], [("A", ⟨1, [7], "Admins"⟩)], [], "Admins"⟩⟩, []⟩

theorem proposeConfigUpdate_authorized_sample :
    ∃ vi configEnv, newValidatorImpl "mychannel" (some sampleConfig) "Channel" sampleManager = .ok vi ∧
      vi.proposeConfigUpdate sampleUpdate = .ok configEnv ∧
      configEnv.config.sequence = sampleConfig.sequence + 1 := by
  have validator :
      (newValidatorImpl "mychannel" (some sampleConfig) "Channel" sampleManager).isOk = true := by
    decide
  have proposal : ((newValidatorImpl "mychannel" (some sampleConfig) "Channel" sampleManager).toOption.map
      fun vi => (vi.proposeConfigUpdate sampleUpdate).isOk) = some true := by
    decide
  cases viOk : newValidatorImpl "mychannel" (some sampleConfig) "Channel" sampleManager with
  | error err =>
      rw [viOk] at validator
      cases validator
  | ok vi =>
      rw [viOk] at proposal
      cases proposed : vi.proposeConfigUpdate sampleUpdate with
      | error err => simp [proposed, Except.toOption, Except.isOk, Except.toBool] at proposal
      | ok configEnv =>
          exact ⟨vi, configEnv, rfl, proposed,
            (proposeConfigUpdate_authorized rfl (by decide) viOk proposed).1⟩

end Authorization

end Fabric.Configtx
