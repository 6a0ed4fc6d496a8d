import Fabric.Configtx.Update

/-! `orderer/common/msgprocessor/systemchannel.go` and `standardchannel.go`: the system channel's
processing of a config update. An update for the system channel itself is a reconfiguration; an
update for any other channel ID creates that channel. `DefaultTemplator.NewChannelConfig` builds
the new channel's template from the system channel's config and the consortium the update names,
the update is authorized against the template as any update is, and the resulting config is
wrapped in an orderer transaction of the system channel.

Protobuf decoding is a parameter (the consortium name in the update's `Consortium` value, the
channel creation policy of a consortium, the new `Consortium` value), and so is the policy manager
`NewBundle` compiles from a config. Signing is the local signer's success or failure, and the
filters are a check on an envelope. -/

namespace Fabric.Configtx

def ConfigValue.zeroVersion (value : ConfigValue) : ConfigValue := { value with version := 0 }

def ConfigPolicy.zeroVersion (policy : ConfigPolicy) : ConfigPolicy := { policy with version := 0 }

end Fabric.Configtx

namespace Fabric.Msgprocessor

open Configtx Policies PathString

def rootGroupKey : String := "Channel"

def ordererGroupKey : String := "Orderer"

def applicationGroupKey : String := "Application"

def consortiumsGroupKey : String := "Consortiums"

def consortiumKey : String := "Consortium"

def capabilitiesKey : String := "Capabilities"

def channelCreationPolicyKey : String := "ChannelCreationPolicy"

def adminsPolicyKey : String := "Admins"

def nilDereference : String := "runtime error: invalid memory address or nil pointer dereference"

inductive TxEnvelope where
  | configUpdate (channelId : String) (configUpdateEnv : ConfigUpdateEnvelope)
  | config (channelId : String) (configEnv : ConfigEnvelope)
  | ordererTransaction (channelId : String) (inner : TxEnvelope)

/-- `utils.CreateSignedEnvelope`: the envelope, once the local signer signs. -/
def createSignedEnvelope (signer : Except String Unit) (env : TxEnvelope) : Except String TxEnvelope := do
  signer
  return env

structure ConsortiumConfig where
  channelCreationPolicy : Option Configtx.Policy

/-- `channelconfig`'s consortiums config: each group under `Consortiums` is a consortium, its
channel creation policy decoded from its `ChannelCreationPolicy` value; none without that
group. -/
def consortiumsOf (decodePolicy : Bytes → Option Configtx.Policy) (channelGroup : ConfigGroup) :
    Option (List (String × ConsortiumConfig)) :=
  (channelGroup.groups.lookup consortiumsGroupKey).map fun consortiums =>
    consortiums.groups.map fun entry =>
      (entry.1, ⟨(entry.2.values.lookup channelCreationPolicyKey).bind fun value => decodePolicy value.value⟩)

/-- `DefaultTemplatorSupport`: the system channel's validator, its consortiums config read from
the validator's config, and the `PredictableChannelTemplate` capability of its orderer config
(none without an orderer config). -/
structure DefaultTemplatorSupport where
  decodePolicy : Bytes → Option Configtx.Policy
  predictableChannelTemplate : Option Bool
  configtxValidator : ValidatorImpl

def DefaultTemplatorSupport.consortiumsConfig (support : DefaultTemplatorSupport) :
    Option (List (String × ConsortiumConfig)) :=
  support.configtxValidator.configProto.channelGroup.bind (consortiumsOf support.decodePolicy)

structure DefaultTemplator where
  support : DefaultTemplatorSupport
  decodeConsortium : Bytes → Except String String
  encodeConsortium : String → Bytes
  newPolicyManager : ConfigGroup → Except String ManagerImpl

mutual
/-- `zeroVersions`: every version of the tree set to 0. -/
def zeroVersions : ConfigGroup → ConfigGroup
  | ⟨_, groups, values, policies, modPolicy⟩ =>
      ⟨0, zeroGroupsVersions groups, values.map fun entry => (entry.1, entry.2.zeroVersion),
        policies.map fun entry => (entry.1, entry.2.zeroVersion), modPolicy⟩

def zeroGroupsVersions : List (String × ConfigGroup) → List (String × ConfigGroup)
  | [] => []
  | (key, group) :: rest => (key, zeroVersions group) :: zeroGroupsVersions rest
end

/-- `preValidate`: channel or application capabilities need the orderer's. -/
def preValidate (channelGroup : ConfigGroup) : Except String Unit :=
  match channelGroup.groups.lookup ordererGroupKey with
  | none => .ok ()
  | some ordererGroup =>
      if (ordererGroup.values.lookup capabilitiesKey).isSome then .ok ()
      else if (channelGroup.values.lookup capabilitiesKey).isSome then
        .error "cannot enable channel capabilities without orderer support first"
      else if ((channelGroup.groups.lookup applicationGroupKey).bind
          fun applicationGroup => applicationGroup.values.lookup capabilitiesKey).isSome then
        .error "cannot enable application capabilities without orderer support first"
      else .ok ()

/-- `NewBundle`, reduced to the config validator of the new config: the policy manager compiled
from the config and `NewValidatorImpl` over it. -/
def newBundle (newPolicyManager : ConfigGroup → Except String ManagerImpl) (channelID : String)
    (channelGroup : ConfigGroup) : Except String ValidatorImpl := do
  preValidate channelGroup
  let policyManager ← Except.wrapf "initializing policymanager failed" (newPolicyManager channelGroup)
  Except.wrapf "initializing configtx manager failed"
    (newValidatorImpl channelID (some ⟨0, some channelGroup⟩) rootGroupKey policyManager)

def DefaultTemplator.applicationGroup (consortiumConf : ConsortiumConfig)
    (applicationGroups : List (String × ConfigGroup)) : ConfigGroup :=
  ⟨0, applicationGroups, [], [(channelCreationPolicyKey, ⟨0, consortiumConf.channelCreationPolicy, ""⟩)],
    channelCreationPolicyKey⟩

def applicationMembers (members writeSetMembers : List (String × ConfigGroup)) :
    Except String (List (String × ConfigGroup)) :=
  if members.isEmpty then .ok []
  else if writeSetMembers.isEmpty then
    .error "Proposed configuration has no application group members, but consortium contains members"
  else
    writeSetMembers.mapM fun entry => do
      let consortiumGroup ← Except.require (members.lookup entry.1)
        "Attempted to include a member which is not in the consortium"
      return (entry.1, consortiumGroup)

def DefaultTemplator.channelGroup (dt : DefaultTemplator) (systemChannelGroup ordererGroup
    applicationGroup : ConfigGroup) (consortiumName : String) : ConfigGroup :=
  let channelGroup : ConfigGroup :=
    ⟨0, [(ordererGroupKey, ordererGroup), (applicationGroupKey, applicationGroup)],
      systemChannelGroup.values.setKey consortiumKey
        ⟨0, dt.encodeConsortium consortiumName, adminsPolicyKey⟩,
      systemChannelGroup.policies, ""⟩
  if dt.support.predictableChannelTemplate = some true then
    zeroVersions { channelGroup with modPolicy := systemChannelGroup.modPolicy }
  else channelGroup

def DefaultTemplator.inherit (dt : DefaultTemplator) (group : ConfigGroup) : ConfigGroup :=
  if dt.support.predictableChannelTemplate = some true then zeroVersions group else group

def DefaultTemplator.inheritValue (dt : DefaultTemplator) (value : ConfigValue) : ConfigValue :=
  if dt.support.predictableChannelTemplate = some true then value.zeroVersion else value

def DefaultTemplator.inheritPolicy (dt : DefaultTemplator) (policy : ConfigPolicy) : ConfigPolicy :=
  if dt.support.predictableChannelTemplate = some true then policy.zeroVersion else policy

def DefaultTemplator.newChannelConfig (dt : DefaultTemplator) (channelHeaderId : String)
    (configUpdate : ConfigUpdate) : Except String ValidatorImpl := do
  Except.failIf (configUpdate.channelId ≠ channelHeaderId)
    s!"Failing initial channel config creation: mismatched channel IDs: \x27{configUpdate.channelId}\x27 != \x27{channelHeaderId}\x27"
  let writeSet ← Except.require configUpdate.writeSet "Config update has an empty writeset"
  let writeSetApplication ← Except.require (writeSet.groups.lookup applicationGroupKey)
    "Config update has missing application group"
  Except.failIf (writeSetApplication.version ≠ 1)
    s!"Config update for channel creation does not set application group version to 1, was {writeSetApplication.version}"
  let consortiumConfigValue ← Except.require (writeSet.values.lookup consortiumKey)
    "Consortium config value missing"
  let consortiumName ← Except.wrapf "Error reading unmarshaling consortium name"
    (dt.decodeConsortium consortiumConfigValue.value)
  let consortiumsConfig ← Except.require dt.support.consortiumsConfig
    "The ordering system channel does not appear to support creating channels"
  let consortiumConf ← Except.require (consortiumsConfig.lookup consortiumName)
    s!"Unknown consortium name: {consortiumName}"
  -- Go dereferences these groups of the system channel without a check
  let systemChannelGroup ← Except.require dt.support.configtxValidator.configProto.channelGroup
    nilDereference
  let consortiumGroup ← Except.require (systemChannelGroup.groupAt [consortiumsGroupKey, consortiumName])
    nilDereference
  let applicationGroups ← applicationMembers consortiumGroup.groups writeSetApplication.groups
  let ordererGroup ← Except.require (systemChannelGroup.groups.lookup ordererGroupKey) nilDereference
  newBundle dt.newPolicyManager channelHeaderId
    (dt.channelGroup systemChannelGroup ordererGroup
      (DefaultTemplator.applicationGroup consortiumConf applicationGroups) consortiumName)

structure SystemChannel where
  chainID : String
  sequence : UInt64
  configtxValidator : ValidatorImpl
  signer : Except String Unit
  filters : TxEnvelope → Except String Unit
  templator : DefaultTemplator

def SystemChannel.processStandardConfigUpdate (s : SystemChannel)
    (configUpdateEnv : ConfigUpdateEnvelope) : Except String (TxEnvelope × UInt64) := do
  let seq := s.sequence
  s.filters (.configUpdate s.chainID configUpdateEnv)
  let configEnvelope ← s.configtxValidator.proposeConfigUpdate configUpdateEnv
  let config ← createSignedEnvelope s.signer (.config s.chainID configEnvelope)
  s.filters config
  return (config, seq)

def SystemChannel.processConfigUpdateMsg (s : SystemChannel) (channelID : String)
    (configUpdateEnv : ConfigUpdateEnvelope) : Except String (TxEnvelope × UInt64) := do
  if channelID = s.chainID then s.processStandardConfigUpdate configUpdateEnv
  else
    let bundle ← s.templator.newChannelConfig channelID configUpdateEnv.configUpdate
    let newChannelConfigEnv ← bundle.proposeConfigUpdate configUpdateEnv
    let newChannelEnvConfig ← createSignedEnvelope s.signer (.config channelID newChannelConfigEnv)
    let wrappedOrdererTransaction ←
      createSignedEnvelope s.signer (.ordererTransaction s.chainID newChannelEnvConfig)
    s.filters wrappedOrdererTransaction
    return (wrappedOrdererTransaction, s.sequence)

theorem newBundle_eq_ok {newPolicyManager : ConfigGroup → Except String ManagerImpl} {channelID : String}
    {channelGroup : ConfigGroup} {vi : ValidatorImpl}
    (bundle : newBundle newPolicyManager channelID channelGroup = .ok vi) :
    ∃ policyManager, newPolicyManager channelGroup = .ok policyManager ∧
      newValidatorImpl channelID (some ⟨0, some channelGroup⟩) rootGroupKey policyManager = .ok vi := by
  unfold newBundle at bundle
  obtain ⟨_, -, bundle⟩ := Except.bind_eq_ok_iff.mp bundle
  obtain ⟨policyManager, manager, bundle⟩ := Except.bind_eq_ok_iff.mp bundle
  rw [Except.wrapf_eq_ok_iff] at manager bundle
  exact ⟨policyManager, manager, bundle⟩

theorem applicationMembers_eq_ok {members writeSetMembers applicationGroups : List (String × ConfigGroup)}
    (membersOk : applicationMembers members writeSetMembers = .ok applicationGroups) :
    (members = [] → applicationGroups = []) ∧
      (members ≠ [] → writeSetMembers ≠ [] ∧
        applicationGroups.map Prod.fst = writeSetMembers.map Prod.fst ∧
        ∀ entry ∈ applicationGroups, members.lookup entry.1 = some entry.2) := by
  unfold applicationMembers at membersOk
  by_cases emptyEq : members = []
  · subst emptyEq
    cases membersOk
    exact ⟨fun _ => rfl, fun ne => absurd rfl ne⟩
  · have written : writeSetMembers ≠ [] := by
      rintro rfl
      simp [emptyEq] at membersOk
    simp only [List.isEmpty_iff, emptyEq, written, if_false] at membersOk
    refine ⟨fun nilEq => absurd nilEq emptyEq, fun _ => ⟨written, ?_⟩⟩
    -- the loop keeps the names and takes each member's group from the consortium
    obtain ⟨keysOk, groups⟩ := @Except.mapM_keyed_eq_ok String ConfigGroup String ConfigGroup
      (fun key => Except.require (members.lookup key)
        "Attempted to include a member which is not in the consortium") writeSetMembers
      applicationGroups membersOk
    exact ⟨keysOk, fun entry entryOk => Except.require_eq_ok_iff.mp (groups entry entryOk)⟩

theorem newChannelConfig_eq_ok {dt : DefaultTemplator} {channelHeaderId : String}
    {configUpdate : ConfigUpdate} {vi : ValidatorImpl}
    (fresh : dt.newChannelConfig channelHeaderId configUpdate = .ok vi) :
    ∃ (writeSet writeSetApplication : ConfigGroup) (consortiumConfigValue : ConfigValue)
      (consortiumName : String) (consortiumsConfig : List (String × ConsortiumConfig))
      (consortiumConf : ConsortiumConfig) (systemChannelGroup consortiumGroup : ConfigGroup)
      (applicationGroups : List (String × ConfigGroup)) (ordererGroup : ConfigGroup),
      configUpdate.channelId = channelHeaderId ∧ configUpdate.writeSet = some writeSet ∧
      writeSet.groups.lookup applicationGroupKey = some writeSetApplication ∧
      writeSetApplication.version = 1 ∧
      writeSet.values.lookup consortiumKey = some consortiumConfigValue ∧
      dt.decodeConsortium consortiumConfigValue.value = .ok consortiumName ∧
      dt.support.consortiumsConfig = some consortiumsConfig ∧
      consortiumsConfig.lookup consortiumName = some consortiumConf ∧
      dt.support.configtxValidator.configProto.channelGroup = some systemChannelGroup ∧
      systemChannelGroup.groupAt [consortiumsGroupKey, consortiumName] = some consortiumGroup ∧
      applicationMembers consortiumGroup.groups writeSetApplication.groups = .ok applicationGroups ∧
      systemChannelGroup.groups.lookup ordererGroupKey = some ordererGroup ∧
      newBundle dt.newPolicyManager channelHeaderId (dt.channelGroup systemChannelGroup ordererGroup
        (DefaultTemplator.applicationGroup consortiumConf applicationGroups) consortiumName) = .ok vi := by
  unfold DefaultTemplator.newChannelConfig at fresh
  obtain ⟨_, channel, fresh⟩ := Except.bind_eq_ok_iff.mp fresh
  obtain ⟨writeSet, writeSetOk, fresh⟩ := Except.bind_eq_ok_iff.mp fresh
  obtain ⟨writeSetApplication, application, fresh⟩ := Except.bind_eq_ok_iff.mp fresh
  obtain ⟨_, version, fresh⟩ := Except.bind_eq_ok_iff.mp fresh
  obtain ⟨consortiumConfigValue, valueOk, fresh⟩ := Except.bind_eq_ok_iff.mp fresh
  obtain ⟨consortiumName, nameOk, fresh⟩ := Except.bind_eq_ok_iff.mp fresh
  obtain ⟨consortiumsConfig, consortiums, fresh⟩ := Except.bind_eq_ok_iff.mp fresh
  obtain ⟨consortiumConf, conf, fresh⟩ := Except.bind_eq_ok_iff.mp fresh
  obtain ⟨systemChannelGroup, system, fresh⟩ := Except.bind_eq_ok_iff.mp fresh
  obtain ⟨consortiumGroup, group, fresh⟩ := Except.bind_eq_ok_iff.mp fresh
  obtain ⟨applicationGroups, members, fresh⟩ := Except.bind_eq_ok_iff.mp fresh
  obtain ⟨ordererGroup, orderer, fresh⟩ := Except.bind_eq_ok_iff.mp fresh
  exact ⟨writeSet, writeSetApplication, consortiumConfigValue, consortiumName, consortiumsConfig,
    consortiumConf, systemChannelGroup, consortiumGroup, applicationGroups, ordererGroup,
    not_not.mp (Except.failIf_eq_ok_iff.mp channel), Except.require_eq_ok_iff.mp writeSetOk,
    Except.require_eq_ok_iff.mp application, not_not.mp (Except.failIf_eq_ok_iff.mp version),
    Except.require_eq_ok_iff.mp valueOk, Except.wrapf_eq_ok_iff.mp nameOk,
    Except.require_eq_ok_iff.mp consortiums, Except.require_eq_ok_iff.mp conf,
    Except.require_eq_ok_iff.mp system, Except.require_eq_ok_iff.mp group, members,
    Except.require_eq_ok_iff.mp orderer, fresh⟩

theorem processConfigUpdateMsg_create_eq_ok {s : SystemChannel} {channelID : String}
    {configUpdateEnv : ConfigUpdateEnvelope} {env : TxEnvelope} {seq : UInt64}
    (otherOk : channelID ≠ s.chainID)
    (processed : s.processConfigUpdateMsg channelID configUpdateEnv = .ok (env, seq)) :
    ∃ bundle configEnv, s.templator.newChannelConfig channelID configUpdateEnv.configUpdate = .ok bundle ∧
      bundle.proposeConfigUpdate configUpdateEnv = .ok configEnv ∧
      env = .ordererTransaction s.chainID (.config channelID configEnv) ∧ seq = s.sequence := by
  unfold SystemChannel.processConfigUpdateMsg at processed
  rw [if_neg otherOk] at processed
  obtain ⟨bundle, bundleOk, processed⟩ := Except.bind_eq_ok_iff.mp processed
  obtain ⟨configEnv, proposed, processed⟩ := Except.bind_eq_ok_iff.mp processed
  obtain ⟨inner, innerOk, processed⟩ := Except.bind_eq_ok_iff.mp processed
  obtain ⟨wrapped, wrappedOk, processed⟩ := Except.bind_eq_ok_iff.mp processed
  obtain ⟨_, -, processed⟩ := Except.bind_eq_ok_iff.mp processed
  -- signing leaves the envelope as it is
  obtain ⟨_, -, innerOk⟩ := Except.bind_eq_ok_iff.mp innerOk
  obtain ⟨_, -, wrappedOk⟩ := Except.bind_eq_ok_iff.mp wrappedOk
  cases Except.pure_eq_ok_iff.mp innerOk
  cases Except.pure_eq_ok_iff.mp wrappedOk
  cases Except.pure_eq_ok_iff.mp processed
  exact ⟨bundle, configEnv, bundleOk, proposed, rfl, rfl⟩

theorem zeroGroupsVersions_eq_map :
    ∀ groups : List (String × ConfigGroup),
      zeroGroupsVersions groups = groups.map fun entry => (entry.1, zeroVersions entry.2)
  | [] => rfl
  | (key, group) :: rest => by
      rw [zeroGroupsVersions, zeroGroupsVersions_eq_map rest, List.map_cons]

theorem zeroVersions_eq (group : ConfigGroup) :
    zeroVersions group = ⟨0, group.groups.map fun entry => (entry.1, zeroVersions entry.2),
      group.values.map fun entry => (entry.1, entry.2.zeroVersion),
      group.policies.map fun entry => (entry.1, entry.2.zeroVersion), group.modPolicy⟩ := by
  obtain ⟨version, groups, values, policies, modPolicy⟩ := group
  rw [zeroVersions, zeroGroupsVersions_eq_map]

mutual
theorem zeroVersions_keysDistinct :
    ∀ group : ConfigGroup, group.keysDistinct = true → (zeroVersions group).keysDistinct = true
  | ⟨version, groups, values, policies, modPolicy⟩, distinct => by
      rw [keysDistinct_iff] at distinct ⊢
      obtain ⟨groupsOk, valuesOk, policiesOk, below⟩ := distinct
      rw [zeroVersions, zeroGroupsVersions_eq_map]
      refine ⟨by simpa [Function.comp_def] using groupsOk, by simpa [Function.comp_def] using valuesOk,
        by simpa [Function.comp_def] using policiesOk, ?_⟩
      rw [← zeroGroupsVersions_eq_map]
      exact zeroGroupsVersions_keysDistinct groups below

theorem zeroGroupsVersions_keysDistinct :
    ∀ groups : List (String × ConfigGroup), (∀ entry ∈ groups, entry.2.keysDistinct = true) →
      ∀ entry ∈ zeroGroupsVersions groups, entry.2.keysDistinct = true
  | [], _ => by simp [zeroGroupsVersions]
  | (key, group) :: rest, every => by
      intro entry entryOk
      rw [zeroGroupsVersions, List.mem_cons] at entryOk
      rcases entryOk with rfl | entryOk
      · exact zeroVersions_keysDistinct group (every _ List.mem_cons_self)
      · exact zeroGroupsVersions_keysDistinct rest (fun other otherOk => every other (List.mem_cons_of_mem _ otherOk))
          entry entryOk
end

theorem inherit_keysDistinct (dt : DefaultTemplator) {group : ConfigGroup}
    (distinct : group.keysDistinct = true) : (dt.inherit group).keysDistinct = true := by
  unfold DefaultTemplator.inherit
  split_ifs
  · exact zeroVersions_keysDistinct group distinct
  · exact distinct

section Template

variable (dt : DefaultTemplator) (systemChannelGroup ordererGroup applicationGroup : ConfigGroup)
  (consortiumName : String)

theorem channelGroup_eq :
    dt.channelGroup systemChannelGroup ordererGroup applicationGroup consortiumName =
      ⟨0, [(ordererGroupKey, dt.inherit ordererGroup), (applicationGroupKey, dt.inherit applicationGroup)],
        (systemChannelGroup.values.setKey consortiumKey
          ⟨0, dt.encodeConsortium consortiumName, adminsPolicyKey⟩).map fun entry =>
            (entry.1, dt.inheritValue entry.2),
        systemChannelGroup.policies.map fun entry => (entry.1, dt.inheritPolicy entry.2),
        if dt.support.predictableChannelTemplate = some true then systemChannelGroup.modPolicy else ""⟩ := by
  unfold DefaultTemplator.channelGroup DefaultTemplator.inherit DefaultTemplator.inheritValue
    DefaultTemplator.inheritPolicy
  split_ifs
  · simp [zeroVersions, zeroGroupsVersions]
  · simp

theorem channelGroup_groupAt_orderer :
    (dt.channelGroup systemChannelGroup ordererGroup applicationGroup consortiumName).groupAt
      [ordererGroupKey] = some (dt.inherit ordererGroup) := by
  rw [channelGroup_eq]
  rfl

theorem channelGroup_groupAt_application :
    (dt.channelGroup systemChannelGroup ordererGroup applicationGroup consortiumName).groupAt
      [applicationGroupKey] = some (dt.inherit applicationGroup) := by
  rw [channelGroup_eq]
  rfl

theorem channelGroup_values_lookup {key : String} (keyOk : key ≠ consortiumKey) :
    (dt.channelGroup systemChannelGroup ordererGroup applicationGroup consortiumName).values.lookup key =
      (systemChannelGroup.values.lookup key).map dt.inheritValue := by
  rw [channelGroup_eq, List.lookup_map_snd, List.lookup_setKey, if_neg keyOk]

theorem channelGroup_policies_lookup (key : String) :
    (dt.channelGroup systemChannelGroup ordererGroup applicationGroup consortiumName).policies.lookup key =
      (systemChannelGroup.policies.lookup key).map dt.inheritPolicy := by
  rw [channelGroup_eq, List.lookup_map_snd]

theorem channelGroup_keysDistinct (system : systemChannelGroup.keysDistinct = true)
    (orderer : ordererGroup.keysDistinct = true) (application : applicationGroup.keysDistinct = true) :
    (dt.channelGroup systemChannelGroup ordererGroup applicationGroup consortiumName).keysDistinct = true := by
  obtain ⟨-, values, policies, -⟩ := (keysDistinct_iff systemChannelGroup).mp system
  rw [channelGroup_eq, keysDistinct_iff]
  refine ⟨by simp [ordererGroupKey, applicationGroupKey], ?_, ?_, ?_⟩
  · rw [List.map_fst_map_snd]
    exact List.nodup_keys_setKey _ _ values
  · rw [List.map_fst_map_snd]
    exact policies
  · intro entry entryOk
    simp only [List.mem_cons, List.not_mem_nil, or_false] at entryOk
    rcases entryOk with rfl | rfl
    · exact inherit_keysDistinct dt orderer
    · exact inherit_keysDistinct dt application

end Template

theorem consortiumsOf_lookup {decodePolicy : Bytes → Option Configtx.Policy} {channelGroup : ConfigGroup}
    {consortiumsConfig : List (String × ConsortiumConfig)}
    (consortiumsOk : consortiumsOf decodePolicy channelGroup = some consortiumsConfig) {name : String}
    {consortiumConf : ConsortiumConfig} (conf : consortiumsConfig.lookup name = some consortiumConf) :
    ∃ consortium, channelGroup.groupAt [consortiumsGroupKey, name] = some consortium ∧
      consortiumConf.channelCreationPolicy =
        (consortium.values.lookup channelCreationPolicyKey).bind fun value => decodePolicy value.value := by
  unfold consortiumsOf at consortiumsOk
  rw [Option.map_eq_some_iff] at consortiumsOk
  obtain ⟨consortiums, group, rfl⟩ := consortiumsOk
  rw [List.lookup_map_snd (fun consortium : ConfigGroup => (⟨(consortium.values.lookup
    channelCreationPolicyKey).bind fun value => decodePolicy value.value⟩ : ConsortiumConfig)),
    Option.map_eq_some_iff] at conf
  obtain ⟨consortium, consortiumOk, rfl⟩ := conf
  refine ⟨consortium, ?_, rfl⟩
  simp [ConfigGroup.groupAt, group, consortiumOk]

theorem inherit_groups_lookup (dt : DefaultTemplator) (group : ConfigGroup) (key : String) :
    (dt.inherit group).groups.lookup key = (group.groups.lookup key).map dt.inherit := by
  unfold DefaultTemplator.inherit
  split_ifs
  · rw [zeroVersions_eq, List.lookup_map_snd]
  · simp

theorem inherit_keysOf (dt : DefaultTemplator) (group : ConfigGroup) (kind : ElementKind) :
    (dt.inherit group).keysOf kind = group.keysOf kind := by
  unfold DefaultTemplator.inherit
  split_ifs
  · rw [zeroVersions_eq]
    cases kind <;> simp only [ConfigGroup.keysOf, List.map_fst_map_snd]
  · rfl

theorem inherit_policies_lookup (dt : DefaultTemplator) (group : ConfigGroup) (key : String) :
    (dt.inherit group).policies.lookup key = (group.policies.lookup key).map dt.inheritPolicy := by
  unfold DefaultTemplator.inherit
  by_cases capability : dt.support.predictableChannelTemplate = some true
  · have zeroEq : dt.inheritPolicy = ConfigPolicy.zeroVersion := funext fun _ => if_pos capability
    rw [if_pos capability, zeroVersions_eq, List.lookup_map_snd, zeroEq]
  · have idOk : dt.inheritPolicy = id := funext fun _ => if_neg capability
    simp [capability, idOk]

theorem inherit_applicationGroup (dt : DefaultTemplator) (consortiumConf : ConsortiumConfig)
    (applicationGroups : List (String × ConfigGroup)) :
    (dt.inherit (DefaultTemplator.applicationGroup consortiumConf applicationGroups)).version = 0 ∧
      (dt.inherit (DefaultTemplator.applicationGroup consortiumConf applicationGroups)).modPolicy =
        channelCreationPolicyKey ∧
      (dt.inherit (DefaultTemplator.applicationGroup consortiumConf applicationGroups)).policies.lookup
        channelCreationPolicyKey = some ⟨0, consortiumConf.channelCreationPolicy, ""⟩ ∧
      (dt.inherit (DefaultTemplator.applicationGroup consortiumConf applicationGroups)).keysOf .group =
        applicationGroups.map Prod.fst := by
  refine ⟨?_, ?_, ?_, inherit_keysOf dt _ .group⟩
  · unfold DefaultTemplator.inherit
    split_ifs
    · rw [zeroVersions_eq]
    · rfl
  · unfold DefaultTemplator.inherit
    split_ifs
    · rw [zeroVersions_eq]; rfl
    · rfl
  · -- the policy is at version 0 already
    rw [inherit_policies_lookup]
    simp [DefaultTemplator.applicationGroup, DefaultTemplator.inheritPolicy, ConfigPolicy.zeroVersion]

theorem applicationGroup_keysDistinct {consortiumConf : ConsortiumConfig}
    {applicationGroups : List (String × ConfigGroup)} (keysOk : (applicationGroups.map Prod.fst).Nodup)
    (members : ∀ entry ∈ applicationGroups, entry.2.keysDistinct = true) :
    (DefaultTemplator.applicationGroup consortiumConf applicationGroups).keysDistinct = true := by
  rw [keysDistinct_iff]
  exact ⟨keysOk, List.nodup_nil, List.nodup_singleton _, members⟩

theorem applicationMembers_keysDistinct {members writeSetMembers applicationGroups : List (String × ConfigGroup)}
    (membersOk : applicationMembers members writeSetMembers = .ok applicationGroups)
    (consortium : ∀ entry ∈ members, entry.2.keysDistinct = true)
    (written : (writeSetMembers.map Prod.fst).Nodup) :
    (applicationGroups.map Prod.fst).Nodup ∧ ∀ entry ∈ applicationGroups, entry.2.keysDistinct = true := by
  obtain ⟨noneEq, isSome⟩ := applicationMembers_eq_ok membersOk
  by_cases emptyEq : members = []
  · rw [noneEq emptyEq]
    exact ⟨List.nodup_nil, by simp⟩
  · obtain ⟨-, keysOk, lookedUp⟩ := isSome emptyEq
    refine ⟨keysOk ▸ written, fun entry entryOk => ?_⟩
    exact consortium entry (by simpa using List.mem_of_lookup_eq_some (lookedUp entry entryOk))

theorem newChannelConfig_template {dt : DefaultTemplator} {channelHeaderId : String}
    {configUpdate : ConfigUpdate} {vi : ValidatorImpl} {systemChannelGroup writeRoot : ConfigGroup}
    (systemOk : dt.support.configtxValidator.configProto.channelGroup = some systemChannelGroup)
    (writeRootOk : configUpdate.writeSet = some writeRoot)
    (fresh : dt.newChannelConfig channelHeaderId configUpdate = .ok vi) :
    ∃ (consortiumName : String) (consortium : ConfigGroup) (consortiumConf : ConsortiumConfig)
      (writeSetApplication ordererGroup : ConfigGroup) (applicationGroups : List (String × ConfigGroup))
      (policyManager : ManagerImpl),
      (∃ value, writeRoot.values.lookup consortiumKey = some value ∧
        dt.decodeConsortium value.value = .ok consortiumName) ∧
      systemChannelGroup.groupAt [consortiumsGroupKey, consortiumName] = some consortium ∧
      consortiumConf.channelCreationPolicy = (consortium.values.lookup channelCreationPolicyKey).bind
        (fun value => dt.support.decodePolicy value.value) ∧
      writeRoot.groups.lookup applicationGroupKey = some writeSetApplication ∧
      writeSetApplication.version = 1 ∧
      applicationMembers consortium.groups writeSetApplication.groups = .ok applicationGroups ∧
      systemChannelGroup.groups.lookup ordererGroupKey = some ordererGroup ∧
      newValidatorImpl channelHeaderId (some ⟨0, some (dt.channelGroup systemChannelGroup ordererGroup
        (DefaultTemplator.applicationGroup consortiumConf applicationGroups) consortiumName)⟩)
        rootGroupKey policyManager = .ok vi := by
  obtain ⟨writeSet, writeSetApplication, value, consortiumName, consortiumsConfig, consortiumConf,
    systemChannelGroup', consortium, applicationGroups, ordererGroup, -, writeSetOk, application,
    version, valueOk, nameOk, consortiumsOk, conf, system', consortiumOk, members, orderer, bundle⟩ :=
    newChannelConfig_eq_ok fresh
  rw [writeRootOk, Option.some_inj] at writeSetOk
  rw [systemOk, Option.some_inj] at system'
  subst writeSetOk system'
  -- the consortiums config is read from the same system channel group
  rw [DefaultTemplatorSupport.consortiumsConfig, systemOk, Option.bind_some] at consortiumsOk
  obtain ⟨consortium', consortiumOk', policyOk⟩ := consortiumsOf_lookup consortiumsOk conf
  rw [consortiumOk, Option.some_inj] at consortiumOk'
  subst consortiumOk'
  obtain ⟨policyManager, -, viOk⟩ := newBundle_eq_ok bundle
  exact ⟨consortiumName, consortium, consortiumConf, writeSetApplication, ordererGroup, applicationGroups,
    policyManager, ⟨value, valueOk, nameOk⟩, consortiumOk, policyOk, application, version, members,
    orderer, viOk⟩

theorem channelGroup_groupAt_member (dt : DefaultTemplator) (systemChannelGroup ordererGroup : ConfigGroup)
    (consortiumConf : ConsortiumConfig) (applicationGroups : List (String × ConfigGroup))
    (consortiumName org : String) :
    (dt.channelGroup systemChannelGroup ordererGroup
      (DefaultTemplator.applicationGroup consortiumConf applicationGroups) consortiumName).groupAt
        [applicationGroupKey, org] = (applicationGroups.lookup org).map dt.inherit := by
  rw [ConfigGroup.groupAt, ← groupAt_singleton, channelGroup_groupAt_application, Option.bind_some,
    groupAt_singleton, inherit_groups_lookup]
  rfl

theorem channelTemplate_keysDistinct (dt : DefaultTemplator) {systemChannelGroup writeRoot consortium
      writeSetApplication ordererGroup : ConfigGroup} {consortiumName : String} (consortiumConf : ConsortiumConfig)
    {applicationGroups : List (String × ConfigGroup)}
    (systemDistinct : systemChannelGroup.keysDistinct = true) (writeDistinct : writeRoot.keysDistinct = true)
    (consortiumOk : systemChannelGroup.groupAt [consortiumsGroupKey, consortiumName] = some consortium)
    (applicationOk : writeRoot.groups.lookup applicationGroupKey = some writeSetApplication)
    (membersOk : applicationMembers consortium.groups writeSetApplication.groups = .ok applicationGroups)
    (orderer : systemChannelGroup.groups.lookup ordererGroupKey = some ordererGroup) :
    (dt.channelGroup systemChannelGroup ordererGroup
      (DefaultTemplator.applicationGroup consortiumConf applicationGroups) consortiumName).keysDistinct = true := by
  have consortiumDistinct := keysDistinct_groupAt _ systemDistinct consortiumOk
  have writeApplicationDistinct := keysDistinct_groupAt [applicationGroupKey] writeDistinct
    (by rw [groupAt_singleton]; exact applicationOk)
  obtain ⟨memberKeys, memberDistinct⟩ := applicationMembers_keysDistinct membersOk
    ((keysDistinct_iff _).mp consortiumDistinct).2.2.2 ((keysDistinct_iff _).mp writeApplicationDistinct).1
  exact channelGroup_keysDistinct dt systemChannelGroup ordererGroup _ consortiumName systemDistinct
    (keysDistinct_groupAt [ordererGroupKey] systemDistinct (by rw [groupAt_singleton]; exact orderer))
    (applicationGroup_keysDistinct memberKeys memberDistinct)

theorem rebuilt_application_members {channelID : String} {root : ConfigGroup} {pm : ManagerImpl}
    {vi : ValidatorImpl} {configtx : ConfigUpdateEnvelope} (distinct : root.keysDistinct = true)
    (viOk : newValidatorImpl channelID (some ⟨0, some root⟩) rootGroupKey pm = .ok vi)
    {fullProposedConfig : ConfigMap} {updated : ConfigGroup}
    (authorized : vi.authorizeUpdate configtx = .ok fullProposedConfig)
    (rebuilt : configMapToConfig fullProposedConfig rootGroupKey = .ok updated)
    {writeRoot : ConfigGroup} (writeRootOk : configtx.configUpdate.writeSet = some writeRoot)
    (writeDistinct : writeRoot.keysDistinct = true) {writeSetApplication current : ConfigGroup}
    (applicationOk : writeRoot.groups.lookup applicationGroupKey = some writeSetApplication)
    (currentOk : root.groups.lookup applicationGroupKey = some current)
    {members applicationGroups : List (String × ConfigGroup)}
    (membersOk : applicationMembers members writeSetApplication.groups = .ok applicationGroups)
    (keysOk : current.keysOf .group = applicationGroups.map Prod.fst) (nonempty : members ≠ []) :
    ∃ application, updated.groupAt [applicationGroupKey] = some application ∧
      application.keysOf .group ≠ [] ∧ ∀ org ∈ application.keysOf .group, org ∈ members.map Prod.fst := by
  obtain ⟨writeNonempty, applicationKeys, lookedUp⟩ := (applicationMembers_eq_ok membersOk).2 nonempty
  have cleanRoot : Clean '/' [rootGroupKey] := by
    unfold Clean
    decide
  have clean : Clean '/' ([rootGroupKey] ++ [applicationGroupKey]) := by
    unfold Clean
    decide
  have updatedChild : applicationGroupKey ∈ updated.keysOf .group :=
    rebuilt_root_child rfl distinct viOk authorized rebuilt writeRootOk writeDistinct cleanRoot
      ((childAt_isSome_iff _ .group _).mp (by simp [ConfigGroup.childAt, applicationOk]))
      ((childAt_isSome_iff _ .group _).mp (by simp [ConfigGroup.childAt, currentOk]))
  have updatedSome : (updated.groups.lookup applicationGroupKey).isSome := by
    simpa [ConfigGroup.childAt] using (childAt_isSome_iff updated .group applicationGroupKey).mpr updatedChild
  obtain ⟨application, applicationOk'⟩ := Option.isSome_iff_exists.mp updatedSome
  -- the rebuilt group has the keys of the update's group or of the current one
  obtain ⟨source, sourceOk, sourceKeys⟩ := rebuilt_group_keys rfl distinct viOk authorized
    rebuilt writeRootOk writeDistinct clean (by rw [comparableAt_root_child, applicationOk']; rfl)
  have sourceGroups : source.keysOf .group = writeSetApplication.groups.map Prod.fst := by
    rcases sourceOk with written | existing
    · rw [comparableAt_root_child, applicationOk] at written
      cases written
      rfl
    · rw [comparableAt_root_child, currentOk] at existing
      cases existing
      rw [keysOk, applicationKeys]
  refine ⟨application, by rw [groupAt_singleton, applicationOk'], ?_, ?_⟩
  · obtain ⟨entry, entryOk⟩ := List.exists_mem_of_ne_nil _ writeNonempty
    have memberFact : entry.1 ∈ application.keysOf .group := by
      rw [sourceKeys .group, sourceGroups]
      exact List.mem_map_of_mem entryOk
    exact List.ne_nil_of_mem memberFact
  · intro org orgOk
    rw [sourceKeys .group, sourceGroups, ← applicationKeys] at orgOk
    obtain ⟨entry, entryOk, rfl⟩ := List.mem_map.mp orgOk
    exact List.mem_map_of_mem (List.mem_of_lookup_eq_some (lookedUp entry entryOk))

def sampleSystemGroup : ConfigGroup :=
  ⟨0, [(ordererGroupKey, ⟨1, [], [], [(adminsPolicyKey, ⟨0, none, adminsPolicyKey⟩)], adminsPolicyKey⟩),
    (consortiumsGroupKey, ⟨0, [("SampleConsortium",
      ⟨0, [], [(channelCreationPolicyKey, ⟨0, [], adminsPolicyKey⟩)], [], adminsPolicyKey⟩)], [], [],
      adminsPolicyKey⟩)], [], [], adminsPolicyKey⟩

def sampleChannelManager : ManagerImpl :=
  ⟨rootGroupKey, [], [(applicationGroupKey, ⟨"Channel/Application",
      [(channelCreationPolicyKey, fun _ => .ok ())], []⟩),
    (ordererGroupKey, ⟨"Channel/Orderer",
      [(adminsPolicyKey, fun _ => .error "signature set did not satisfy policy")], []⟩)]⟩

def sampleTemplator : DefaultTemplator :=
  ⟨⟨fun _ => none, some true, ⟨"syschannel", 0,
      ((mapConfig (some sampleSystemGroup) rootGroupKey).toOption.getD ConfigMap.empty),
      ⟨0, some sampleSystemGroup⟩, rootGroupKey, sampleChannelManager⟩⟩,
    fun _ => .ok "SampleConsortium", fun _ => [], fun _ => .ok sampleChannelManager⟩

def sampleSystemChannel : SystemChannel :=
  ⟨"syschannel", 5, sampleTemplator.support.configtxValidator, .ok (), fun _ => .ok (), sampleTemplator⟩

def sampleCreationWriteSet : ConfigGroup :=
  ⟨0, [(applicationGroupKey, ⟨1, [], [], [], adminsPolicyKey⟩)], [(consortiumKey, ⟨0, [], ""⟩)], [], ""⟩

def sampleCreation : ConfigUpdateEnvelope :=
  ⟨⟨"newchannel",
    some ⟨0, [(applicationGroupKey, ⟨0, [], [], [], ""⟩)], [(consortiumKey, ⟨0, [], ""⟩)], [], ""⟩,
    some sampleCreationWriteSet⟩, []⟩

end Fabric.Msgprocessor
