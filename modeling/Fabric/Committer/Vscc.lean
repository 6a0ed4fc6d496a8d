import Mathlib.Data.List.Sort
import Fabric.Lib.Basic
import Fabric.Ledger.Rwset
import Fabric.Policy.Cauthdsl

/-! `core/committer/txvalidator` (`VsccValidatorImpl.VSCCValidateTx`) and the built-in validation
plugin of `core/handlers/validation/builtin`: which namespaces an endorser transaction writes,
and which endorsement policy its endorsements are checked against.

Protobuf decoding is not modelled: a transaction is given by its decoded fields, and a serialized
policy by what the policy provider decodes it to. -/

namespace Fabric.Txvalidator

open Rwset Cauthdsl

/-- `scc.SystemChaincode`: its name and where it may be invoked from. -/
structure SystemChaincode where
  name : String
  invokableExternal : Bool
  invokableCC2CC : Bool
  deriving DecidableEq, Repr

/-- `scc.Provider`, with the system chaincodes it registered. -/
structure Provider where
  sysCCs : List SystemChaincode

/-- `vscc` and `escc` are no longer registered but still count as system chaincodes that
cannot be invoked. -/
def isDeprecatedSysCC (name : String) : Bool := name == "vscc" || name == "escc"

def Provider.isSysCC (p : Provider) (name : String) : Bool :=
  p.sysCCs.any (fun sysCC => sysCC.name == name) || isDeprecatedSysCC name

def Provider.isSysCCAndNot (invokable : SystemChaincode → Bool) (p : Provider) (name : String) :
    Bool :=
  match p.sysCCs.find? (fun sysCC => sysCC.name == name) with
  | some sysCC => !invokable sysCC
  | none => isDeprecatedSysCC name

def Provider.isSysCCAndNotInvokableCC2CC (p : Provider) (name : String) : Bool :=
  p.isSysCCAndNot SystemChaincode.invokableCC2CC name

def Provider.isSysCCAndNotInvokableExternal (p : Provider) (name : String) : Bool :=
  p.isSysCCAndNot SystemChaincode.invokableExternal name

def builtInSystemChaincodes : List SystemChaincode :=
  [⟨"cscc", true, false⟩, ⟨"lscc", true, true⟩, ⟨"qscc", true, true⟩]

inductive MSPRoleType where
  | member
  | admin
  | client
  | peer
  deriving DecidableEq, Repr

structure MSPRole where
  role : MSPRoleType
  mspIdentifier : String
  deriving DecidableEq, Repr

/-- `signedByAnyOfGivenRole`: one signature of the role from any of the MSPs, listed in the order
`sort.Strings` puts their ids in. -/
def signedByAnyOfGivenRole (role : MSPRoleType) (ids : List String) :
    SignaturePolicyEnvelope MSPRole :=
  let ids := ids.insertionSort fun a b : String => a ≤ b
  ⟨0, .nOutOf 1 ((List.range ids.length).map fun i => .signedBy i),
    ids.map fun id => ⟨role, id⟩⟩

def signedByAnyMember (ids : List String) : SignaturePolicyEnvelope MSPRole :=
  signedByAnyOfGivenRole .member ids

inductive SerializedPolicy where
  | envelope (envelope : SignaturePolicyEnvelope MSPRole)
  | malformed (err : String)

def SerializedPolicy.isEmpty : SerializedPolicy → Bool
  | .envelope ⟨0, .empty, []⟩ => true
  | _ => false

structure SerializedIdentity where
  mspid : String
  idBytes : Bytes
  deriving DecidableEq, Repr

structure Endorsement where
  endorser : Bytes
  signature : Bytes
  deriving DecidableEq, Repr

structure ChaincodeID where
  name : String
  version : String
  deriving DecidableEq, Repr

structure Transaction where
  headerType : HeaderType
  channelId : String
  txId : String
  headerChaincodeId : Option String
  actionChaincodeId : Option ChaincodeID
  event : Option (Except String String)
  results : TxRwSet Bytes
  proposalResponsePayload : Bytes
  endorsements : List Endorsement

/-- `ccprovider.ChaincodeData`, the fields validation reads. -/
structure ChaincodeData where
  name : String
  version : String
  vscc : String
  policy : SerializedPolicy

structure Support (Identity : Type) where
  v1_2Validation : Bool
  privateChannelData : Bool
  mspIDs : List String
  lsccState : String → Option (Except String ChaincodeData)
  deserializer : IdentityDeserializer Identity MSPRole
  unmarshalSerializedIdentity : Bytes → Except String SerializedIdentity

inductive TxValidationError where
  | endorsementPolicy (err : String)
  | executionFailure (err : String)
  deriving DecidableEq, Repr

inductive PluginError where
  | executionFailure (reason : String)
  | other (err : String)
  deriving DecidableEq, Repr

/-- `txvalidator.Context`: what the validator hands a plugin. -/
structure Context where
  tx : Transaction
  namespace_ : String
  policy : SerializedPolicy
  vsccName : String

def duplicatedIdentityError : String :=
  "Endorsement policy evaluation failure might be caused by duplicated identities"

variable {Identity : Type} (support : Support Identity)

def evaluatePolicy (policyBytes : SerializedPolicy) (signatureSet : List SignedData) :
    Except String Unit :=
  match policyBytes with
  | .malformed err => .error s!"Error unmarshaling to SignaturePolicy: {err}"
  | .envelope sigPolicy => do
      let policy ← newPolicy sigPolicy
      policyEvaluate support.deserializer policy signatureSet

def deduplicateIdentityFrom (prespBytes : Bytes) (seen : List Bytes) :
    List Endorsement → Except String (List SignedData)
  | [] => .ok []
  | endorsement :: endorsements =>
      match support.unmarshalSerializedIdentity endorsement.endorser with
      | .error err => .error s!"Unmarshal endorser error: {err}"
      | .ok serializedIdentity =>
          let identity := serializedIdentity.mspid.toUTF8.toList ++ serializedIdentity.idBytes
          if identity ∈ seen then deduplicateIdentityFrom prespBytes seen endorsements
          else do
            let signatureSet ← deduplicateIdentityFrom prespBytes (identity :: seen) endorsements
            pure (⟨prespBytes ++ endorsement.endorser, endorsement.endorser, endorsement.signature⟩ ::
              signatureSet)

def deduplicateIdentity (tx : Transaction) : Except String (List SignedData) :=
  deduplicateIdentityFrom support tx.proposalResponsePayload [] tx.endorsements

def validate (validateLSCCInvocation : Transaction → Except TxValidationError Unit)
    (tx : Transaction) (policyBytes : SerializedPolicy) : Except TxValidationError Unit := do
  -- `validateLSCCInvocation` stands for the checks of lscc deploy and upgrade transactions
  if tx.headerType ≠ .endorserTransaction then
    throw (.endorsementPolicy
      s!"Only Endorser Transactions are supported, provided type {tx.headerType.number}")
  let signatureSet ← (deduplicateIdentity support tx).mapError .endorsementPolicy
  match evaluatePolicy support policyBytes signatureSet with
  | .error err =>
      -- fewer signers than endorsements: duplicated identities may be why
      if signatureSet.length < tx.endorsements.length then
        throw (.endorsementPolicy duplicatedIdentityError)
      else throw (.endorsementPolicy s!"VSCC error: endorsement policy failure, err: {err}")
  | .ok () =>
      if tx.headerChaincodeId = some "lscc" then validateLSCCInvocation tx else pure ()

def convertErrorType : TxValidationError → PluginError
  | .executionFailure err => .executionFailure err
  | .endorsementPolicy err => .other err

def defaultValidation (validateLSCCInvocation : Transaction → Except TxValidationError Unit)
    (ctx : Context) : Except PluginError Unit :=
  (validate support validateLSCCInvocation ctx.tx ctx.policy).mapError convertErrorType

structure VsccValidator (Identity : Type) where
  support : Support Identity
  sccprovider : Provider
  pluginFactoryByName : String → Option (Context → Except PluginError Unit)

structure ChaincodeInstance where
  chainID : String
  chaincodeName : String
  chaincodeVersion : String
  deriving DecidableEq, Repr

def sysCCVersion : String := "latest"

structure WriteInfo where
  wrNamespace : List String
  writesToLSCC : Bool
  writesToNonInvokableSCC : Bool
  deriving DecidableEq, Repr

variable (v : VsccValidator Identity)

def txWritesToNamespace (ns : NsRwSet Bytes) : Bool :=
  !ns.writes.isEmpty ||
    (v.support.privateChannelData && ns.collHashedRwSets.any fun c => !c.hashedWrites.isEmpty)

def collectWrite (ccID : String) (alwaysEnforceOriginalNamespace : Bool) (info : WriteInfo)
    (ns : NsRwSet Bytes) : WriteInfo :=
  if !txWritesToNamespace v ns then info
  else
    { wrNamespace :=
        -- with the original namespace always enforced, the invoked chaincode is listed already
        if ns.nameSpace ≠ ccID ∨ !alwaysEnforceOriginalNamespace then
          info.wrNamespace ++ [ns.nameSpace]
        else info.wrNamespace
      writesToLSCC := info.writesToLSCC || ns.nameSpace == "lscc"
      writesToNonInvokableSCC := info.writesToNonInvokableSCC ||
        v.sccprovider.isSysCCAndNotInvokableCC2CC ns.nameSpace ||
        v.sccprovider.isSysCCAndNotInvokableExternal ns.nameSpace }

def writeInfo (tx : Transaction) (ccID : String) : WriteInfo :=
  let alwaysEnforceOriginalNamespace := v.support.v1_2Validation
  tx.results.nsRwSets.foldl (collectWrite v ccID alwaysEnforceOriginalNamespace)
    ⟨if alwaysEnforceOriginalNamespace then [ccID] else [], false, false⟩

def getCDataForCC (ccid : String) : Except String ChaincodeData :=
  match v.support.lsccState ccid with
  | none => .error s!"lscc\x27s state for [{ccid}] not found."
  | some (.error err) => .error s!"unmarshalling ChaincodeQueryResponse failed: {err}"
  | some (.ok cd) =>
      if cd.vscc = "" then
        .error s!"lscc\x27s state for [{ccid}] is invalid, vscc field must be set"
      else if cd.policy.isEmpty then
        .error s!"lscc\x27s state for [{ccid}] is invalid, policy field must be set"
      else .ok cd

def getInfoForValidate (channelId ccID : String) :
    Except String (ChaincodeInstance × ChaincodeInstance × SerializedPolicy) :=
  let cc : ChaincodeInstance := ⟨channelId, ccID, sysCCVersion⟩
  let vscc : ChaincodeInstance := ⟨channelId, "vscc", sysCCVersion⟩
  if !v.sccprovider.isSysCC ccID then do
    let cd ← getCDataForCC v ccID
    pure ({ cc with chaincodeName := cd.name, chaincodeVersion := cd.version },
      { vscc with chaincodeName := cd.vscc }, cd.policy)
  else .ok (cc, vscc, .envelope (signedByAnyMember v.support.mspIDs))

def validateWithPlugin (ctx : Context) : Except PluginError Unit :=
  match v.pluginFactoryByName ctx.vsccName with
  | none => .error (.executionFailure
      s!"plugin with name {ctx.vsccName} couldn\x27t be used: plugin with name {ctx.vsccName} wasn\x27t found")
  | some plugin => plugin ctx

def vsccValidateTxForCC (ctx : Context) : Except TxValidationError Unit :=
  match validateWithPlugin v ctx with
  | .ok () => .ok ()
  | .error (.executionFailure reason) => .error (.executionFailure reason)
  | .error (.other err) => .error (.endorsementPolicy err)

def validationCode : TxValidationError → String × TxValidationCode
  | .endorsementPolicy err => (err, .endorsementPolicyFailure)
  | .executionFailure err => (err, .invalidOtherReason)

def checkInvocation (tx : Transaction) (ccID : String) (respChaincodeId : ChaincodeID) :
    Except (String × TxValidationCode) Unit := do
  let ccVer := respChaincodeId.version
  if ccID = "" then throw ("invalid chaincode ID", .invalidOtherReason)
  if ccID ≠ respChaincodeId.name then
    throw (s!"inconsistent ccid info ({ccID}/{respChaincodeId.name})", .invalidOtherReason)
  if ccVer = "" then throw ("invalid chaincode version", .invalidOtherReason)
  if v.support.v1_2Validation then
    match tx.event with
    | none => pure ()
    | some (.error err) => throw (s!"invalid chaincode event: {err}", .invalidOtherReason)
    | some (.ok eventChaincodeId) =>
        if eventChaincodeId ≠ ccID then
          throw ("chaincode event chaincode id does not match chaincode action chaincode id",
            .invalidOtherReason)

def checkChaincodeIds (tx : Transaction) : Except (String × TxValidationCode) (String × String) := do
  let some ccID := tx.headerChaincodeId
    | throw ("nil ChaincodeId in header extension", .invalidOtherReason)
  let some respChaincodeId := tx.actionChaincodeId
    | throw ("nil ChaincodeId in ChaincodeAction", .invalidOtherReason)
  checkInvocation v tx ccID respChaincodeId
  pure (ccID, respChaincodeId.version)

def validateNamespace (tx : Transaction) (ccID ccVer ns : String) :
    Except (String × TxValidationCode) Unit := do
  let (txcc, vscc, policy) ←
    (getInfoForValidate v tx.channelId ns).mapError fun err => (err, .invalidOtherReason)
  if ns = ccID ∧ txcc.chaincodeVersion ≠ ccVer then
    throw (s!"chaincode {ccID}:{ccVer}/{tx.channelId} didn\x27t match {txcc.chaincodeName}:{txcc.chaincodeVersion}/{tx.channelId} in lscc",
      .expiredChaincode)
  (vsccValidateTxForCC v ⟨tx, ns, policy, vscc.chaincodeName⟩).mapError validationCode

def validateApplication (tx : Transaction) (ccID ccVer : String) (info : WriteInfo) :
    Except (String × TxValidationCode) Unit := do
  if info.writesToLSCC then
    throw (s!"chaincode {ccID} attempted to write to the namespace of LSCC", .illegalWriteset)
  if info.writesToNonInvokableSCC then
    throw (s!"chaincode {ccID} attempted to write to the namespace of a system chaincode that cannot be invoked",
      .illegalWriteset)
  info.wrNamespace.forM fun ns => validateNamespace v tx ccID ccVer ns

def validateSystem (tx : Transaction) (ccID : String) : Except (String × TxValidationCode) Unit := do
  if v.sccprovider.isSysCCAndNotInvokableExternal ccID then
    throw (s!"committing an invocation of cc {ccID} is illegal", .illegalWriteset)
  let (_, vscc, policy) ←
    (getInfoForValidate v tx.channelId ccID).mapError fun err => (err, .invalidOtherReason)
  (vsccValidateTxForCC v ⟨tx, ccID, policy, vscc.chaincodeName⟩).mapError validationCode

def vsccValidateTx (tx : Transaction) : Except (String × TxValidationCode) Unit := do
  let (ccID, ccVer) ← checkChaincodeIds v tx
  if !v.sccprovider.isSysCC ccID then validateApplication v tx ccID ccVer (writeInfo v tx ccID)
  else validateSystem v tx ccID

structure WriteInfo.Records (p : Provider) (info : WriteInfo) (name : String) : Prop where
  listed : name ∈ info.wrNamespace
  lscc : name = "lscc" → info.writesToLSCC = true
  nonInvokable : p.isSysCCAndNotInvokableCC2CC name = true ∨
    p.isSysCCAndNotInvokableExternal name = true → info.writesToNonInvokableSCC = true

structure WriteInfo.Le (info info' : WriteInfo) : Prop where
  wrNamespace : info.wrNamespace ⊆ info'.wrNamespace
  writesToLSCC : info.writesToLSCC = true → info'.writesToLSCC = true
  writesToNonInvokableSCC :
    info.writesToNonInvokableSCC = true → info'.writesToNonInvokableSCC = true

theorem WriteInfo.Le.refl (info : WriteInfo) : info.Le info :=
  ⟨List.Subset.refl _, id, id⟩

theorem WriteInfo.Le.trans {info info' info'' : WriteInfo} (first : info.Le info')
    (second : info'.Le info'') : info.Le info'' :=
  ⟨List.Subset.trans first.wrNamespace second.wrNamespace, second.writesToLSCC ∘ first.writesToLSCC,
    second.writesToNonInvokableSCC ∘ first.writesToNonInvokableSCC⟩

theorem WriteInfo.Records.mono {p : Provider} {info info' : WriteInfo} {name : String}
    (recorded : info.Records p name) (le : info.Le info') : info'.Records p name :=
  ⟨le.wrNamespace recorded.listed, le.writesToLSCC ∘ recorded.lscc,
    le.writesToNonInvokableSCC ∘ recorded.nonInvokable⟩

variable {ccID : String} {alwaysEnforceOriginalNamespace : Bool}

theorem collectWrite_le (info : WriteInfo) (ns : NsRwSet Bytes) :
    info.Le (collectWrite v ccID alwaysEnforceOriginalNamespace info ns) := by
  unfold collectWrite
  split
  · exact WriteInfo.Le.refl info
  · refine ⟨?_, ?_, ?_⟩
    · split
      · exact List.subset_append_left _ _
      · exact List.Subset.refl _
    · intro before
      simp [before]
    · intro before
      simp [before]

theorem collectWrite_records {info : WriteInfo} {ns : NsRwSet Bytes}
    (written : txWritesToNamespace v ns = true)
    (original : alwaysEnforceOriginalNamespace = true → ccID ∈ info.wrNamespace) :
    (collectWrite v ccID alwaysEnforceOriginalNamespace info ns).Records v.sccprovider
      ns.nameSpace := by
  unfold collectWrite
  rw [written, Bool.not_true, if_neg Bool.false_ne_true]
  refine ⟨?_, ?_, ?_⟩
  · show ns.nameSpace ∈ (if _ then _ else _)
    split
    · exact List.mem_append_right _ List.mem_cons_self
    · next kept =>
        -- not appended: this is the invoked chaincode with the original namespace enforced
        simp only [not_or, not_not, Bool.not_eq_true', Bool.not_eq_false] at kept
        rw [kept.1]
        exact original kept.2
  · intro isLscc
    simp [isLscc]
  · intro nonInvokable
    rcases nonInvokable with cc2cc | external
    · simp [cc2cc]
    · simp [external]

theorem foldl_collectWrite_le :
    ∀ (nss : List (NsRwSet Bytes)) (info : WriteInfo),
      info.Le (nss.foldl (collectWrite v ccID alwaysEnforceOriginalNamespace) info)
  | [], info => WriteInfo.Le.refl info
  | ns :: nss, info =>
      (collectWrite_le v info ns).trans (foldl_collectWrite_le nss _)

theorem foldl_collectWrite_records :
    ∀ (nss : List (NsRwSet Bytes)) (info : WriteInfo),
      (alwaysEnforceOriginalNamespace = true → ccID ∈ info.wrNamespace) →
      ∀ ns ∈ nss, txWritesToNamespace v ns = true →
        (nss.foldl (collectWrite v ccID alwaysEnforceOriginalNamespace) info).Records
          v.sccprovider ns.nameSpace
  | [], _, _, _, member, _ => absurd member List.not_mem_nil
  | first :: nss, info, original, ns, member, written => by
      have kept : alwaysEnforceOriginalNamespace = true →
          ccID ∈ (collectWrite v ccID alwaysEnforceOriginalNamespace info first).wrNamespace :=
        fun enforced => (collectWrite_le v info first).wrNamespace (original enforced)
      rcases List.mem_cons.mp member with rfl | later
      · exact (collectWrite_records v written original).mono (foldl_collectWrite_le v nss _)
      · exact foldl_collectWrite_records nss _ kept ns later written

theorem writeInfo_records {tx : Transaction} {ns : NsRwSet Bytes}
    (member : ns ∈ tx.results.nsRwSets) (written : txWritesToNamespace v ns = true) :
    (writeInfo v tx ccID).Records v.sccprovider ns.nameSpace := by
  apply foldl_collectWrite_records v _ _ _ ns member written
  intro enforced
  simp [enforced]

theorem checkChaincodeIds_header {tx : Transaction} {ccVer : String}
    (ids : checkChaincodeIds v tx = .ok (ccID, ccVer)) : tx.headerChaincodeId = some ccID := by
  unfold checkChaincodeIds at ids
  cases header : tx.headerChaincodeId with
  | none => simp [header] at ids
  | some invoked =>
      cases action : tx.actionChaincodeId with
      | none => simp [header, action] at ids
      | some respChaincodeId =>
          simp only [header, action] at ids
          obtain ⟨_, -, returned⟩ := Except.bind_eq_ok_iff.mp ids
          rw [Except.pure_eq_ok_iff, Prod.mk.injEq] at returned
          rw [returned.1]

theorem vsccValidateTx_application {tx : Transaction} {ccVer : String}
    (valid : vsccValidateTx v tx = .ok ()) (ids : checkChaincodeIds v tx = .ok (ccID, ccVer))
    (app : v.sccprovider.isSysCC ccID = false) :
    validateApplication v tx ccID ccVer (writeInfo v tx ccID) = .ok () := by
  simpa [vsccValidateTx, ids, app] using valid

theorem vsccValidateTx_system {tx : Transaction} {ccVer : String}
    (ids : checkChaincodeIds v tx = .ok (ccID, ccVer)) (sys : v.sccprovider.isSysCC ccID = true) :
    vsccValidateTx v tx = validateSystem v tx ccID := by
  simp [vsccValidateTx, ids, sys]

theorem validateApplication_ok {tx : Transaction} {ccVer : String} {info : WriteInfo}
    (valid : validateApplication v tx ccID ccVer info = .ok ()) :
    info.writesToLSCC = false ∧ info.writesToNonInvokableSCC = false ∧
      ∀ ns ∈ info.wrNamespace, validateNamespace v tx ccID ccVer ns = .ok () := by
  unfold validateApplication at valid
  cases lscc : info.writesToLSCC
  · cases nonInvokable : info.writesToNonInvokableSCC
    · simp only [lscc, nonInvokable, Bool.false_eq_true, if_false] at valid
      exact ⟨rfl, rfl, Except.forM_eq_ok (by simpa using valid)⟩
    · simp [lscc, nonInvokable] at valid
  · simp [lscc] at valid

/-- On the application branch a VALID transaction writes neither `lscc` nor a system chaincode
that cannot be invoked, and each namespace it writes passed validation under what `lscc` holds
for it. -/
theorem vsccValidateTx_application_writes {tx : Transaction} {ccVer : String}
    (valid : vsccValidateTx v tx = .ok ()) (ids : checkChaincodeIds v tx = .ok (ccID, ccVer))
    (app : v.sccprovider.isSysCC ccID = false) {ns : NsRwSet Bytes}
    (member : ns ∈ tx.results.nsRwSets) (written : txWritesToNamespace v ns = true) :
    ns.nameSpace ≠ "lscc" ∧ v.sccprovider.isSysCCAndNotInvokableCC2CC ns.nameSpace = false ∧
      v.sccprovider.isSysCCAndNotInvokableExternal ns.nameSpace = false ∧
      validateNamespace v tx ccID ccVer ns.nameSpace = .ok () := by
  obtain ⟨noLscc, noNonInvokable, each⟩ :=
    validateApplication_ok v (vsccValidateTx_application v valid ids app)
  have recorded : (writeInfo v tx ccID).Records v.sccprovider ns.nameSpace :=
    writeInfo_records v member written
  refine ⟨fun isLscc => ?_, ?_, ?_, each _ recorded.listed⟩
  · simpa [noLscc] using recorded.lscc isLscc
  · exact Bool.eq_false_iff.mpr fun cc2cc => by
      simpa [noNonInvokable] using recorded.nonInvokable (.inl cc2cc)
  · exact Bool.eq_false_iff.mpr fun external => by
      simpa [noNonInvokable] using recorded.nonInvokable (.inr external)

variable {validateLSCCInvocation : Transaction → Except TxValidationError Unit}

theorem vsccValidateTxForCC_default
    (plugin : v.pluginFactoryByName "vscc" = some (defaultValidation v.support validateLSCCInvocation))
    (tx : Transaction) (ns : String) (policy : SerializedPolicy) :
    vsccValidateTxForCC v ⟨tx, ns, policy, "vscc"⟩ =
      validate v.support validateLSCCInvocation tx policy := by
  unfold vsccValidateTxForCC validateWithPlugin
  simp only [plugin]
  unfold defaultValidation
  cases validate v.support validateLSCCInvocation tx policy with
  | ok u => rfl
  | error e => cases e <;> rfl

theorem validateSystem_eq {tx : Transaction} (sys : v.sccprovider.isSysCC ccID = true) :
    validateSystem v tx ccID =
      if v.sccprovider.isSysCCAndNotInvokableExternal ccID = true then
        .error (s!"committing an invocation of cc {ccID} is illegal", .illegalWriteset)
      else
        (vsccValidateTxForCC v ⟨tx, ccID, .envelope (signedByAnyMember v.support.mspIDs), "vscc"⟩).mapError
          validationCode := by
  unfold validateSystem getInfoForValidate
  simp only [sys, Bool.not_true, Bool.false_eq_true, if_false]
  split
  · rfl
  · rfl

theorem validate_results {tx : Transaction} (results : TxRwSet Bytes)
    (policyBytes : SerializedPolicy) (notLscc : tx.headerChaincodeId ≠ some "lscc") :
    validate support validateLSCCInvocation { tx with results } policyBytes =
      validate support validateLSCCInvocation tx policyBytes := by
  simp [validate, deduplicateIdentity, notLscc]

theorem validate_of_not_lscc (g : Transaction → Except TxValidationError Unit) {tx : Transaction}
    {policyBytes : SerializedPolicy} (notLscc : tx.headerChaincodeId ≠ some "lscc") :
    validate support validateLSCCInvocation tx policyBytes = validate support g tx policyBytes := by
  simp [validate, notLscc]

/-- With `vscc` the built-in plugin, an invocation of a system chaincode other than `lscc` gets the
same verdict whatever namespaces it writes. -/
theorem vsccValidateTx_system_ignores_writes
    (plugin : v.pluginFactoryByName "vscc" = some (defaultValidation v.support validateLSCCInvocation))
    {tx : Transaction} {ccVer : String} (ids : checkChaincodeIds v tx = .ok (ccID, ccVer))
    (sys : v.sccprovider.isSysCC ccID = true) (notLscc : ccID ≠ "lscc") (results : TxRwSet Bytes) :
    vsccValidateTx v { tx with results } = vsccValidateTx v tx := by
  -- the checks before the loop do not read the write set either
  have ids' : checkChaincodeIds v { tx with results } = .ok (ccID, ccVer) := ids
  have header : tx.headerChaincodeId ≠ some "lscc" := by
    rw [checkChaincodeIds_header v ids]
    simpa using notLscc
  rw [vsccValidateTx_system v ids' sys, vsccValidateTx_system v ids sys, validateSystem_eq v sys,
    validateSystem_eq v sys, vsccValidateTxForCC_default v plugin,
    vsccValidateTxForCC_default v plugin, validate_results _ _ _ header]

def memberOfB : SignaturePolicyEnvelope MSPRole := ⟨0, .signedBy 0, [⟨.member, "B"⟩]⟩

def twoOrgSupport : Support String where
  v1_2Validation := true
  privateChannelData := true
  mspIDs := ["B", "A"]
  lsccState ccid :=
    if ccid = "mycc" then some (.ok ⟨"mycc", "1.0", "vscc", .envelope memberOfB⟩) else none
  deserializer :=
    { deserializeIdentity := fun bytes =>
        if bytes = [1] then some "A" else if bytes = [2] then some "B" else none
      mspid := fun identity => identity
      id := fun _ => "peer0"
      satisfiesPrincipal := fun identity principal =>
        principal.role == .member && principal.mspIdentifier == identity
      verify := fun _ _ _ => true }
  unmarshalSerializedIdentity bytes :=
    if bytes = [1] then .ok ⟨"A", [1]⟩ else if bytes = [2] then .ok ⟨"B", [2]⟩
    else .error "unexpected EOF"

def builtInValidator (validateLSCCInvocation : Transaction → Except TxValidationError Unit) :
    VsccValidator String where
  support := twoOrgSupport
  sccprovider := ⟨builtInSystemChaincodes⟩
  pluginFactoryByName name :=
    if name = "vscc" then some (defaultValidation twoOrgSupport validateLSCCInvocation) else none

def qsccWritingOthers : Transaction where
  headerType := .endorserTransaction
  channelId := "mychannel"
  txId := "tx1"
  headerChaincodeId := some "qscc"
  actionChaincodeId := some ⟨"qscc", "latest"⟩
  event := none
  results := ⟨[⟨"escc", [], [], [⟨[1], false, [7]⟩], []⟩, ⟨"mycc", [], [], [⟨[2], false, [8]⟩], []⟩]⟩
  proposalResponsePayload := [5]
  endorsements := [⟨[1], [9]⟩]

theorem checkChaincodeIds_qsccWritingOthers
    (validateLSCCInvocation : Transaction → Except TxValidationError Unit) :
    checkChaincodeIds (builtInValidator validateLSCCInvocation) qsccWritingOthers = .ok ("qscc", "latest") := by
  have support : (builtInValidator validateLSCCInvocation).support = twoOrgSupport := rfl
  unfold checkChaincodeIds checkInvocation
  rw [support]
  decide

theorem builtInValidator_isSysCC_qscc
    (validateLSCCInvocation : Transaction → Except TxValidationError Unit) :
    (builtInValidator validateLSCCInvocation).sccprovider.isSysCC "qscc" = true := by
  have provider :
      (builtInValidator validateLSCCInvocation).sccprovider = ⟨builtInSystemChaincodes⟩ := rfl
  rw [provider]
  decide

/-- Whatever the checks of `lscc` invocations are, the transaction is VALID although it writes
`escc`, which cannot be invoked, and `mycc`, whose policy its endorsements do not satisfy. -/
theorem qscc_invocation_writes_unchecked
    (validateLSCCInvocation : Transaction → Except TxValidationError Unit) :
    vsccValidateTx (builtInValidator validateLSCCInvocation) qsccWritingOthers = .ok () ∧
      qsccWritingOthers.results.nsRwSets.map (fun ns =>
        (ns.nameSpace, txWritesToNamespace (builtInValidator validateLSCCInvocation) ns)) =
        [("escc", true), ("mycc", true)] ∧
      Provider.isSysCCAndNotInvokableExternal ⟨builtInSystemChaincodes⟩ "escc" = true ∧
      ((deduplicateIdentity twoOrgSupport qsccWritingOthers).bind fun signatureSet =>
        evaluatePolicy twoOrgSupport (.envelope memberOfB) signatureSet) =
        .error "signature set did not satisfy policy" := by
  -- the validator reads the plugin only through `vscc`; its support and system chaincodes are fixed
  have support : (builtInValidator validateLSCCInvocation).support = twoOrgSupport := rfl
  have provider :
      (builtInValidator validateLSCCInvocation).sccprovider = ⟨builtInSystemChaincodes⟩ := rfl
  have ids := checkChaincodeIds_qsccWritingOthers validateLSCCInvocation
  have sys := builtInValidator_isSysCC_qscc validateLSCCInvocation
  refine ⟨?_, rfl, by decide, by decide⟩
  rw [vsccValidateTx_system _ ids sys, validateSystem_eq _ sys, vsccValidateTxForCC_default _ rfl,
    validate_of_not_lscc _ (fun _ => .ok ()) (by decide), support, provider]
  decide

theorem vsccValidateTx_system_ignores_writes_of_qscc :
    (builtInValidator fun _ => .ok ()).pluginFactoryByName "vscc" =
        some (defaultValidation (builtInValidator fun _ => .ok ()).support fun _ => .ok ()) ∧
      checkChaincodeIds (builtInValidator fun _ => .ok ()) qsccWritingOthers = .ok ("qscc", "latest") ∧
      (builtInValidator fun _ => .ok ()).sccprovider.isSysCC "qscc" = true ∧ "qscc" ≠ "lscc" ∧
      vsccValidateTx (builtInValidator fun _ => .ok ()) { qsccWritingOthers with results := ⟨[]⟩ } =
        vsccValidateTx (builtInValidator fun _ => .ok ()) qsccWritingOthers :=
  ⟨rfl, checkChaincodeIds_qsccWritingOthers _, builtInValidator_isSysCC_qscc _, by decide,
    vsccValidateTx_system_ignores_writes _ rfl (checkChaincodeIds_qsccWritingOthers _)
      (builtInValidator_isSysCC_qscc _) (by decide) ⟨[]⟩⟩

def myccWritingItself : Transaction where
  headerType := .endorserTransaction
  channelId := "mychannel"
  txId := "tx2"
  headerChaincodeId := some "mycc"
  actionChaincodeId := some ⟨"mycc", "1.0"⟩
  event := none
  results := ⟨[⟨"mycc", [], [], [⟨[2], false, [8]⟩], []⟩]⟩
  proposalResponsePayload := [5]
  endorsements := [⟨[2], [9]⟩]

theorem vsccValidateTx_application_writes_of_mycc :
    vsccValidateTx (builtInValidator fun _ => .ok ()) myccWritingItself = .ok () ∧
      checkChaincodeIds (builtInValidator fun _ => .ok ()) myccWritingItself = .ok ("mycc", "1.0") ∧
      (builtInValidator fun _ => .ok ()).sccprovider.isSysCC "mycc" = false ∧
      (⟨"mycc", [], [], [⟨[2], false, [8]⟩], []⟩ : NsRwSet Bytes) ∈ myccWritingItself.results.nsRwSets ∧
      txWritesToNamespace (builtInValidator fun _ => .ok ()) ⟨"mycc", [], [], [⟨[2], false, [8]⟩], []⟩ = true ∧
      "mycc" ≠ "lscc" ∧
      (builtInValidator fun _ => .ok ()).sccprovider.isSysCCAndNotInvokableCC2CC "mycc" = false ∧
      (builtInValidator fun _ => .ok ()).sccprovider.isSysCCAndNotInvokableExternal "mycc" = false ∧
      validateNamespace (builtInValidator fun _ => .ok ()) myccWritingItself "mycc" "1.0" "mycc" = .ok () := by
  have valid : vsccValidateTx (builtInValidator fun _ => .ok ()) myccWritingItself = .ok () := by
    decide
  have ids : checkChaincodeIds (builtInValidator fun _ => .ok ()) myccWritingItself = .ok ("mycc", "1.0") := by
    unfold checkChaincodeIds checkInvocation
    decide
  have app : (builtInValidator fun _ => .ok ()).sccprovider.isSysCC "mycc" = false := by
    decide
  exact ⟨valid, ids, app, List.mem_singleton_self _, rfl,
    vsccValidateTx_application_writes _ valid ids app (List.mem_singleton_self _) rfl⟩

end Fabric.Txvalidator
