import Fabric.Lib.Basic
import Fabric.Lib.ThresholdTree
import Fabric.Protos.Common

/-! `common/cauthdsl`: compilation of a `SignaturePolicyEnvelope` into an evaluator, and its
evaluation against a signature set (`cauthdsl.go`, `policy.go`).

The Go evaluator is a tree of closures that share a `used []bool` slice; here it is the
`ThresholdTree` the closures are built from, and `evaluate` threads `used` explicitly. -/

namespace Fabric.Cauthdsl

open ThresholdTree

/-- `common.SignaturePolicy`. `empty` is a nil rule and `unset` a rule whose `Type` is unset. -/
inductive SignaturePolicy where
  | nOutOf (n : Int) (rules : List SignaturePolicy)
  | signedBy (index : Int)
  | empty
  | unset

/-- `common.SignaturePolicyEnvelope`, over the principal type of the MSP. -/
structure SignaturePolicyEnvelope (Principal : Type) where
  version : Int
  rule : SignaturePolicy
  identities : List Principal

variable {Identity Principal : Type}

mutual
/-- `compile`: the gates keep their threshold, each `signedBy` leaf its principal. -/
def compile (identities : List Principal) : SignaturePolicy → Except String (ThresholdTree Principal)
  | .nOutOf n rules => do
      let policies ← compileRules identities rules
      pure (.gate n policies)
  | .signedBy index =>
      if h : index < 0 ∨ (identities.length : Int) ≤ index then
        .error s!"identity index out of range, requested {index}, but identies length is {identities.length}"
      else
        .ok (.leaf (identities.get ⟨index.toNat, by omega⟩))
  | .empty => .error "Empty policy element"
  | .unset => .error "Unknown type"
def compileRules (identities : List Principal) :
    List SignaturePolicy → Except String (List (ThresholdTree Principal))
  | [] => .ok []
  | rule :: rules => do
      let policy ← compile identities rule
      let policies ← compileRules identities rules
      pure (policy :: policies)
end

mutual
def signedByAt : SignaturePolicy → List Nat → Option Int
  | .signedBy index, [] => some index
  | .nOutOf _ rules, j :: path => rulesSignedByAt rules j path
  | _, _ => none
def rulesSignedByAt : List SignaturePolicy → Nat → List Nat → Option Int
  | [], _, _ => none
  | rule :: _, 0, path => signedByAt rule path
  | _ :: rules, j + 1, path => rulesSignedByAt rules j path
end

mutual
theorem compile_leafAt {identities : List Principal} :
    ∀ {rule : SignaturePolicy} {tree : ThresholdTree Principal} {path : List Nat} {principal : Principal},
      compile identities rule = .ok tree → leafAt tree path = some principal →
      ∃ index, signedByAt rule path = some index ∧ identities[index.toNat]? = some principal
  | .nOutOf n rules, tree, path, principal, compiled, atLeaf => by
      obtain ⟨policies, compiledRules, built⟩ := Except.bind_eq_ok_iff.mp compiled
      rw [Except.pure_eq_ok_iff] at built
      subst built
      cases path with
      | nil => simp [leafAt] at atLeaf
      | cons j path =>
          rw [leafAt_gate_cons] at atLeaf
          exact compileRules_childLeafAt compiledRules atLeaf
  | .signedBy index, tree, path, principal, compiled, atLeaf => by
      simp only [compile] at compiled
      split at compiled
      · cases compiled
      · cases compiled
        cases path with
        | cons _ _ => simp [leafAt] at atLeaf
        | nil =>
            simp only [leafAt, Option.some.injEq] at atLeaf
            subst atLeaf
            exact ⟨index, by simp [signedByAt], by simp⟩
  | .empty, _, _, _, compiled, _ => by simp [compile] at compiled
  | .unset, _, _, _, compiled, _ => by simp [compile] at compiled
theorem compileRules_childLeafAt {identities : List Principal} :
    ∀ {rules : List SignaturePolicy} {trees : List (ThresholdTree Principal)} {j : Nat} {path : List Nat}
      {principal : Principal},
      compileRules identities rules = .ok trees → childLeafAt trees j path = some principal →
      ∃ index, rulesSignedByAt rules j path = some index ∧
        identities[index.toNat]? = some principal
  | [], trees, j, path, principal, compiled, atLeaf => by
      simp only [compileRules, Except.ok.injEq] at compiled
      subst compiled
      simp [childLeafAt] at atLeaf
  | rule :: rules, trees, j, path, principal, compiled, atLeaf => by
      obtain ⟨tree, compiledRule, rest⟩ := Except.bind_eq_ok_iff.mp compiled
      obtain ⟨trees', compiledRest, built⟩ := Except.bind_eq_ok_iff.mp rest
      rw [Except.pure_eq_ok_iff] at built
      subst built
      cases j with
      | zero =>
          rw [childLeafAt_cons_zero] at atLeaf
          simpa [rulesSignedByAt] using compile_leafAt compiledRule atLeaf
      | succ j =>
          rw [childLeafAt_cons_succ] at atLeaf
          simpa [rulesSignedByAt] using compileRules_childLeafAt compiledRest atLeaf
end

/-- `provider.NewPolicy`, after unmarshalling the envelope. -/
def newPolicy (envelope : SignaturePolicyEnvelope Principal) : Except String (ThresholdTree Principal) :=
  if envelope.version ≠ 0 then
    .error s!"This evaluator only understands messages of version 0, but version was {envelope.version}"
  else
    compile envelope.identities envelope.rule

variable (msp : IdentityDeserializer Identity Principal)

def identityKey (identity : Identity) : String := msp.mspid identity ++ msp.id identity

def deduplicateFrom (ids : List String) : List SignedData → List SignedData
  | [] => []
  | sd :: sds =>
      match msp.deserializeIdentity sd.identity with
      | none => deduplicateFrom ids sds
      | some identity =>
          if identityKey msp identity ∈ ids then deduplicateFrom ids sds
          else sd :: deduplicateFrom (identityKey msp identity :: ids) sds

/-- `deduplicate`: drops undeserializable signers and every repeat of a signer. -/
def deduplicate (sds : List SignedData) : List SignedData := deduplicateFrom msp [] sds

def signerKey (sd : SignedData) : Option String :=
  (msp.deserializeIdentity sd.identity).map (identityKey msp)

theorem deduplicateFrom_sublist (ids : List String) (sds : List SignedData) :
    (deduplicateFrom msp ids sds).Sublist sds := by
  induction sds generalizing ids with
  | nil => simp [deduplicateFrom]
  | cons sd sds ih =>
      simp only [deduplicateFrom]
      split
      · exact (ih ids).cons sd
      · split
        · exact (ih ids).cons sd
        · exact (ih _).cons_cons sd

theorem deduplicateFrom_keys (ids : List String) (sds : List SignedData) :
    ((deduplicateFrom msp ids sds).map (signerKey msp)).Nodup ∧
      ∀ sd ∈ deduplicateFrom msp ids sds, ∃ key, signerKey msp sd = some key ∧ key ∉ ids := by
  induction sds generalizing ids with
  | nil => simp [deduplicateFrom]
  | cons sd sds ih =>
      simp only [deduplicateFrom]
      cases deserialized : msp.deserializeIdentity sd.identity with
      | none => exact ih ids
      | some identity =>
          simp only
          by_cases seen : identityKey msp identity ∈ ids
          · rw [if_pos seen]
            exact ih ids
          rw [if_neg seen]
          obtain ⟨distinct, fresh⟩ := ih (identityKey msp identity :: ids)
          have keyed : signerKey msp sd = some (identityKey msp identity) := by
            simp [signerKey, deserialized]
          refine ⟨?_, ?_⟩
          · rw [List.map_cons, List.nodup_cons]
            refine ⟨?_, distinct⟩
            intro repeated
            obtain ⟨later, member, same⟩ := List.mem_map.mp repeated
            obtain ⟨key, laterKeyed, unseen⟩ := fresh later member
            rw [laterKeyed, keyed, Option.some.injEq] at same
            exact unseen (same ▸ List.mem_cons_self)
          · intro kept member
            rcases List.mem_cons.mp member with rfl | later
            · exact ⟨_, keyed, seen⟩
            · obtain ⟨key, laterKeyed, unseen⟩ := fresh kept later
              exact ⟨key, laterKeyed, fun old => unseen (List.mem_cons_of_mem _ old)⟩

def signerKeyAt (signedData : List SignedData) (i : Nat) : Option String :=
  (signedData[i]?).bind (signerKey msp)

def firstMatch (principal : Principal) (used : List Bool) : List SignedData → Nat → Option Nat
  | [], _ => none
  | sd :: sds, i =>
      if used.getD i false then firstMatch principal used sds (i + 1)
      else
        match msp.deserializeIdentity sd.identity with
        | none => firstMatch principal used sds (i + 1)
        | some identity =>
            if !msp.satisfiesPrincipal identity principal then firstMatch principal used sds (i + 1)
            else if !msp.verify identity sd.data sd.signature then
              firstMatch principal used sds (i + 1)
            else some i

mutual
def evaluate : ThresholdTree Principal → List SignedData → List Bool → Bool × List Bool
  -- a gate hands each child a copy of `used` and keeps the copy only when the child succeeds
  | .leaf principal, signedData, used =>
      match firstMatch msp principal used signedData 0 with
      | some i => (true, used.set i true)
      | none => (false, used)
  | .gate n policies, signedData, used =>
      let (verified, used) := evaluateGate policies signedData used 0
      (decide (n ≤ verified), used)
def evaluateGate : List (ThresholdTree Principal) → List SignedData → List Bool → Int → Int × List Bool
  | [], _, used, verified => (verified, used)
  | policy :: policies, signedData, used, verified =>
      let (ok, used') := evaluate policy signedData used
      if ok then evaluateGate policies signedData used' (verified + 1)
      else evaluateGate policies signedData used verified
end

@[simp] theorem evaluate_leaf (principal : Principal) (signedData : List SignedData)
    (used : List Bool) :
    evaluate msp (.leaf principal) signedData used =
      match firstMatch msp principal used signedData 0 with
      | some i => (true, used.set i true)
      | none => (false, used) := by
  simp [evaluate]

@[simp] theorem evaluate_gate (n : Int) (policies : List (ThresholdTree Principal))
    (signedData : List SignedData) (used : List Bool) :
    evaluate msp (.gate n policies) signedData used =
      (decide (n ≤ (evaluateGate msp policies signedData used 0).1),
        (evaluateGate msp policies signedData used 0).2) := by
  simp [evaluate]

@[simp] theorem evaluateGate_nil (signedData : List SignedData) (used : List Bool)
    (verified : Int) :
    evaluateGate msp [] signedData used verified = (verified, used) := by
  simp [evaluateGate]

@[simp] theorem evaluateGate_cons (policy : ThresholdTree Principal) (policies : List (ThresholdTree Principal))
    (signedData : List SignedData) (used : List Bool) (verified : Int) :
    evaluateGate msp (policy :: policies) signedData used verified =
      if (evaluate msp policy signedData used).1 then
        evaluateGate msp policies signedData (evaluate msp policy signedData used).2 (verified + 1)
      else evaluateGate msp policies signedData used verified := by
  simp only [evaluateGate]

/-- `policy.Evaluate`: the evaluator runs on the de-duplicated signatures with a fresh `used`
slice as long as the original signature set. -/
def policyEvaluate (policy : ThresholdTree Principal) (signatureSet : List SignedData) :
    Except String Unit :=
  if (evaluate msp policy (deduplicate msp signatureSet)
      (List.replicate signatureSet.length false)).1 then .ok ()
  else .error "signature set did not satisfy policy"

end Fabric.Cauthdsl
