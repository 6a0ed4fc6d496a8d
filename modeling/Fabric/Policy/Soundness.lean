import Mathlib.Data.List.Nodup
import Fabric.Policy.Cauthdsl

/-! Soundness of signature-policy evaluation with respect to distinct signers.

Each accepted evaluation yields a matching of `signedBy` leaves (by path) to positions of the
de-duplicated signature list: injective, each signer satisfying its leaf's principal and
verifying, and choosing enough leaves to satisfy every gate. The invariant of one closure call
is `Matched`: the leaves it matched were unused before and are exactly what it marks. -/

namespace Fabric.Cauthdsl

open ThresholdTree

variable {Identity Principal : Type} (msp : IdentityDeserializer Identity Principal)

def SignerMatches (signedData : List SignedData) (i : Nat) (principal : Principal) : Prop :=
  ∃ sd identity, signedData[i]? = some sd ∧ msp.deserializeIdentity sd.identity = some identity ∧
    msp.satisfiesPrincipal identity principal = true ∧
    msp.verify identity sd.data sd.signature = true

def chosenBy (matching : List (List Nat × Nat)) (path : List Nat) : Bool :=
  decide (path ∈ matching.map Prod.fst)

theorem firstMatch_spec {principal : Principal} {used : List Bool} :
    ∀ {signedData : List SignedData} {i k : Nat},
      firstMatch msp principal used signedData i = some k →
      i ≤ k ∧ k < i + signedData.length ∧ used.getD k false = false ∧
        SignerMatches msp signedData (k - i) principal
  | [], _, _, found => by simp [firstMatch] at found
  | sd :: sds, i, k, found => by
      have next (later : firstMatch msp principal used sds (i + 1) = some k) :
          i ≤ k ∧ k < i + (sd :: sds).length ∧ used.getD k false = false ∧
            SignerMatches msp (sd :: sds) (k - i) principal := by
        obtain ⟨low, high, unused, identity⟩ := firstMatch_spec later
        have shift : k - i = (k - (i + 1)) + 1 := by omega
        refine ⟨by omega, by simp; omega, unused, ?_⟩
        rw [shift]
        simpa [SignerMatches] using identity
      simp only [firstMatch] at found
      by_cases usedHere : used.getD i false = true
      · rw [if_pos usedHere] at found
        exact next found
      rw [if_neg usedHere] at found
      cases deserialized : msp.deserializeIdentity sd.identity with
      | none =>
          simp only [deserialized] at found
          exact next found
      | some identity =>
          simp only [deserialized] at found
          by_cases satisfies : msp.satisfiesPrincipal identity principal = true
          · by_cases verifies : msp.verify identity sd.data sd.signature = true
            · simp only [satisfies, verifies, Bool.not_true, Bool.false_eq_true, if_false,
                Option.some.injEq] at found
              subst found
              refine ⟨le_refl _, by simp, by simpa using usedHere, ?_⟩
              exact ⟨sd, identity, by simp, deserialized, satisfies, verifies⟩
            · simp only [satisfies, verifies, Bool.not_true, Bool.false_eq_true, if_false,
                Bool.not_false, if_true] at found
              exact next found
          · simp only [satisfies, Bool.not_false, if_true] at found
            exact next found

theorem chosenBy_append_left {first : List (List Nat × Nat)} (second : List (List Nat × Nat))
    {path : List Nat} (chosen : chosenBy first path = true) :
    chosenBy (first ++ second) path = true := by
  simp only [chosenBy, decide_eq_true_eq, List.map_append, List.mem_append] at chosen ⊢
  exact Or.inl chosen

theorem chosenBy_append_right (first : List (List Nat × Nat)) {second : List (List Nat × Nat)}
    {path : List Nat} (chosen : chosenBy second path = true) :
    chosenBy (first ++ second) path = true := by
  simp only [chosenBy, decide_eq_true_eq, List.map_append, List.mem_append] at chosen ⊢
  exact Or.inr chosen

/-- `used'` is `used` with exactly the signers of `matching` marked, each unused before. -/
structure Marks (used used' : List Bool) (matching : List (List Nat × Nat)) : Prop where
  fresh : ∀ q i, (q, i) ∈ matching → used.getD i false = false
  signers_nodup : (matching.map Prod.snd).Nodup
  marks : ∀ i, used'.getD i false = true ↔ used.getD i false = true ∨ i ∈ matching.map Prod.snd
  length : used'.length = used.length

theorem Marks.nil (used : List Bool) : Marks used used [] :=
  ⟨by simp, by simp, by simp, rfl⟩

theorem Marks.single {used : List Bool} {i : Nat} (path : List Nat)
    (unused : used.getD i false = false) (bound : i < used.length) :
    Marks used (used.set i true) [(path, i)] := by
  refine ⟨?_, by simp, ?_, by simp⟩
  · intro q k member
    simp only [List.mem_singleton, Prod.mk.injEq] at member
    rw [member.2]
    exact unused
  · intro k
    by_cases same : k = i
    · subst same
      simp [List.getD_eq_getElem?_getD, bound]
    · simp [List.getD_eq_getElem?_getD, Ne.symm same, same]

theorem Marks.append {used middle used' : List Bool} {first second : List (List Nat × Nat)}
    (earlier : Marks used middle first) (later : Marks middle used' second) :
    Marks used used' (first ++ second) := by
  refine ⟨?_, ?_, ?_, later.length.trans earlier.length⟩
  · intro q i member
    rcases List.mem_append.mp member with inFirst | inSecond
    · exact earlier.fresh q i inFirst
    · have unmarked := later.fresh q i inSecond
      cases was : used.getD i false
      · rfl
      · have := (earlier.marks i).mpr (Or.inl was)
        simp_all
  · rw [List.map_append, List.nodup_append]
    refine ⟨earlier.signers_nodup, later.signers_nodup, ?_⟩
    intro i inFirst k inSecond same
    subst same
    obtain ⟨⟨q, i'⟩, member, rfl⟩ := List.mem_map.mp inSecond
    have unmarked := later.fresh q i' member
    have marked := (earlier.marks i').mpr (Or.inr inFirst)
    simp_all
  · intro i
    rw [later.marks i, earlier.marks i]
    simp only [List.map_append, List.mem_append]
    tauto

structure Matched (signedData : List SignedData) (tree : ThresholdTree Principal) (path : List Nat)
    (used used' : List Bool) (matching : List (List Nat × Nat)) : Prop where
  leaves : ∀ q i, (q, i) ∈ matching → ∃ r principal, q = path ++ r ∧
    leafAt tree r = some principal ∧ SignerMatches msp signedData i principal
  paths_nodup : (matching.map Prod.fst).Nodup
  marked : Marks used used' matching

structure GateMatched (signedData : List SignedData) (children : List (ThresholdTree Principal))
    (path : List Nat) (j : Nat) (used used' : List Bool) (verified verified' : Int)
    (matching : List (List Nat × Nat)) : Prop where
  leaves : ∀ q i, (q, i) ∈ matching → ∃ k r principal, q = path ++ (j + k) :: r ∧
    childLeafAt children k r = some principal ∧ SignerMatches msp signedData i principal
  paths_nodup : (matching.map Prod.fst).Nodup
  marked : Marks used used' matching
  counted : verified' ≤ verified + countSatisfied (chosenBy matching) children path j

mutual
theorem evaluate_matched (signedData : List SignedData) :
    ∀ (tree : ThresholdTree Principal) (path : List Nat) (used : List Bool),
      signedData.length ≤ used.length →
      ∃ matching, Matched msp signedData tree path used (evaluate msp tree signedData used).2
          matching ∧
        ((evaluate msp tree signedData used).1 = true →
          satisfiedBy (chosenBy matching) tree path = true)
  | .leaf principal, path, used, long => by
      rw [evaluate_leaf]
      cases found : firstMatch msp principal used signedData 0 with
      | none => exact ⟨[], ⟨by simp, by simp, Marks.nil used⟩, by simp⟩
      | some i =>
          obtain ⟨-, bound, unused, signer⟩ := firstMatch_spec msp found
          refine ⟨[(path, i)], ⟨?_, by simp, Marks.single path unused (by omega)⟩, ?_⟩
          · intro q k member
            simp only [List.mem_singleton, Prod.mk.injEq] at member
            obtain ⟨rfl, rfl⟩ := member
            exact ⟨[], principal, by simp, by simp [leafAt], by simpa using signer⟩
          · intro _
            simp [satisfiedBy, chosenBy]
  | .gate n children, path, used, long => by
      obtain ⟨matching, gate⟩ := evaluateGate_matched signedData children path 0 used 0 long
      refine ⟨matching, ⟨?_, gate.paths_nodup, gate.marked⟩, ?_⟩
      · intro q i member
        obtain ⟨k, r, principal, rfl, atLeaf, signer⟩ := gate.leaves q i member
        exact ⟨k :: r, principal, by simp, by simpa using atLeaf, signer⟩
      · intro accepted
        rw [evaluate_gate, decide_eq_true_eq] at accepted
        have counted := gate.counted
        simp only [satisfiedBy, decide_eq_true_eq]
        omega
theorem evaluateGate_matched (signedData : List SignedData) :
    ∀ (children : List (ThresholdTree Principal)) (path : List Nat) (j : Nat) (used : List Bool)
      (verified : Int), signedData.length ≤ used.length →
      ∃ matching, GateMatched msp signedData children path j used
        (evaluateGate msp children signedData used verified).2 verified
        (evaluateGate msp children signedData used verified).1 matching
  | [], path, j, used, verified, _ =>
      ⟨[], by simp, by simp, Marks.nil used, by simp [countSatisfied]⟩
  | child :: children, path, j, used, verified, long => by
      obtain ⟨first, matched, satisfied⟩ :=
        evaluate_matched signedData child (path ++ [j]) used long
      rw [evaluateGate_cons]
      by_cases accepted : (evaluate msp child signedData used).1 = true
      · -- the child's marks are kept: its matching joins those of the later children
        rw [if_pos accepted]
        have long' : signedData.length ≤ (evaluate msp child signedData used).2.length := by
          rw [matched.marked.length]
          exact long
        obtain ⟨second, rest⟩ :=
          evaluateGate_matched signedData children path (j + 1) _ (verified + 1) long'
        refine ⟨first ++ second, ⟨?_, ?_, matched.marked.append rest.marked, ?_⟩⟩
        · intro q i member
          rcases List.mem_append.mp member with inFirst | inSecond
          · obtain ⟨r, principal, rfl, atLeaf, signer⟩ := matched.leaves q i inFirst
            exact ⟨0, r, principal, by simp, by simpa using atLeaf, signer⟩
          · obtain ⟨k, r, principal, rfl, atLeaf, signer⟩ := rest.leaves q i inSecond
            exact ⟨k + 1, r, principal, by simp [Nat.add_right_comm, Nat.add_assoc], by simpa using atLeaf,
              signer⟩
        · rw [List.map_append, List.nodup_append]
          refine ⟨matched.paths_nodup, rest.paths_nodup, ?_⟩
          intro q inFirst q' inSecond same
          obtain ⟨⟨_, i⟩, memberFirst, rfl⟩ := List.mem_map.mp inFirst
          obtain ⟨⟨_, i'⟩, memberSecond, rfl⟩ := List.mem_map.mp inSecond
          obtain ⟨r, -, rfl, -⟩ := matched.leaves _ i memberFirst
          obtain ⟨k, r', -, rfl, -⟩ := rest.leaves _ i' memberSecond
          simp at same
          omega
        · have head := satisfiedBy_mono (fun q chosen => chosenBy_append_left second chosen)
            child (path ++ [j]) (satisfied accepted)
          have tail : countSatisfied (chosenBy second) children path (j + 1) ≤
              countSatisfied (chosenBy (first ++ second)) children path (j + 1) :=
            countSatisfied_mono (fun _ chosen => chosenBy_append_right first chosen)
              children path (j + 1)
          have counted := rest.counted
          simp only [countSatisfied, head, if_true]
          omega
      · -- the child's marks are dropped, so only the later children's matching remains
        rw [if_neg accepted]
        obtain ⟨second, rest⟩ :=
          evaluateGate_matched signedData children path (j + 1) used verified long
        refine ⟨second, ⟨?_, rest.paths_nodup, rest.marked, ?_⟩⟩
        · intro q i member
          obtain ⟨k, r, principal, rfl, atLeaf, signer⟩ := rest.leaves q i member
          exact ⟨k + 1, r, principal, by simp [Nat.add_right_comm, Nat.add_assoc], by simpa using atLeaf,
            signer⟩
        · have counted := rest.counted
          simp only [countSatisfied]
          split <;> omega
end

theorem deduplicate_signer_unique {signatureSet : List SignedData} {i i' : Nat}
    {principal principal' : Principal}
    (first : SignerMatches msp (deduplicate msp signatureSet) i principal)
    (second : SignerMatches msp (deduplicate msp signatureSet) i' principal')
    (same : signerKeyAt msp (deduplicate msp signatureSet) i =
      signerKeyAt msp (deduplicate msp signatureSet) i') : i = i' := by
  obtain ⟨sd, identity, found, deserialized, -⟩ := first
  obtain ⟨sd', identity', found', deserialized', -⟩ := second
  have distinct := (deduplicateFrom_keys msp [] signatureSet).1
  have bound : i < ((deduplicate msp signatureSet).map (signerKey msp)).length := by
    simpa using (List.getElem?_eq_some_iff.mp found).1
  apply (List.getElem?_inj bound distinct).mp
  simp only [signerKeyAt, found, found', Option.bind_some] at same
  simp [List.getElem?_map, found, found', same]

structure SoundMatching (envelope : SignaturePolicyEnvelope Principal) (policy : ThresholdTree Principal)
    (signatureSet : List SignedData) (matching : List (List Nat × Nat)) : Prop where
  paths_nodup : (matching.map Prod.fst).Nodup
  signers_nodup : (matching.map Prod.snd).Nodup
  leaves : ∀ q i, (q, i) ∈ matching → ∃ index principal,
    signedByAt envelope.rule q = some index ∧
    envelope.identities[index.toNat]? = some principal ∧
    leafAt policy q = some principal ∧
    SignerMatches msp (deduplicate msp signatureSet) i principal
  distinct_identities : ∀ q i q' i', (q, i) ∈ matching → (q', i') ∈ matching →
    signerKeyAt msp (deduplicate msp signatureSet) i =
      signerKeyAt msp (deduplicate msp signatureSet) i' → q = q'
  satisfies : satisfiedBy (chosenBy matching) policy [] = true

/-- Soundness of `policy.Evaluate` with respect to distinct signers. -/
theorem policy_evaluate_sound (envelope : SignaturePolicyEnvelope Principal)
    (policy : ThresholdTree Principal) (built : newPolicy envelope = .ok policy)
    (signatureSet : List SignedData)
    (accepted : policyEvaluate msp policy signatureSet = .ok ()) :
    ∃ matching, SoundMatching msp envelope policy signatureSet matching := by
  have compiled : compile envelope.identities envelope.rule = .ok policy := by
    unfold newPolicy at built
    split at built
    · cases built
    · exact built
  have evaluated : (evaluate msp policy (deduplicate msp signatureSet)
      (List.replicate signatureSet.length false)).1 = true := by
    unfold policyEvaluate at accepted
    split at accepted
    · assumption
    · cases accepted
  have long : (deduplicate msp signatureSet).length ≤
      (List.replicate signatureSet.length false).length := by
    simpa [deduplicate] using (deduplicateFrom_sublist msp [] signatureSet).length_le
  obtain ⟨matching, matched, satisfied⟩ :=
    evaluate_matched msp (deduplicate msp signatureSet) policy [] _ long
  have leaves : ∀ q i, (q, i) ∈ matching → ∃ principal, leafAt policy q = some principal ∧
      SignerMatches msp (deduplicate msp signatureSet) i principal := by
    intro q i member
    obtain ⟨r, principal, rfl, atLeaf, signer⟩ := matched.leaves q i member
    exact ⟨principal, by simpa using atLeaf, signer⟩
  refine ⟨matching, ⟨matched.paths_nodup, matched.marked.signers_nodup, ?_, ?_,
    satisfied evaluated⟩⟩
  · intro q i member
    obtain ⟨principal, atLeaf, signer⟩ := leaves q i member
    obtain ⟨index, rule, resolved⟩ := compile_leafAt compiled atLeaf
    exact ⟨index, principal, rule, resolved, atLeaf, signer⟩
  · intro q i q' i' member member' same
    obtain ⟨_, -, signer⟩ := leaves q i member
    obtain ⟨_, -, signer'⟩ := leaves q' i' member'
    have sameSigner := deduplicate_signer_unique msp signer signer' same
    subst sameSigner
    exact congrArg Prod.fst
      (List.inj_on_of_nodup_map matched.marked.signers_nodup member member' rfl)

def memberMsp : IdentityDeserializer String String where
  deserializeIdentity bytes := if bytes = [1] then some "peer0" else none
  mspid _ := "Org1MSP"
  id identity := identity
  satisfiesPrincipal _ principal := principal == "member"
  verify _ _ _ := true

theorem policy_evaluate_sound_duplicated_member :
    newPolicy ⟨0, .nOutOf 1 [.signedBy 0], ["member"]⟩ = .ok (.gate 1 [.leaf "member"]) ∧
    policyEvaluate memberMsp (.gate 1 [.leaf "member"]) [⟨[], [1], []⟩, ⟨[], [1], []⟩] = .ok () ∧
    ∃ matching, SoundMatching memberMsp ⟨0, .nOutOf 1 [.signedBy 0], ["member"]⟩
      (.gate 1 [.leaf "member"]) [⟨[], [1], []⟩, ⟨[], [1], []⟩] matching :=
  have built : newPolicy ⟨0, .nOutOf 1 [.signedBy 0], ["member"]⟩ =
      .ok (.gate 1 [.leaf "member"]) := by rfl
  have accepted : policyEvaluate memberMsp (.gate 1 [.leaf "member"])
      [⟨[], [1], []⟩, ⟨[], [1], []⟩] = .ok () := by rfl
  ⟨built, accepted, policy_evaluate_sound memberMsp _ _ built _ accepted⟩

-- Each `signedBy` closure takes the first unused signer that matches, and a gate evaluates all
-- its children, keeping what every successful child marked even once its threshold is met. A
-- signer an earlier child did not need is then lost to a later one.

def twoOrgMsp : IdentityDeserializer String String where
  deserializeIdentity bytes := if bytes = [1] then some "A" else if bytes = [2] then some "B" else none
  mspid identity := identity
  id identity := identity
  satisfiesPrincipal identity principal := principal == identity ++ ".member"
  verify _ _ _ := true

def eitherThenA : SignaturePolicyEnvelope String :=
  ⟨0, .nOutOf 2 [.nOutOf 1 [.signedBy 0, .signedBy 1], .signedBy 0], ["A.member", "B.member"]⟩

/-- One signer of `A` and one of `B` satisfy the policy (`B` for the disjunction, `A` for
the second rule), yet the disjunction consumes both and the evaluation fails. -/
theorem policyEvaluate_rejects_satisfiable :
    newPolicy eitherThenA = .ok (.gate 2 [.gate 1 [.leaf "A.member", .leaf "B.member"], .leaf "A.member"]) ∧
    SoundMatching twoOrgMsp eitherThenA (.gate 2 [.gate 1 [.leaf "A.member", .leaf "B.member"], .leaf "A.member"])
      [⟨[], [1], []⟩, ⟨[], [2], []⟩] [([0, 1], 1), ([1], 0)] ∧
    policyEvaluate twoOrgMsp (.gate 2 [.gate 1 [.leaf "A.member", .leaf "B.member"], .leaf "A.member"])
      [⟨[], [1], []⟩, ⟨[], [2], []⟩] = .error "signature set did not satisfy policy" := by
  refine ⟨rfl, ⟨by decide, by decide, ?_, ?_, by decide⟩, by decide⟩
  · intro q i member
    simp only [List.mem_cons, Prod.mk.injEq, List.not_mem_nil, or_false] at member
    rcases member with ⟨rfl, rfl⟩ | ⟨rfl, rfl⟩
    · exact ⟨1, "B.member", rfl, rfl, rfl, ⟨_, "B", rfl, rfl, rfl, rfl⟩⟩
    · exact ⟨0, "A.member", rfl, rfl, rfl, ⟨_, "A", rfl, rfl, rfl, rfl⟩⟩
  · intro q i q' i' member member' same
    simp only [List.mem_cons, Prod.mk.injEq, List.not_mem_nil, or_false] at member member'
    rcases member with ⟨rfl, rfl⟩ | ⟨rfl, rfl⟩ <;> rcases member' with ⟨rfl, rfl⟩ | ⟨rfl, rfl⟩ <;>
      first | rfl | exact absurd same (by decide)

end Fabric.Cauthdsl
