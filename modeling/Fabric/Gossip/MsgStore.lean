import Mathlib.Logic.Relation
import Fabric.Gossip.Discovery

/-! `gossip/gossip/msgstore/msgs.go`: a store of gossip messages under a replacing policy, and the
policy `NewGossipMessageComparator` of `protos/gossip/extensions.go`. A new message is refused
when a stored one invalidates it, and drops (calling the invalidation trigger on) the stored ones
it invalidates. An expirable store marks a message expired after its time to live, keeps it as a
tombstone that still takes part in invalidation, and removes it after twice that time; only this
routine moves `expiredCount`.

Each operation runs under the store's lock, so a run is a sequence of steps. The triggers and the
expiration callback are the lists of messages they are called on, in order. -/

namespace Fabric.MsgStore

open GossipDiscovery (InvalidationResult AliveMessage PeerTime compareTimestamps aliveInvalidationPolicy)

structure Msg (α : Type) where
  data : α
  created : Nat
  expired : Bool
  deriving DecidableEq, Repr

structure MessageStore (α : Type) where
  messages : List (Msg α)
  expiredCount : Int
  deriving DecidableEq, Repr

def newMsgStore {α : Type} : MessageStore α := ⟨[], 0⟩

section Operations

variable {α : Type} (pol : α → α → InvalidationResult)

def addLoop (message : α) : List (Msg α) → Bool × List (Msg α) × List α
  | [] => (true, [], [])
  | m :: rest =>
    match pol message m.data with
    | .messageInvalidated => (false, m :: rest, [])
    | .messageInvalidates =>
      let later := addLoop message rest
      (later.1, later.2.1, m.data :: later.2.2)
    | .messageNoAction =>
      let later := addLoop message rest
      (later.1, m :: later.2.1, later.2.2)

def MessageStore.add (s : MessageStore α) (message : α) (now : Nat) : Bool × MessageStore α × List α :=
  match addLoop pol message s.messages with
  | (true, kept, triggered) => (true, { s with messages := kept ++ [⟨message, now, false⟩] }, triggered)
  | (false, kept, triggered) => (false, { s with messages := kept }, triggered)

def MessageStore.checkValid (s : MessageStore α) (message : α) : Bool :=
  s.messages.all fun m => pol message m.data != .messageInvalidated

end Operations

section Reads

variable {α : Type}

/-- `Purge`, after the read-locked `isPurgeNeeded`: the removed messages go to the trigger. -/
def MessageStore.purge (s : MessageStore α) (shouldBePurged : α → Bool) : MessageStore α × List α :=
  if !s.messages.any fun m => shouldBePurged m.data then (s, [])
  else ({ s with messages := s.messages.filter fun m => !shouldBePurged m.data },
    (s.messages.filter fun m => shouldBePurged m.data).map (·.data))

def MessageStore.size (s : MessageStore α) : Int := s.messages.length - s.expiredCount

def MessageStore.get (s : MessageStore α) : List α := (s.messages.filter fun m => !m.expired).map (·.data)

def expireLoop (msgTTL now : Nat) : List (Msg α) → List (Msg α) × List α × Int
  | [] => ([], [], 0)
  | m :: rest =>
    let later := expireLoop msgTTL now rest
    if !m.expired then
      if now - m.created > msgTTL then ({ m with expired := true } :: later.1, m.data :: later.2.1, later.2.2 + 1)
      else (m :: later.1, later.2.1, later.2.2)
    else if now - m.created > msgTTL * 2 then (later.1, later.2.1, later.2.2 - 1)
    else (m :: later.1, later.2.1, later.2.2)

def MessageStore.expireMessages (s : MessageStore α) (msgTTL now : Nat) : MessageStore α × List α :=
  let swept := expireLoop msgTTL now s.messages
  (⟨swept.1, s.expiredCount + swept.2.2⟩, swept.2.1)

end Reads

inductive Step {α : Type} (pol : α → α → InvalidationResult) (msgTTL : Nat) :
    MessageStore α → MessageStore α → Prop
  | add (s : MessageStore α) (message : α) (now : Nat) : Step pol msgTTL s (s.add pol message now).2.1
  | purge (s : MessageStore α) (shouldBePurged : α → Bool) : Step pol msgTTL s (s.purge shouldBePurged).1
  | expire (s : MessageStore α) (now : Nat) : Step pol msgTTL s (s.expireMessages msgTTL now).1

def Reachable {α : Type} (pol : α → α → InvalidationResult) (msgTTL : Nat) (s : MessageStore α) : Prop :=
  Relation.ReflTransGen (Step pol msgTTL) newMsgStore s

def Compatible {α : Type} (pol : α → α → InvalidationResult) (datas : List α) : Prop :=
  datas.Pairwise fun a b => pol a b = .messageNoAction ∧ pol b a = .messageNoAction

structure WellBehaved {α : Type} (pol : α → α → InvalidationResult) : Prop where
  noAction_symm : ∀ a b, pol a b = .messageNoAction → pol b a = .messageNoAction
  no_split : ∀ message a b, pol message a = .messageInvalidates → pol message b = .messageInvalidated →
    pol a b ≠ .messageNoAction

section Add

variable {α : Type} {pol : α → α → InvalidationResult}

theorem addLoop_fst (pol : α → α → InvalidationResult) (message : α) :
    ∀ msgs : List (Msg α), (addLoop pol message msgs).1 = msgs.all fun m => pol message m.data != .messageInvalidated
  | [] => rfl
  | m :: rest => by
    unfold addLoop
    cases acts : pol message m.data <;> simp [acts, addLoop_fst pol message rest]

theorem addLoop_kept_sublist (pol : α → α → InvalidationResult) (message : α) :
    ∀ msgs : List (Msg α), (addLoop pol message msgs).2.1.Sublist msgs
  | [] => List.Sublist.refl _
  | m :: rest => by
    unfold addLoop
    cases pol message m.data with
    | messageInvalidated => exact List.Sublist.refl _
    | messageInvalidates => exact (addLoop_kept_sublist pol message rest).cons m
    | messageNoAction => exact (addLoop_kept_sublist pol message rest).cons_cons m

theorem addLoop_of_true (pol : α → α → InvalidationResult) (message : α) :
    ∀ msgs : List (Msg α), (addLoop pol message msgs).1 = true →
      (addLoop pol message msgs).2 = (msgs.filter fun m => pol message m.data = .messageNoAction,
        (msgs.filter fun m => pol message m.data = .messageInvalidates).map (·.data))
  | [] => fun _ => rfl
  | m :: rest => by
    intro accepted
    unfold addLoop at accepted ⊢
    cases acts : pol message m.data with
    | messageInvalidated => simp [acts] at accepted
    | messageInvalidates =>
      simp only [acts] at accepted ⊢
      rw [addLoop_of_true pol message rest accepted]
      simp [acts]
    | messageNoAction =>
      simp only [acts] at accepted ⊢
      rw [addLoop_of_true pol message rest accepted]
      simp [acts]

theorem addLoop_of_false (wellBehaved : WellBehaved pol) (message : α) :
    ∀ msgs : List (Msg α), Compatible pol (msgs.map (·.data)) → (addLoop pol message msgs).1 = false →
      (addLoop pol message msgs).2 = (msgs, [])
  | [] => fun _ refused => by cases refused
  | m :: rest => by
    intro compatible refused
    rw [List.map_cons, Compatible, List.pairwise_cons] at compatible
    unfold addLoop at refused ⊢
    cases acts : pol message m.data with
    | messageInvalidated => rfl
    | messageInvalidates =>
      -- some later message invalidates the new one, and then acts on m
      simp only [acts] at refused
      rw [addLoop_fst] at refused
      obtain ⟨b, member, invalidated⟩ := List.all_eq_false.mp refused
      have hits : pol message b.data = .messageInvalidated := by simpa using invalidated
      have apart := (compatible.1 b.data (List.mem_map_of_mem member)).1
      exact absurd apart (wellBehaved.no_split message m.data b.data acts hits)
    | messageNoAction =>
      simp only [acts] at refused ⊢
      rw [addLoop_of_false wellBehaved message rest compatible.2 refused]

theorem compatible_add (wellBehaved : WellBehaved pol) {s : MessageStore α}
    (compatible : Compatible pol (s.messages.map (·.data))) (message : α) (now : Nat) :
    Compatible pol ((s.add pol message now).2.1.messages.map (·.data)) := by
  unfold MessageStore.add
  have sub := addLoop_kept_sublist pol message s.messages
  have complete := addLoop_of_true pol message s.messages
  rcases looped : addLoop pol message s.messages with ⟨accepted, kept, triggered⟩
  rw [looped] at sub complete
  cases accepted
  · -- refused: what stays is a part of what was there
    exact compatible.sublist (sub.map _)
  · simp only [Prod.mk.injEq, forall_const] at complete
    obtain ⟨rfl, rfl⟩ := complete
    -- the kept messages do nothing to the new one, nor it to them
    dsimp only
    rw [List.map_append, Compatible, List.pairwise_append]
    refine ⟨compatible.sublist ((List.filter_sublist).map _), List.pairwise_singleton _ _, ?_⟩
    intro a member b added
    rw [List.map_singleton, List.mem_singleton] at added
    rw [added]
    obtain ⟨m, kept, rfl⟩ := List.mem_map.mp member
    have ignored : pol message m.data = .messageNoAction := by simpa using (List.mem_filter.mp kept).2
    exact ⟨wellBehaved.noAction_symm _ _ ignored, ignored⟩

theorem add_spec (wellBehaved : WellBehaved pol) {s : MessageStore α}
    (compatible : Compatible pol (s.messages.map (·.data))) (message : α) (now : Nat) :
    (s.add pol message now).1 = s.checkValid pol message ∧
      ((s.add pol message now).1 = false → (s.add pol message now).2 = (s, [])) ∧
      ((s.add pol message now).1 = true → (s.add pol message now).2 =
        ({ s with messages :=
            (s.messages.filter fun m => pol message m.data = .messageNoAction) ++ [⟨message, now, false⟩] },
          (s.messages.filter fun m => pol message m.data = .messageInvalidates).map (·.data))) := by
  have answer := addLoop_fst pol message s.messages
  have refusedSpec := addLoop_of_false wellBehaved message s.messages compatible
  have acceptedSpec := addLoop_of_true pol message s.messages
  unfold MessageStore.add MessageStore.checkValid
  rcases looped : addLoop pol message s.messages with ⟨accepted, kept, triggered⟩
  rw [looped] at answer refusedSpec acceptedSpec
  cases accepted
  · simp only [Prod.mk.injEq, forall_const] at refusedSpec
    obtain ⟨rfl, rfl⟩ := refusedSpec
    refine ⟨answer, fun _ => rfl, ?_⟩
    intro accepted
    simp at accepted
  · simp only [Prod.mk.injEq, forall_const] at acceptedSpec
    obtain ⟨rfl, rfl⟩ := acceptedSpec
    refine ⟨answer, ?_, fun _ => rfl⟩
    intro refused
    simp at refused

end Add

section Removal

variable {α : Type} {pol : α → α → InvalidationResult}

theorem expireLoop_map_data_sublist (msgTTL now : Nat) :
    ∀ msgs : List (Msg α), ((expireLoop msgTTL now msgs).1.map (·.data)).Sublist (msgs.map (·.data))
  | [] => List.Sublist.refl _
  | m :: rest => by
    have later := expireLoop_map_data_sublist msgTTL now rest
    unfold expireLoop
    split_ifs
    · exact later.cons_cons m.data
    · exact later.cons_cons m.data
    · exact later.cons m.data
    · exact later.cons_cons m.data

theorem compatible_purge {s : MessageStore α} (compatible : Compatible pol (s.messages.map (·.data)))
    (shouldBePurged : α → Bool) : Compatible pol ((s.purge shouldBePurged).1.messages.map (·.data)) := by
  unfold MessageStore.purge
  split
  · exact compatible
  · exact compatible.sublist ((List.filter_sublist).map _)

theorem compatible_expireMessages {s : MessageStore α} (compatible : Compatible pol (s.messages.map (·.data)))
    (msgTTL now : Nat) : Compatible pol ((s.expireMessages msgTTL now).1.messages.map (·.data)) :=
  compatible.sublist (expireLoop_map_data_sublist msgTTL now s.messages)

theorem reachable_compatible (wellBehaved : WellBehaved pol) {msgTTL : Nat} {s : MessageStore α}
    (reach : Reachable pol msgTTL s) : Compatible pol (s.messages.map (·.data)) := by
  induction reach with
  | refl => exact List.Pairwise.nil
  | tail _ step ih =>
    cases step with
    | add message now => exact compatible_add wellBehaved ih message now
    | purge shouldBePurged => exact compatible_purge ih shouldBePurged
    | expire now => exact compatible_expireMessages ih msgTTL now

end Removal

inductive SignedGossipMessage where
  | aliveMsg (alive : AliveMessage)
  | dataMsg (seqNum : Nat)
  | stateInfo (pkiId : String) (timestamp : PeerTime)
  | peerIdentity (pkiId : String)
  | leadershipMsg (pkiId : String) (timestamp : PeerTime)
  | other
  deriving DecidableEq, Repr

def absDiff (a b : Nat) : Nat := if a > b then a - b else b - a

def dataInvalidationPolicy (dataBlockStorageSize thisSeqNum thatSeqNum : Nat) : InvalidationResult :=
  if thisSeqNum = thatSeqNum then .messageInvalidated
  else if absDiff thisSeqNum thatSeqNum ≤ dataBlockStorageSize then .messageNoAction
  else if thisSeqNum > thatSeqNum then .messageInvalidates
  else .messageInvalidated

def stateInvalidationPolicy (thisPkiId : String) (thisTS : PeerTime) (thatPkiId : String)
    (thatTS : PeerTime) : InvalidationResult :=
  if thisPkiId ≠ thatPkiId then .messageNoAction else compareTimestamps thisTS thatTS

def identityInvalidationPolicy (thisPkiId thatPkiId : String) : InvalidationResult :=
  if thisPkiId = thatPkiId then .messageInvalidated else .messageNoAction

def leaderInvalidationPolicy (thisPkiId : String) (thisTS : PeerTime) (thatPkiId : String)
    (thatTS : PeerTime) : InvalidationResult :=
  if thisPkiId ≠ thatPkiId then .messageNoAction else compareTimestamps thisTS thatTS

/-- `msgComparator.invalidationPolicy` of `NewGossipMessageComparator(dataBlockStorageSize)`. -/
def invalidationPolicy (dataBlockStorageSize : Nat) : SignedGossipMessage → SignedGossipMessage → InvalidationResult
  | .aliveMsg thisMsg, .aliveMsg thatMsg => aliveInvalidationPolicy thisMsg thatMsg
  | .dataMsg thisSeqNum, .dataMsg thatSeqNum => dataInvalidationPolicy dataBlockStorageSize thisSeqNum thatSeqNum
  | .stateInfo thisPkiId thisTS, .stateInfo thatPkiId thatTS => stateInvalidationPolicy thisPkiId thisTS thatPkiId thatTS
  | .peerIdentity thisPkiId, .peerIdentity thatPkiId => identityInvalidationPolicy thisPkiId thatPkiId
  | .leadershipMsg thisPkiId thisTS, .leadershipMsg thatPkiId thatTS =>
    leaderInvalidationPolicy thisPkiId thisTS thatPkiId thatTS
  | _, _ => .messageNoAction

theorem compareTimestamps_ne_noAction (thisTS thatTS : PeerTime) :
    compareTimestamps thisTS thatTS ≠ .messageNoAction := by
  unfold compareTimestamps
  split_ifs <;> simp

theorem keyed_eq_noAction {thisPkiId thatPkiId : String} {thisTS thatTS : PeerTime} :
    (if thisPkiId ≠ thatPkiId then InvalidationResult.messageNoAction else compareTimestamps thisTS thatTS) =
        .messageNoAction ↔ thisPkiId ≠ thatPkiId := by
  by_cases same : thisPkiId = thatPkiId
  · simp [same, compareTimestamps_ne_noAction]
  · simp [same]

theorem dataInvalidationPolicy_eq_noAction {dataBlockStorageSize thisSeqNum thatSeqNum : Nat} :
    dataInvalidationPolicy dataBlockStorageSize thisSeqNum thatSeqNum = .messageNoAction ↔
      thisSeqNum ≠ thatSeqNum ∧ absDiff thisSeqNum thatSeqNum ≤ dataBlockStorageSize := by
  unfold dataInvalidationPolicy
  split_ifs <;> simp_all

theorem identityInvalidationPolicy_eq_noAction {thisPkiId thatPkiId : String} :
    identityInvalidationPolicy thisPkiId thatPkiId = .messageNoAction ↔ thisPkiId ≠ thatPkiId := by
  unfold identityInvalidationPolicy
  split_ifs <;> simp_all

theorem absDiff_comm (a b : Nat) : absDiff a b = absDiff b a := by
  unfold absDiff
  split_ifs <;> omega

theorem data_no_split {dataBlockStorageSize seqNum a b : Nat}
    (acts : dataInvalidationPolicy dataBlockStorageSize seqNum a = .messageInvalidates)
    (hits : dataInvalidationPolicy dataBlockStorageSize seqNum b = .messageInvalidated) :
    dataInvalidationPolicy dataBlockStorageSize a b ≠ .messageNoAction := by
  rw [Ne, dataInvalidationPolicy_eq_noAction]
  unfold dataInvalidationPolicy absDiff at acts hits
  unfold absDiff
  split_ifs at acts hits ⊢ <;> omega

theorem keyed_no_split {pkiId thisPkiId thatPkiId : String} {ts thisTS thatTS : PeerTime}
    (acts : (if pkiId ≠ thisPkiId then InvalidationResult.messageNoAction else compareTimestamps ts thisTS) =
      .messageInvalidates)
    (hits : (if pkiId ≠ thatPkiId then InvalidationResult.messageNoAction else compareTimestamps ts thatTS) =
      .messageInvalidated) :
    (if thisPkiId ≠ thatPkiId then InvalidationResult.messageNoAction else compareTimestamps thisTS thatTS) ≠
      .messageNoAction := by
  -- both stored messages are of the new one's member
  have first : pkiId = thisPkiId := by
    by_contra other
    simp [other] at acts
  have second : pkiId = thatPkiId := by
    by_contra other
    simp [other] at hits
  rw [Ne, keyed_eq_noAction, not_not, ← first, ← second]

theorem wellBehaved_invalidationPolicy (dataBlockStorageSize : Nat) :
    WellBehaved (invalidationPolicy dataBlockStorageSize) where
  noAction_symm a b ignored := by
    cases a <;> cases b <;> simp only [invalidationPolicy] at ignored ⊢
    case aliveMsg.aliveMsg a b =>
      unfold aliveInvalidationPolicy at ignored ⊢
      rw [keyed_eq_noAction] at ignored ⊢
      exact Ne.symm ignored
    case dataMsg.dataMsg a b =>
      rw [dataInvalidationPolicy_eq_noAction] at ignored ⊢
      refine ⟨Ne.symm ignored.1, ?_⟩
      rw [absDiff_comm]
      exact ignored.2
    case stateInfo.stateInfo =>
      unfold stateInvalidationPolicy at ignored ⊢
      rw [keyed_eq_noAction] at ignored ⊢
      exact Ne.symm ignored
    case peerIdentity.peerIdentity =>
      rw [identityInvalidationPolicy_eq_noAction] at ignored ⊢
      exact Ne.symm ignored
    case leadershipMsg.leadershipMsg =>
      unfold leaderInvalidationPolicy at ignored ⊢
      rw [keyed_eq_noAction] at ignored ⊢
      exact Ne.symm ignored
  no_split message a b acts hits := by
    -- only messages of the new one's kind act on it or are acted on
    cases message <;> cases a <;> simp only [invalidationPolicy, reduceCtorEq] at acts <;>
      cases b <;> simp only [invalidationPolicy, reduceCtorEq] at hits ⊢
    case aliveMsg.aliveMsg.aliveMsg => exact keyed_no_split acts hits
    case dataMsg.dataMsg.dataMsg => exact data_no_split acts hits
    case stateInfo.stateInfo.stateInfo => exact keyed_no_split acts hits
    case peerIdentity.peerIdentity.peerIdentity =>
      unfold identityInvalidationPolicy at acts
      split_ifs at acts
    case leadershipMsg.leadershipMsg.leadershipMsg => exact keyed_no_split acts hits

theorem gossip_store_add_is_atomic (dataBlockStorageSize msgTTL : Nat)
    (s : MessageStore SignedGossipMessage)
    (reach : Reachable (invalidationPolicy dataBlockStorageSize) msgTTL s) :
    Compatible (invalidationPolicy dataBlockStorageSize) (s.messages.map (·.data)) ∧
      ∀ (message : SignedGossipMessage) (now : Nat),
        let pol := invalidationPolicy dataBlockStorageSize
        (s.add pol message now).1 = s.checkValid pol message ∧
          ((s.add pol message now).1 = false → (s.add pol message now).2 = (s, [])) ∧
          ((s.add pol message now).1 = true → (s.add pol message now).2 =
            ({ s with messages :=
                (s.messages.filter fun m => pol message m.data = .messageNoAction) ++ [⟨message, now, false⟩] },
              (s.messages.filter fun m => pol message m.data = .messageInvalidates).map (·.data))) := by
  have compatible := reachable_compatible (wellBehaved_invalidationPolicy dataBlockStorageSize) reach
  exact ⟨compatible, fun message now =>
    add_spec (wellBehaved_invalidationPolicy dataBlockStorageSize) compatible message now⟩

theorem gossip_store_add_is_atomic_after_a_block :
    Reachable (invalidationPolicy 10) 5 ((newMsgStore.add (invalidationPolicy 10) (SignedGossipMessage.dataMsg 1) 0).2.1) ∧
      Compatible (invalidationPolicy 10)
          (((newMsgStore.add (invalidationPolicy 10) (SignedGossipMessage.dataMsg 1) 0).2.1).messages.map (·.data)) ∧
      ∀ (message : SignedGossipMessage) (now : Nat),
        let s := (newMsgStore.add (invalidationPolicy 10) (SignedGossipMessage.dataMsg 1) 0).2.1
        let pol := invalidationPolicy 10
        (s.add pol message now).1 = s.checkValid pol message ∧
          ((s.add pol message now).1 = false → (s.add pol message now).2 = (s, [])) ∧
          ((s.add pol message now).1 = true → (s.add pol message now).2 =
            ({ s with messages :=
                (s.messages.filter fun m => pol message m.data = .messageNoAction) ++ [⟨message, now, false⟩] },
              (s.messages.filter fun m => pol message m.data = .messageInvalidates).map (·.data))) :=
  have reach : Reachable (invalidationPolicy 10) 5 ((newMsgStore.add (invalidationPolicy 10) (SignedGossipMessage.dataMsg 1) 0).2.1) :=
    .single (.add newMsgStore (SignedGossipMessage.dataMsg 1) 0)
  ⟨reach, gossip_store_add_is_atomic 10 5 _ reach⟩

section Expiry

variable {α : Type}

def expiredIn (msgs : List (Msg α)) : Nat := (msgs.filter (·.expired)).length

theorem expiredIn_le_of_sublist {msgs msgs' : List (Msg α)} (sub : msgs'.Sublist msgs) :
    expiredIn msgs' ≤ expiredIn msgs :=
  (sub.filter _).length_le

theorem expiredIn_expireLoop (msgTTL now : Nat) :
    ∀ msgs : List (Msg α),
      (expiredIn (expireLoop msgTTL now msgs).1 : Int) = expiredIn msgs + (expireLoop msgTTL now msgs).2.2
  | [] => rfl
  | m :: rest => by
    have later := expiredIn_expireLoop msgTTL now rest
    unfold expiredIn at later ⊢
    unfold expireLoop
    split_ifs with fresh old gone <;> simp_all <;> omega

variable {pol : α → α → InvalidationResult} {msgTTL : Nat}

theorem reachable_expiredIn_le {s : MessageStore α} (reach : Reachable pol msgTTL s) :
    (expiredIn s.messages : Int) ≤ s.expiredCount := by
  induction reach with
  | refl => simp [newMsgStore, expiredIn]
  | @tail before after _ step ih =>
    cases step with
    | add message now =>
      unfold MessageStore.add
      have sub := addLoop_kept_sublist pol message before.messages
      rcases looped : addLoop pol message before.messages with ⟨accepted, kept, triggered⟩
      rw [looped] at sub
      have fewer : expiredIn kept ≤ expiredIn before.messages := expiredIn_le_of_sublist sub
      cases accepted
      · dsimp only
        omega
      · -- the new message is not expired
        have fresh : expiredIn (kept ++ [(⟨message, now, false⟩ : Msg α)]) = expiredIn kept := by
          simp [expiredIn]
        dsimp only
        rw [fresh]
        omega
    | purge shouldBePurged =>
      unfold MessageStore.purge
      split
      · exact ih
      · have fewer := expiredIn_le_of_sublist
          (List.filter_sublist (l := before.messages) (p := fun m : Msg α => !shouldBePurged m.data))
        dsimp only
        omega
    | expire now =>
      unfold MessageStore.expireMessages
      have moved := expiredIn_expireLoop msgTTL now before.messages
      dsimp only
      omega

/-- So `Size` never counts more messages than `Get` returns. -/
theorem reachable_size_le_get {s : MessageStore α} (reach : Reachable pol msgTTL s) :
    s.size ≤ s.get.length := by
  have below := reachable_expiredIn_le reach
  have split : s.messages.length = expiredIn s.messages + s.get.length := by
    unfold expiredIn MessageStore.get
    rw [List.length_map]
    have := List.length_eq_length_filter_add (l := s.messages) (fun m => m.expired)
    simpa [Bool.not_eq_true'] using this
  unfold MessageStore.size
  omega

theorem reachable_size_le_get_after_one_add :
    Reachable (fun _ _ : Nat => .messageNoAction) 0 (newMsgStore.add (fun _ _ => .messageNoAction) 7 0).2.1 ∧
      (newMsgStore.add (fun _ _ : Nat => .messageNoAction) 7 0).2.1.size ≤
        (newMsgStore.add (fun _ _ : Nat => .messageNoAction) 7 0).2.1.get.length :=
  have reach : Reachable (fun _ _ : Nat => .messageNoAction) 0
      (newMsgStore.add (fun _ _ => .messageNoAction) 7 0).2.1 := .single (.add _ _ _)
  ⟨reach, reachable_size_le_get reach⟩

end Expiry

def peer1Alive (incNum : Nat) : SignedGossipMessage := .aliveMsg ⟨"peer1", "peer1:7051", "", ⟨incNum, 1⟩, none⟩

def revivedRun (msgTTL : Nat) : List (MessageStore SignedGossipMessage) :=
  let pol := invalidationPolicy 0
  let learned := (newMsgStore.add pol (peer1Alive 1) 0).2.1
  let expired := (learned.expireMessages msgTTL (msgTTL + 1)).1
  let revived := (expired.add pol (peer1Alive 2) (msgTTL + 1)).2.1
  let expiredAgain := (revived.expireMessages msgTTL (2 * msgTTL + 3)).1
  let removed := (expiredAgain.expireMessages msgTTL (3 * msgTTL + 4)).1
  [learned, expired, revived, expiredAgain, removed]

theorem expired_count_drifts_when_a_dead_peer_returns (msgTTL : Nat) :
    (∃ s, Reachable (invalidationPolicy 0) msgTTL s ∧ s.expiredCount = 1 ∧ expiredIn s.messages = 0 ∧
        s.size = 0 ∧ s.get.length = 1) ∧
      ∃ s, Reachable (invalidationPolicy 0) msgTTL s ∧ s.expiredCount = 1 ∧ expiredIn s.messages = 0 ∧
        s.size = -1 ∧ s.get.length = 0 := by
  let pol := invalidationPolicy 0
  let learned := (newMsgStore.add pol (peer1Alive 1) 0).2.1
  let expired := (learned.expireMessages msgTTL (msgTTL + 1)).1
  let revived := (expired.add pol (peer1Alive 2) (msgTTL + 1)).2.1
  let expiredAgain := (revived.expireMessages msgTTL (2 * msgTTL + 3)).1
  let removed := (expiredAgain.expireMessages msgTTL (3 * msgTTL + 4)).1
  -- the run: learn, expire, the newer incarnation drops the tombstone, expire, remove
  have toRevived : Reachable pol msgTTL revived :=
    ((Relation.ReflTransGen.single (.add newMsgStore (peer1Alive 1) 0)).tail (.expire learned (msgTTL + 1))).tail
      (.add expired (peer1Alive 2) (msgTTL + 1))
  have toRemoved : Reachable pol msgTTL removed :=
    (toRevived.tail (.expire revived (2 * msgTTL + 3))).tail (.expire expiredAgain (3 * msgTTL + 4))
  have learnedIs : learned = ⟨[⟨peer1Alive 1, 0, false⟩], 0⟩ := rfl
  have expiredIs : expired = ⟨[⟨peer1Alive 1, 0, true⟩], 1⟩ := by
    simp [expired, learnedIs, MessageStore.expireMessages, expireLoop]
  have revivedIs : revived = ⟨[⟨peer1Alive 2, msgTTL + 1, false⟩], 1⟩ := by
    simp [revived, expiredIs, MessageStore.add, addLoop, pol, invalidationPolicy, peer1Alive,
      aliveInvalidationPolicy, compareTimestamps]
  have expiredAgainIs : expiredAgain = ⟨[⟨peer1Alive 2, msgTTL + 1, true⟩], 2⟩ := by
    simp [expiredAgain, revivedIs, MessageStore.expireMessages, expireLoop]
    split_ifs with late
    · simp
    · omega
  have removedIs : removed = ⟨[], 1⟩ := by
    simp [removed, expiredAgainIs, MessageStore.expireMessages, expireLoop]
    split_ifs with late
    · simp
    · omega
  refine ⟨⟨revived, toRevived, ?_⟩, ⟨removed, toRemoved, ?_⟩⟩
  · rw [revivedIs]
    simp [expiredIn, MessageStore.size, MessageStore.get]
  · rw [removedIs]
    simp [expiredIn, MessageStore.size, MessageStore.get]

-- Discovery models its store of alive messages on its own, without the trigger and the expired
-- count; it is this store under the alive policy.

def ofDiscovery (m : GossipDiscovery.Msg) : Msg AliveMessage := ⟨m.data, m.created, m.expired⟩

theorem discovery_addLoop (message : AliveMessage) :
    ∀ msgs : List GossipDiscovery.Msg,
      (addLoop aliveInvalidationPolicy message (msgs.map ofDiscovery)).1 = (GossipDiscovery.addLoop message msgs).1 ∧
        (addLoop aliveInvalidationPolicy message (msgs.map ofDiscovery)).2.1 =
          (GossipDiscovery.addLoop message msgs).2.map ofDiscovery
  | [] => ⟨rfl, rfl⟩
  | m :: rest => by
    obtain ⟨answer, kept⟩ := discovery_addLoop message rest
    rw [List.map_cons]
    unfold addLoop GossipDiscovery.addLoop
    have same : (ofDiscovery m).data = m.data := rfl
    rw [same]
    cases acts : aliveInvalidationPolicy message m.data with
    | messageInvalidated => exact ⟨rfl, rfl⟩
    | messageInvalidates => exact ⟨answer, kept⟩
    | messageNoAction => exact ⟨answer, by rw [List.map_cons, ← kept]⟩

end Fabric.MsgStore
