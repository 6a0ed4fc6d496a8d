import Mathlib.Logic.Relation
import Fabric.Lib.Basic

/-!
# Gossip discovery: membership bookkeeping under concurrent goroutines

`gossipDiscoveryImpl` keeps five maps over PKI-IDs under `d.lock`: the last alive and dead
timestamps, the known members, and the alive and dead membership stores. The goroutine of
`handleMessages` changes them in several locked sections with reads under the read lock between
them, while `periodicalCheckAlive` and the expiration routine of the alive-message store change
them under the write lock. The system below takes one step per locked section, so that its runs
are the interleavings of these goroutines.

`Bookkept` is what every reachable state keeps. The bookkeeping the discovery layer is described
with (`Consistent`: our own PKI-ID in none of the maps) fails already on one membership response,
and the expiration callback can run between two reads of `handleAliveMessage` and reach its
"neither alive nor dead" panic.
-/

namespace Fabric.GossipDiscovery

structure PeerTime where
  incNum : Nat
  seqNum : Nat
  deriving DecidableEq, Repr

structure AliveMessage where
  pkiId : String
  endpoint : String
  metadata : String
  timestamp : PeerTime
  secretEnvelope : Option String
  deriving DecidableEq, Repr

structure NetworkMember where
  endpoint : String
  metadata : String
  pkiId : String
  internalEndpoint : String
  deriving DecidableEq, Repr

structure Timestamp where
  incTime : Nat
  seqNum : Nat
  lastSeen : Nat
  deriving DecidableEq, Repr

def timestampOf (t : PeerTime) (now : Nat) : Timestamp := ⟨t.incNum, t.seqNum, now⟩

def before (a : Timestamp) (b : PeerTime) : Bool :=
  (a.incTime == b.incNum && a.seqNum < b.seqNum) || a.incTime < b.incNum

inductive Panic
  -- "Member %s is known but not found neither in alive nor in dead lastTS maps"
  | neitherAliveNorDead
  | bothAliveAndDead
  -- learnExistingMembers writes through `d.id2Member[id]` when it is nil.
  | nilMember
  -- learnExistingMembers reads `am.Envelope` of the nil message `MsgByID` returned.
  | nilAliveMessage
  -- copyLastSeen and GetMembership dereference a missing `id2Member` entry.
  | nilNetworkMember
  deriving DecidableEq, Repr

structure Discovery where
  self : String
  deadLastTS : List (String × Timestamp)
  aliveLastTS : List (String × Timestamp)
  id2Member : List (String × NetworkMember)
  aliveMembership : List (String × AliveMessage)
  deadMembership : List (String × AliveMessage)

def learnAliveMember (now : Nat) (d : Discovery) (am : AliveMessage) : Discovery :=
  if am.pkiId = d.self then d
  else
    { d with
      aliveLastTS := d.aliveLastTS.setKey am.pkiId (timestampOf am.timestamp now)
      aliveMembership := d.aliveMembership.setKey am.pkiId am }

def learnDeadMember (now : Nat) (d : Discovery) (dm : AliveMessage) : Discovery :=
  if dm.pkiId = d.self then d
  else
    { d with
      deadLastTS := d.deadLastTS.setKey dm.pkiId (timestampOf dm.timestamp now)
      deadMembership := d.deadMembership.setKey dm.pkiId dm }

def updateMember (d : Discovery) (m : AliveMessage) : Discovery :=
  let internalEndpoint :=
    match d.id2Member.lookup m.pkiId with
    | some prevNetMem => prevNetMem.internalEndpoint
    | none => m.secretEnvelope.getD ""
  { d with id2Member := d.id2Member.setKey m.pkiId ⟨m.endpoint, m.metadata, m.pkiId, internalEndpoint⟩ }

def learnNewMembers (now : Nat) (aliveMembers deadMembers : List AliveMessage) (d : Discovery) :
    Discovery :=
  (aliveMembers ++ deadMembers).foldl updateMember
    (deadMembers.foldl (learnDeadMember now) (aliveMembers.foldl (learnAliveMember now) d))

def internalEndpointOf (d : Discovery) (m : AliveMessage) : String :=
  match m.secretEnvelope with
  | some endpoint => endpoint
  | none =>
    match d.id2Member.lookup m.pkiId with
    | some prevNetMem => prevNetMem.internalEndpoint
    | none => ""

def resurrectMember (now : Nat) (am : AliveMessage) (t : PeerTime) (d : Discovery) : Discovery :=
  { d with
    aliveLastTS := d.aliveLastTS.setKey am.pkiId (timestampOf t now)
    id2Member := d.id2Member.setKey am.pkiId ⟨am.endpoint, am.metadata, am.pkiId, internalEndpointOf d am⟩
    deadLastTS := d.deadLastTS.deleteKey am.pkiId
    deadMembership := d.deadMembership.deleteKey am.pkiId
    aliveMembership := d.aliveMembership.setKey am.pkiId am }

def learnExistingMember (now : Nat) (d : Discovery) (m : AliveMessage) : Except Panic Discovery :=
  -- `member := d.id2Member[id]` and the writes through it
  match d.id2Member.lookup m.pkiId with
  | none => .error .nilMember
  | some member =>
    let updated := { member with
      endpoint := m.endpoint, metadata := m.metadata, internalEndpoint := internalEndpointOf d m }
    let d' := { d with id2Member := d.id2Member.setKey m.pkiId updated }
    if d'.deadLastTS.hasKey m.pkiId then .ok d'
    else if !d'.aliveLastTS.hasKey m.pkiId then .ok d'
    else
      let d'' := { d' with aliveLastTS := d'.aliveLastTS.setKey m.pkiId (timestampOf m.timestamp now) }
      -- with no message in aliveMembership the new entry is built from `am.Envelope`, `am` nil
      match d''.aliveMembership.lookup m.pkiId with
      | none => .error .nilAliveMessage
      | some _ => .ok { d'' with aliveMembership := d''.aliveMembership.setKey m.pkiId m }

def learnExistingMembers (now : Nat) (aliveArr : List AliveMessage) (d : Discovery) :
    Except Panic Discovery :=
  aliveArr.foldlM (learnExistingMember now) d

def expireDeadMember (d : Discovery) (pkiID : String) : Discovery :=
  match d.aliveLastTS.lookup pkiID with
  | none => d
  | some lastTS =>
    let d' := { d with
      deadLastTS := d.deadLastTS.setKey pkiID lastTS
      aliveLastTS := d.aliveLastTS.deleteKey pkiID }
    match d'.aliveMembership.lookup pkiID with
    | none => d'
    | some am =>
      { d' with
        deadMembership := d'.deadMembership.setKey pkiID am
        aliveMembership := d'.aliveMembership.deleteKey pkiID }

def expireDeadMembers (dead : List String) (d : Discovery) : Discovery :=
  dead.foldl expireDeadMember d

def callback (d : Discovery) (msg : AliveMessage) : Discovery :=
  { d with
    aliveMembership := d.aliveMembership.deleteKey msg.pkiId
    deadMembership := d.deadMembership.deleteKey msg.pkiId
    id2Member := d.id2Member.deleteKey msg.pkiId
    deadLastTS := d.deadLastTS.deleteKey msg.pkiId
    aliveLastTS := d.aliveLastTS.deleteKey msg.pkiId }

def copyLastSeen (order : RangeOrder String) (lastSeenMap : List (String × Timestamp))
    (d : Discovery) : Except Panic (List NetworkMember) :=
  (order.visit (lastSeenMap.map Prod.fst)).mapM fun pkiIDStr =>
    Except.require (d.id2Member.lookup pkiIDStr) .nilNetworkMember

def getMembership (order : RangeOrder (String × AliveMessage)) (d : Discovery) :
    Except Panic (List NetworkMember) :=
  (order.visit d.aliveMembership).mapM fun entry => do
    let member ← Except.require (d.id2Member.lookup entry.2.pkiId) .nilNetworkMember
    return ⟨entry.2.endpoint, entry.2.metadata, entry.2.pkiId, member.internalEndpoint⟩

inductive InvalidationResult
  | messageNoAction
  | messageInvalidates
  | messageInvalidated
  deriving DecidableEq, Repr

def compareTimestamps (thisTS thatTS : PeerTime) : InvalidationResult :=
  if thisTS.incNum = thatTS.incNum then
    if thisTS.seqNum > thatTS.seqNum then .messageInvalidates else .messageInvalidated
  else if thisTS.incNum < thatTS.incNum then .messageInvalidated
  else .messageInvalidates

def aliveInvalidationPolicy (thisMsg thatMsg : AliveMessage) : InvalidationResult :=
  if thisMsg.pkiId ≠ thatMsg.pkiId then .messageNoAction
  else compareTimestamps thisMsg.timestamp thatMsg.timestamp

structure Msg where
  data : AliveMessage
  created : Nat
  expired : Bool
  deriving DecidableEq, Repr

def addLoop (message : AliveMessage) : List Msg → Bool × List Msg
  -- what the new message invalidates is dropped; the first message that invalidates it ends the loop
  | [] => (true, [])
  | m :: rest =>
    match aliveInvalidationPolicy message m.data with
    | .messageInvalidated => (false, m :: rest)
    | .messageInvalidates => addLoop message rest
    | .messageNoAction => ((addLoop message rest).1, m :: (addLoop message rest).2)

def add (message : AliveMessage) (now : Nat) (messages : List Msg) : Bool × List Msg :=
  match addLoop message messages with
  | (true, kept) => (true, kept ++ [⟨message, now, false⟩])
  | (false, kept) => (false, kept)

def checkValid (message : AliveMessage) (messages : List Msg) : Bool :=
  messages.all fun m => aliveInvalidationPolicy message m.data != .messageInvalidated

def expireMessages (msgTTL now : Nat) : List Msg → Discovery → List Msg × Discovery
  | [], d => ([], d)
  | m :: rest, d =>
    if !m.expired then
      if now - m.created > msgTTL then
        let later := expireMessages msgTTL now rest (callback d m.data)
        ({ m with expired := true } :: later.1, later.2)
      else
        let later := expireMessages msgTTL now rest d
        (m :: later.1, later.2)
    else if now - m.created > msgTTL * 2 then expireMessages msgTTL now rest d
    else
      let later := expireMessages msgTTL now rest d
      (m :: later.1, later.2)

inductive Task
  -- An alive entry of a membership response, or a request's SelfInformation: CheckValid, then
  -- handleAliveMessage.
  | alive (m : AliveMessage)
  | dead (m : AliveMessage)
  deriving DecidableEq, Repr

inductive Handler
  | idle
  | entries (rest : List Task)
  | known (m : AliveMessage) (rest : List Task)
  | liveness (m : AliveMessage) (rest : List Task)
  | aliveTS (m : AliveMessage) (rest : List Task)
  | learnNew (aliveMembers deadMembers : List AliveMessage) (rest : List Task)
  | resurrect (m : AliveMessage) (rest : List Task)
  | learnExisting (m : AliveMessage) (rest : List Task)
  | deadKnown (m : AliveMessage) (rest : List Task)
  | panicked (reason : Panic)
  deriving DecidableEq, Repr

inductive GossipMessage
  | aliveMsg (m : AliveMessage)
  | memReq (selfInformation : AliveMessage)
  | memRes (alive dead : List AliveMessage)
  deriving DecidableEq, Repr

structure System where
  d : Discovery
  msgStore : List Msg
  handler : Handler
  now : Nat

def System.init (self : String) : System := ⟨⟨self, [], [], [], [], []⟩, [], .idle, 0⟩

section Goroutines

variable (validateAliveMsg : AliveMessage → Bool) (msgTTL : Nat)

def handleAliveMessage (self : String) (m : AliveMessage) (rest : List Task) : Handler :=
  if !validateAliveMsg m then .entries rest
  else if m.pkiId = self then .entries rest
  else .known m rest

def handleMsgFromComm (msg : GossipMessage) (s : System) : System :=
  match msg with
  | .memReq selfInformation => { s with handler := .entries [.alive selfInformation] }
  | .aliveMsg m =>
    match add m s.now s.msgStore with
    | (true, kept) =>
      { s with msgStore := kept, handler := handleAliveMessage validateAliveMsg s.d.self m [] }
    | (false, kept) => { s with msgStore := kept }
  | .memRes alive dead => { s with handler := .entries (alive.map .alive ++ dead.map .dead) }

def handlerStep (s : System) : Option System :=
  match s.handler with
  | .idle | .panicked _ => none
  | .entries [] => some { s with handler := .idle }
  | .entries (.alive m :: rest) =>
    some { s with
      handler :=
        if checkValid m s.msgStore then handleAliveMessage validateAliveMsg s.d.self m rest
        else .entries rest }
  | .entries (.dead m :: rest) =>
    -- an entry that is not authentic is skipped; a newer alive message ends the response
    some { s with
      handler :=
        if !validateAliveMsg m then .entries rest
        else if !checkValid m s.msgStore then .idle
        else .deadKnown m rest }
  | .deadKnown m rest =>
    some { s with
      handler := .learnNew [] (if s.d.id2Member.hasKey m.pkiId then [] else [m]) rest }
  | .known m rest =>
    some { s with
      handler := if s.d.id2Member.hasKey m.pkiId then .liveness m rest else .learnNew [m] [] rest }
  | .liveness m rest =>
    match s.d.aliveLastTS.hasKey m.pkiId, s.d.deadLastTS.lookup m.pkiId with
    | false, none => some { s with handler := .panicked .neitherAliveNorDead }
    | true, some _ => some { s with handler := .panicked .bothAliveAndDead }
    | false, some lastDeadTS =>
      some { s with
        handler := if before lastDeadTS m.timestamp then .resurrect m rest else .entries rest }
    | true, none => some { s with handler := .aliveTS m rest }
  | .aliveTS m rest =>
    match s.d.aliveLastTS.lookup m.pkiId with
    | some lastAliveTS =>
      some { s with
        handler := if before lastAliveTS m.timestamp then .learnExisting m rest else .entries rest }
    | none => some { s with handler := .entries rest }
  | .learnNew aliveMembers deadMembers rest =>
    some { s with d := learnNewMembers s.now aliveMembers deadMembers s.d, handler := .entries rest }
  | .resurrect m rest =>
    some { s with d := resurrectMember s.now m m.timestamp s.d, handler := .entries rest }
  | .learnExisting m rest =>
    match learnExistingMembers s.now [m] s.d with
    | .ok d => some { s with d := d, handler := .entries rest }
    | .error reason => some { s with handler := .panicked reason }

def expireStore (s : System) : System :=
  let expired := expireMessages msgTTL s.now s.msgStore s.d
  { s with msgStore := expired.1, d := expired.2 }

inductive Step : System → System → Prop
  | receive (s : System) (msg : GossipMessage) :
      s.handler = .idle → Step s (handleMsgFromComm validateAliveMsg msg s)
  | handle (s s' : System) : handlerStep validateAliveMsg s = some s' → Step s s'
  -- periodicalCheckAlive, or handlePresumedDeadPeers, expires what it found dead.
  | checkAlive (s : System) (dead : List String) : Step s { s with d := expireDeadMembers dead s.d }
  | expire (s : System) : Step s (expireStore msgTTL s)
  | tick (s : System) : Step s { s with now := s.now + 1 }

def Reachable (self : String) (s : System) : Prop :=
  Relation.ReflTransGen (Step validateAliveMsg msgTTL) (System.init self) s

end Goroutines

structure Entry where
  alive : Bool
  dead : Bool
  known : Bool
  aliveMsg : Bool
  deadMsg : Bool
  deriving DecidableEq, Repr

def Discovery.entry (d : Discovery) (id : String) : Entry :=
  ⟨d.aliveLastTS.hasKey id, d.deadLastTS.hasKey id, d.id2Member.hasKey id,
    d.aliveMembership.hasKey id, d.deadMembership.hasKey id⟩

namespace Entry

def bookkept (e : Entry) (isSelf : Bool) : Bool :=
  !(e.alive && e.dead) && e.aliveMsg == e.alive && e.deadMsg == e.dead &&
    if isSelf then !e.alive && !e.dead else e.known == (e.alive || e.dead)

def consistent (e : Entry) (isSelf : Bool) : Bool :=
  !(e.alive && e.dead) && e.aliveMsg == e.alive && e.deadMsg == e.dead &&
    e.known == (e.alive || e.dead) && !(isSelf && e.known)

def forgotten : Entry := ⟨false, false, false, false, false⟩

def learn (e : Entry) (asAlive asDead asKnown : Bool) : Entry :=
  ⟨e.alive || asAlive, e.dead || asDead, e.known || asKnown, e.aliveMsg || asAlive,
    e.deadMsg || asDead⟩

def expire (e : Entry) : Entry :=
  { e with alive := false, dead := true, aliveMsg := false, deadMsg := e.deadMsg || e.aliveMsg }

@[simp] theorem learn_learn (e : Entry) (a b c a' b' c' : Bool) :
    (e.learn a b c).learn a' b' c' = e.learn (a || a') (b || b') (c || c') := by
  simp [learn, Bool.or_assoc]

@[simp] theorem learn_false (e : Entry) : e.learn false false false = e := by
  simp [learn]

theorem bookkept_forgotten (isSelf : Bool) : forgotten.bookkept isSelf = true := by
  cases isSelf <;> rfl

theorem eq_forgotten_of_unknown {e : Entry} {isSelf : Bool} (ok : e.bookkept isSelf = true)
    (unknown : e.known = false) : e = forgotten := by
  obtain ⟨alive, dead, known, aliveMsg, deadMsg⟩ := e
  subst unknown
  revert isSelf alive dead aliveMsg deadMsg
  decide

theorem bookkept_expire {e : Entry} {isSelf : Bool} (ok : e.bookkept isSelf = true)
    (alive : e.alive = true) : e.expire.bookkept isSelf = true := by
  obtain ⟨alive', dead, known, aliveMsg, deadMsg⟩ := e
  subst alive
  revert isSelf dead known aliveMsg deadMsg
  decide

theorem bookkept_learn (isSelf asAlive asDead : Bool) (apart : (asAlive && asDead) = false)
    (notSelf : isSelf = true → asAlive = false ∧ asDead = false)
    (listed : isSelf = false → (asAlive || asDead) = true) :
    (forgotten.learn asAlive asDead true).bookkept isSelf = true := by
  revert isSelf asAlive asDead
  decide

theorem not_dead_of_alive {e : Entry} {isSelf : Bool} (ok : e.bookkept isSelf = true)
    (alive : e.alive = true) : e.dead = false := by
  obtain ⟨alive', dead, known, aliveMsg, deadMsg⟩ := e
  subst alive
  revert isSelf dead known aliveMsg deadMsg
  decide

theorem aliveMsg_of_alive {e : Entry} {isSelf : Bool} (ok : e.bookkept isSelf = true)
    (alive : e.alive = true) : e.aliveMsg = true := by
  obtain ⟨alive', dead, known, aliveMsg, deadMsg⟩ := e
  subst alive
  revert isSelf dead known aliveMsg deadMsg
  decide

theorem known_of_alive {e : Entry} {isSelf : Bool} (ok : e.bookkept isSelf = true)
    (alive : e.alive = true) : e.known = true := by
  obtain ⟨alive', dead, known, aliveMsg, deadMsg⟩ := e
  subst alive
  revert isSelf dead known aliveMsg deadMsg
  decide

theorem alive_of_aliveMsg {e : Entry} {isSelf : Bool} (ok : e.bookkept isSelf = true)
    (aliveMsg : e.aliveMsg = true) : e.alive = true := by
  obtain ⟨alive, dead, known, aliveMsg', deadMsg⟩ := e
  subst aliveMsg
  revert isSelf alive dead known deadMsg
  decide

theorem known_of_dead {e : Entry} {isSelf : Bool} (ok : e.bookkept isSelf = true)
    (dead : e.dead = true) : e.known = true := by
  obtain ⟨alive, dead', known, aliveMsg, deadMsg⟩ := e
  subst dead
  revert isSelf alive known aliveMsg deadMsg
  decide

end Entry

def KeyedByPkiId (entries : List (String × AliveMessage)) : Prop :=
  ∀ entry ∈ entries, entry.2.pkiId = entry.1

theorem KeyedByPkiId.setKey {entries : List (String × AliveMessage)} (keyed : KeyedByPkiId entries)
    (m : AliveMessage) : KeyedByPkiId (entries.setKey m.pkiId m) := by
  intro entry member
  rcases List.mem_of_mem_setKey member with new | old
  · rw [new]
  · exact keyed entry old

theorem KeyedByPkiId.deleteKey {entries : List (String × AliveMessage)} (keyed : KeyedByPkiId entries)
    (pkiID : String) : KeyedByPkiId (entries.deleteKey pkiID) :=
  fun entry member => keyed entry (List.mem_of_mem_deleteKey member)

structure Bookkept (d : Discovery) : Prop where
  entries : ∀ id, (d.entry id).bookkept (id == d.self) = true
  keyed : KeyedByPkiId d.aliveMembership

def Consistent (d : Discovery) : Prop :=
  ∀ id, (d.entry id).consistent (id == d.self) = true

theorem not_consistent_of_self_known {d : Discovery} (selfKnown : d.id2Member.hasKey d.self = true) :
    ¬Consistent d := by
  intro consistent
  have ours := consistent d.self
  simp [Entry.consistent, Discovery.entry, selfKnown] at ours

theorem Bookkept.of_entry_eq {d d' : Discovery} (book : Bookkept d) (self : d'.self = d.self)
    (same : ∀ id, d'.entry id = d.entry id) (keyed : KeyedByPkiId d'.aliveMembership) :
    Bookkept d' :=
  ⟨fun id => by rw [same, self]; exact book.entries id, keyed⟩

theorem callback_self (d : Discovery) (msg : AliveMessage) : (callback d msg).self = d.self := rfl

theorem entry_callback (d : Discovery) (msg : AliveMessage) (id : String) :
    (callback d msg).entry id = if id = msg.pkiId then Entry.forgotten else d.entry id := by
  by_cases same : id = msg.pkiId <;> simp [callback, Discovery.entry, Entry.forgotten, same]

theorem callback_bookkept {d : Discovery} (book : Bookkept d) (msg : AliveMessage) :
    Bookkept (callback d msg) := by
  constructor
  · intro id
    rw [entry_callback]
    split
    · exact Entry.bookkept_forgotten _
    · exact book.entries id
  · exact book.keyed.deleteKey msg.pkiId

theorem entry_resurrectMember (now : Nat) (am : AliveMessage) (t : PeerTime) (d : Discovery)
    (id : String) :
    (resurrectMember now am t d).entry id =
      if id = am.pkiId then ⟨true, false, true, true, false⟩ else d.entry id := by
  by_cases same : id = am.pkiId <;> simp [resurrectMember, Discovery.entry, same]

theorem resurrectMember_bookkept {d : Discovery} (book : Bookkept d) (now : Nat)
    (am : AliveMessage) (t : PeerTime) (notSelf : am.pkiId ≠ d.self) :
    Bookkept (resurrectMember now am t d) := by
  constructor
  · intro id
    rw [entry_resurrectMember]
    split
    · next same =>
      have other : (id == (resurrectMember now am t d).self) = false := by
        simpa [resurrectMember, same] using notSelf
      rw [other]
      rfl
    · exact book.entries id
  · exact book.keyed.setKey am

theorem entry_expireDeadMember (d : Discovery) (pkiID id : String) :
    (expireDeadMember d pkiID).entry id =
      if id = pkiID ∧ (d.entry pkiID).alive = true then (d.entry id).expire else d.entry id := by
  unfold expireDeadMember
  cases alive : d.aliveLastTS.lookup pkiID with
  | none =>
    have gone : d.aliveLastTS.hasKey pkiID = false := by simp [List.hasKey, alive]
    simp [Discovery.entry, gone]
  | some lastTS =>
    have here : d.aliveLastTS.hasKey pkiID = true := by simp [List.hasKey, alive]
    dsimp only
    by_cases same : id = pkiID
    · subst same
      cases msg : d.aliveMembership.lookup id with
      | none =>
        have noMsg : d.aliveMembership.hasKey id = false := by simp [List.hasKey, msg]
        simp [Discovery.entry, Entry.expire, here, noMsg]
      | some am =>
        have withMsg : d.aliveMembership.hasKey id = true := by simp [List.hasKey, msg]
        simp [Discovery.entry, Entry.expire, here, withMsg]
    · cases msg : d.aliveMembership.lookup pkiID <;> simp [Discovery.entry, same]

theorem expireDeadMember_bookkept {d : Discovery} (book : Bookkept d) (pkiID : String) :
    Bookkept (expireDeadMember d pkiID) := by
  have self : (expireDeadMember d pkiID).self = d.self := by
    unfold expireDeadMember
    split
    · rfl
    · dsimp only
      split <;> rfl
  constructor
  · intro id
    rw [entry_expireDeadMember, self]
    split
    · next moved => exact Entry.bookkept_expire (book.entries id) (moved.1 ▸ moved.2)
    · exact book.entries id
  · unfold expireDeadMember
    split
    · exact book.keyed
    · dsimp only
      split
      · exact book.keyed
      · exact book.keyed.deleteKey pkiID

theorem learnAliveMember_self (now : Nat) (d : Discovery) (am : AliveMessage) :
    (learnAliveMember now d am).self = d.self := by
  unfold learnAliveMember
  split <;> rfl

theorem learnDeadMember_self (now : Nat) (d : Discovery) (dm : AliveMessage) :
    (learnDeadMember now d dm).self = d.self := by
  unfold learnDeadMember
  split <;> rfl

theorem learnDeadMember_aliveMembership (now : Nat) (d : Discovery) (dm : AliveMessage) :
    (learnDeadMember now d dm).aliveMembership = d.aliveMembership := by
  unfold learnDeadMember
  split <;> rfl

theorem updateMember_self (d : Discovery) (m : AliveMessage) : (updateMember d m).self = d.self := rfl

theorem updateMember_aliveMembership (d : Discovery) (m : AliveMessage) :
    (updateMember d m).aliveMembership = d.aliveMembership := rfl

theorem entry_learnAliveMember (now : Nat) (d : Discovery) (am : AliveMessage) (id : String) :
    (learnAliveMember now d am).entry id =
      (d.entry id).learn (decide (id = am.pkiId) && !decide (am.pkiId = d.self)) false false := by
  unfold learnAliveMember
  by_cases ours : am.pkiId = d.self
  · simp [ours]
  · by_cases same : id = am.pkiId <;> simp [Discovery.entry, Entry.learn, ours, same]

theorem entry_learnDeadMember (now : Nat) (d : Discovery) (dm : AliveMessage) (id : String) :
    (learnDeadMember now d dm).entry id =
      (d.entry id).learn false (decide (id = dm.pkiId) && !decide (dm.pkiId = d.self)) false := by
  unfold learnDeadMember
  by_cases ours : dm.pkiId = d.self
  · simp [ours]
  · by_cases same : id = dm.pkiId <;> simp [Discovery.entry, Entry.learn, ours, same]

theorem entry_updateMember (d : Discovery) (m : AliveMessage) (id : String) :
    (updateMember d m).entry id = (d.entry id).learn false false (decide (id = m.pkiId)) := by
  by_cases same : id = m.pkiId <;> simp [updateMember, Discovery.entry, Entry.learn, same]

theorem entry_foldl_learnAliveMember (now : Nat) (id : String) :
    ∀ (aliveMembers : List AliveMessage) (d : Discovery),
      (aliveMembers.foldl (learnAliveMember now) d).entry id =
        (d.entry id).learn
          (aliveMembers.any fun am => decide (id = am.pkiId) && !decide (am.pkiId = d.self)) false false
  | [], d => by simp
  | am :: rest, d => by
    rw [List.foldl_cons, entry_foldl_learnAliveMember now id rest, learnAliveMember_self,
      entry_learnAliveMember, Entry.learn_learn]
    simp

theorem entry_foldl_learnDeadMember (now : Nat) (id : String) :
    ∀ (deadMembers : List AliveMessage) (d : Discovery),
      (deadMembers.foldl (learnDeadMember now) d).entry id =
        (d.entry id).learn false
          (deadMembers.any fun dm => decide (id = dm.pkiId) && !decide (dm.pkiId = d.self)) false
  | [], d => by simp
  | dm :: rest, d => by
    rw [List.foldl_cons, entry_foldl_learnDeadMember now id rest, learnDeadMember_self,
      entry_learnDeadMember, Entry.learn_learn]
    simp

theorem entry_foldl_updateMember (id : String) :
    ∀ (members : List AliveMessage) (d : Discovery),
      (members.foldl updateMember d).entry id =
        (d.entry id).learn false false (members.any fun m => decide (id = m.pkiId))
  | [], d => by simp
  | m :: rest, d => by
    rw [List.foldl_cons, entry_foldl_updateMember id rest, entry_updateMember, Entry.learn_learn]
    simp

theorem learnNewMembers_self (now : Nat) (aliveMembers deadMembers : List AliveMessage)
    (d : Discovery) : (learnNewMembers now aliveMembers deadMembers d).self = d.self := by
  rw [learnNewMembers, List.foldl_keep Discovery.self updateMember_self,
    List.foldl_keep Discovery.self (learnDeadMember_self now),
    List.foldl_keep Discovery.self (learnAliveMember_self now)]

theorem entry_learnNewMembers (now : Nat) (aliveMembers deadMembers : List AliveMessage)
    (d : Discovery) (id : String) :
    (learnNewMembers now aliveMembers deadMembers d).entry id =
      (d.entry id).learn
        (aliveMembers.any fun am => decide (id = am.pkiId) && !decide (am.pkiId = d.self))
        (deadMembers.any fun dm => decide (id = dm.pkiId) && !decide (dm.pkiId = d.self))
        ((aliveMembers ++ deadMembers).any fun m => decide (id = m.pkiId)) := by
  rw [learnNewMembers, entry_foldl_updateMember, entry_foldl_learnDeadMember,
    List.foldl_keep Discovery.self (learnAliveMember_self now), entry_foldl_learnAliveMember,
    Entry.learn_learn, Entry.learn_learn]
  simp

theorem learnNewMembers_keyed {d : Discovery} (keyed : KeyedByPkiId d.aliveMembership) (now : Nat)
    (aliveMembers deadMembers : List AliveMessage) :
    KeyedByPkiId (learnNewMembers now aliveMembers deadMembers d).aliveMembership := by
  rw [learnNewMembers, List.foldl_keep Discovery.aliveMembership updateMember_aliveMembership,
    List.foldl_keep Discovery.aliveMembership (learnDeadMember_aliveMembership now)]
  refine List.foldlRecOn (motive := fun d' : Discovery => KeyedByPkiId d'.aliveMembership)
    aliveMembers (learnAliveMember now) keyed ?_
  intro d' keyed' am _
  unfold learnAliveMember
  split
  · exact keyed'
  · exact keyed'.setKey am

theorem learnNewMembers_bookkept {d : Discovery} (book : Bookkept d) (now : Nat)
    {aliveMembers deadMembers : List AliveMessage}
    (fresh : ∀ m ∈ aliveMembers ++ deadMembers, d.id2Member.hasKey m.pkiId = false)
    (apart : ∀ a ∈ aliveMembers, ∀ b ∈ deadMembers, a.pkiId ≠ b.pkiId) :
    Bookkept (learnNewMembers now aliveMembers deadMembers d) := by
  constructor
  · intro id
    rw [entry_learnNewMembers, learnNewMembers_self]
    by_cases listed : ∃ m ∈ aliveMembers ++ deadMembers, m.pkiId = id
    · obtain ⟨m, member, rfl⟩ := listed
      have unknown := Entry.eq_forgotten_of_unknown (book.entries m.pkiId) (fresh m member)
      have known : ((aliveMembers ++ deadMembers).any fun m' => decide (m.pkiId = m'.pkiId)) = true :=
        List.any_eq_true.mpr ⟨m, member, by simp⟩
      rw [unknown, known]
      apply Entry.bookkept_learn
      · -- a PKI-ID in both lists would be one `apart` excludes
        rw [Bool.eq_false_iff]
        intro both
        rw [Bool.and_eq_true, List.any_eq_true, List.any_eq_true] at both
        obtain ⟨⟨a, inAlive, isA⟩, ⟨b, inDead, isB⟩⟩ := both
        simp only [Bool.and_eq_true, decide_eq_true_eq, Bool.not_eq_true', decide_eq_false_iff_not]
          at isA isB
        exact apart a inAlive b inDead (isA.1.symm.trans isB.1)
      · intro ours
        have ours : m.pkiId = d.self := by simpa using ours
        constructor <;>
        · rw [List.any_eq_false]
          intro other _ learned
          simp only [Bool.and_eq_true, decide_eq_true_eq, Bool.not_eq_true', decide_eq_false_iff_not]
            at learned
          exact learned.2 (learned.1 ▸ ours)
      · intro other
        have other : m.pkiId ≠ d.self := by simpa using other
        rcases List.mem_append.mp member with inAlive | inDead
        · have learned : (aliveMembers.any fun am =>
              decide (m.pkiId = am.pkiId) && !decide (am.pkiId = d.self)) = true :=
            List.any_eq_true.mpr ⟨m, inAlive, by simp [other]⟩
          rw [learned, Bool.true_or]
        · have learned : (deadMembers.any fun dm =>
              decide (m.pkiId = dm.pkiId) && !decide (dm.pkiId = d.self)) = true :=
            List.any_eq_true.mpr ⟨m, inDead, by simp [other]⟩
          rw [learned, Bool.or_true]
    · have unlisted : ∀ m ∈ aliveMembers ++ deadMembers, ¬id = m.pkiId :=
        fun m member same => listed ⟨m, member, same.symm⟩
      have none : ((aliveMembers ++ deadMembers).any fun m => decide (id = m.pkiId)) = false :=
        List.any_eq_false.mpr fun m member => by simpa using unlisted m member
      have noAlive : (aliveMembers.any fun am =>
          decide (id = am.pkiId) && !decide (am.pkiId = d.self)) = false :=
        List.any_eq_false.mpr fun m member => by
          simp [unlisted m (List.mem_append_left deadMembers member)]
      have noDead : (deadMembers.any fun dm =>
          decide (id = dm.pkiId) && !decide (dm.pkiId = d.self)) = false :=
        List.any_eq_false.mpr fun m member => by
          simp [unlisted m (List.mem_append_right aliveMembers member)]
      rw [none, noAlive, noDead, Entry.learn_false]
      exact book.entries id
  · exact learnNewMembers_keyed book.keyed now aliveMembers deadMembers

theorem learnExistingMember_cases {d : Discovery} (book : Bookkept d) (now : Nat) (m : AliveMessage) :
    learnExistingMember now d m = .error .nilMember ∨
      ∃ d', learnExistingMember now d m = .ok d' ∧ Bookkept d' := by
  cases found : d.id2Member.lookup m.pkiId with
  | none =>
    left
    simp [learnExistingMember, found]
  | some member =>
    right
    have known : d.id2Member.hasKey m.pkiId = true := by simp [List.hasKey, found]
    by_cases dead : d.deadLastTS.hasKey m.pkiId = true
    · simp only [learnExistingMember, found, dead, if_true]
      refine ⟨_, rfl, book.of_entry_eq rfl (fun id => ?_) book.keyed⟩
      simp only [Discovery.entry, List.hasKey_setKey_of_hasKey known]
    · by_cases alive : d.aliveLastTS.hasKey m.pkiId = true
      · have aliveMsg : d.aliveMembership.hasKey m.pkiId = true :=
          Entry.aliveMsg_of_alive (book.entries m.pkiId) alive
        obtain ⟨am, msg⟩ := Option.isSome_iff_exists.mp aliveMsg
        simp only [learnExistingMember, found, dead, alive, msg, Bool.not_true, Bool.false_eq_true,
          if_false]
        refine ⟨_, rfl, book.of_entry_eq rfl (fun id => ?_) (book.keyed.setKey m)⟩
        simp only [Discovery.entry, List.hasKey_setKey_of_hasKey known,
          List.hasKey_setKey_of_hasKey alive, List.hasKey_setKey_of_hasKey aliveMsg]
      · simp only [learnExistingMember, found, dead, alive, Bool.not_false, if_true, if_false,
          Bool.false_eq_true]
        refine ⟨_, rfl, book.of_entry_eq rfl (fun id => ?_) book.keyed⟩
        simp only [Discovery.entry, List.hasKey_setKey_of_hasKey known]

theorem learnExistingMembers_cases (now : Nat) :
    ∀ (aliveArr : List AliveMessage) {d : Discovery}, Bookkept d →
      learnExistingMembers now aliveArr d = .error .nilMember ∨
        ∃ d', learnExistingMembers now aliveArr d = .ok d' ∧ Bookkept d'
  | [], d, book => Or.inr ⟨d, rfl, book⟩
  | m :: rest, d, book => by
    rw [learnExistingMembers, List.foldlM_cons]
    rcases learnExistingMember_cases book now m with failed | ⟨d', learned, book'⟩
    · left
      rw [failed]
      rfl
    · rw [learned, Except.ok_bind]
      exact learnExistingMembers_cases now rest book'

theorem expireDeadMember_self (d : Discovery) (pkiID : String) :
    (expireDeadMember d pkiID).self = d.self := by
  unfold expireDeadMember
  split
  · rfl
  · dsimp only
    split <;> rfl

theorem expireDeadMember_id2Member (d : Discovery) (pkiID : String) :
    (expireDeadMember d pkiID).id2Member = d.id2Member := by
  unfold expireDeadMember
  split
  · rfl
  · dsimp only
    split <;> rfl

theorem expireDeadMembers_bookkept {d : Discovery} (book : Bookkept d) (dead : List String) :
    Bookkept (expireDeadMembers dead d) :=
  List.foldlRecOn (motive := Bookkept) dead expireDeadMember book
    fun _ book' pkiID _ => expireDeadMember_bookkept book' pkiID

theorem expireMessages_snd (msgTTL now : Nat) :
    ∀ (messages : List Msg) (d : Discovery),
      ∃ expiring : List AliveMessage,
        (expireMessages msgTTL now messages d).2 = expiring.foldl callback d ∧
          ∀ m ∈ messages, m.expired = false → msgTTL < now - m.created → m.data ∈ expiring
  | [], d => ⟨[], rfl, fun _ member => by cases member⟩
  | m :: rest, d => by
    by_cases due : m.expired = false ∧ msgTTL < now - m.created
    · obtain ⟨expiring, result, stale⟩ := expireMessages_snd msgTTL now rest (callback d m.data)
      refine ⟨m.data :: expiring, ?_, ?_⟩
      · simp [expireMessages, due.1, due.2, result]
      · intro m' member notExpired late
        rcases List.mem_cons.mp member with rfl | later
        · exact List.mem_cons_self
        · exact List.mem_cons_of_mem _ (stale m' later notExpired late)
    · obtain ⟨expiring, result, stale⟩ := expireMessages_snd msgTTL now rest d
      refine ⟨expiring, ?_, ?_⟩
      · by_cases expired : m.expired = false
        · have early : ¬msgTTL < now - m.created := fun late => due ⟨expired, late⟩
          simp [expireMessages, expired, early, result]
        · simp only [Bool.not_eq_false] at expired
          simp only [expireMessages, expired, Bool.not_true, Bool.false_eq_true, if_false]
          split <;> simp [result]
      · intro m' member notExpired late
        rcases List.mem_cons.mp member with rfl | later
        · exact absurd ⟨notExpired, late⟩ due
        · exact stale m' later notExpired late

theorem entry_foldl_callback (id : String) :
    ∀ (expiring : List AliveMessage) (d : Discovery),
      (expiring.foldl callback d).entry id =
        if expiring.any fun msg => decide (id = msg.pkiId) then Entry.forgotten else d.entry id
  | [], d => by simp
  | msg :: rest, d => by
    rw [List.foldl_cons, entry_foldl_callback id rest, entry_callback]
    by_cases same : id = msg.pkiId <;> simp [same]

theorem foldl_callback_bookkept {d : Discovery} (book : Bookkept d) (expiring : List AliveMessage) :
    Bookkept (expiring.foldl callback d) :=
  List.foldlRecOn (motive := Bookkept) expiring callback book
    fun _ book' msg _ => callback_bookkept book' msg

def HandlerOk (d : Discovery) : Handler → Prop
  | .known m _ | .liveness m _ | .resurrect m _ => m.pkiId ≠ d.self
  | .learnNew aliveMembers deadMembers _ =>
    (∀ m ∈ aliveMembers ++ deadMembers, d.id2Member.hasKey m.pkiId = false) ∧
      ∀ a ∈ aliveMembers, ∀ b ∈ deadMembers, a.pkiId ≠ b.pkiId
  | .panicked reason => reason = .neitherAliveNorDead ∨ reason = .nilMember
  | _ => True

theorem HandlerOk.of_forgetting {d d' : Discovery} {handler : Handler} (ok : HandlerOk d handler)
    (self : d'.self = d.self)
    (shrink : ∀ id, d'.id2Member.hasKey id = true → d.id2Member.hasKey id = true) :
    HandlerOk d' handler := by
  cases handler with
  | known m rest => rw [HandlerOk, self]; exact ok
  | liveness m rest => rw [HandlerOk, self]; exact ok
  | resurrect m rest => rw [HandlerOk, self]; exact ok
  | learnNew aliveMembers deadMembers rest =>
    obtain ⟨fresh, apart⟩ := ok
    refine ⟨fun m member => ?_, apart⟩
    cases still : d'.id2Member.hasKey m.pkiId
    · rfl
    · have before := shrink m.pkiId still
      rw [fresh m member] at before
      cases before
  | panicked reason => exact ok
  | idle | entries _ | aliveTS _ _ | learnExisting _ _ | deadKnown _ _ => trivial

structure Inv (s : System) : Prop where
  bookkept : Bookkept s.d
  handler : HandlerOk s.d s.handler

section Runs

variable {validateAliveMsg : AliveMessage → Bool} {msgTTL : Nat}

theorem handlerOk_handleAliveMessage (d : Discovery) (m : AliveMessage) (rest : List Task) :
    HandlerOk d (handleAliveMessage validateAliveMsg d.self m rest) := by
  unfold handleAliveMessage
  split
  · trivial
  · split
    · trivial
    · next ours => exact ours

theorem receive_inv {s : System} (inv : Inv s) (msg : GossipMessage) :
    Inv (handleMsgFromComm validateAliveMsg msg s) := by
  cases msg with
  | memReq selfInformation => exact ⟨inv.bookkept, trivial⟩
  | memRes alive dead => exact ⟨inv.bookkept, trivial⟩
  | aliveMsg m =>
    simp only [handleMsgFromComm]
    split
    · exact ⟨inv.bookkept, handlerOk_handleAliveMessage s.d m []⟩
    · exact ⟨inv.bookkept, inv.handler⟩

theorem handlerStep_inv {s s' : System} (inv : Inv s)
    (step : handlerStep validateAliveMsg s = some s') : Inv s' := by
  obtain ⟨book, ok⟩ := inv
  cases handler : s.handler with
  | idle => simp [handlerStep, handler] at step
  | panicked reason => simp [handlerStep, handler] at step
  | entries tasks =>
    cases tasks with
    | nil =>
      simp only [handlerStep, handler, Option.some.injEq] at step
      subst step
      exact ⟨book, trivial⟩
    | cons task rest =>
      cases task with
      | alive m =>
        simp only [handlerStep, handler, Option.some.injEq] at step
        subst step
        refine ⟨book, ?_⟩
        split
        · exact handlerOk_handleAliveMessage s.d m rest
        · trivial
      | dead m =>
        simp only [handlerStep, handler, Option.some.injEq] at step
        subst step
        refine ⟨book, ?_⟩
        split
        · trivial
        · split <;> trivial
  | deadKnown m rest =>
    simp only [handlerStep, handler, Option.some.injEq] at step
    subst step
    refine ⟨book, ?_, fun _ inAlive => by cases inAlive⟩
    intro x member
    split at member
    · cases member
    · next unknown =>
      rw [List.nil_append, List.mem_singleton] at member
      subst member
      simpa using unknown
  | known m rest =>
    simp only [handlerStep, handler, Option.some.injEq] at step
    subst step
    refine ⟨book, ?_⟩
    split
    · -- known: the PKI-ID is not ours, as handleAliveMessage checked
      simpa [HandlerOk, handler] using ok
    · next unknown =>
      refine ⟨fun x member => ?_, fun _ _ _ inDead => by cases inDead⟩
      rw [List.append_nil, List.mem_singleton] at member
      subst member
      simpa using unknown
  | liveness m rest =>
    have notSelf : m.pkiId ≠ s.d.self := by simpa [HandlerOk, handler] using ok
    simp only [handlerStep, handler] at step
    cases alive : s.d.aliveLastTS.hasKey m.pkiId <;> cases dead : s.d.deadLastTS.lookup m.pkiId <;>
      simp only [alive, dead, Option.some.injEq] at step <;> subst step
    · exact ⟨book, Or.inl rfl⟩
    · refine ⟨book, ?_⟩
      split
      · exact notSelf
      · trivial
    · exact ⟨book, trivial⟩
    · -- alive and dead at once: the bookkeeping rules it out
      exfalso
      have notDead := Entry.not_dead_of_alive (book.entries m.pkiId) alive
      simp [Discovery.entry, List.hasKey, dead] at notDead
  | aliveTS m rest =>
    simp only [handlerStep, handler] at step
    split at step <;>
    · simp only [Option.some.injEq] at step
      subst step
      refine ⟨book, ?_⟩
      try split
      all_goals trivial
  | learnNew aliveMembers deadMembers rest =>
    obtain ⟨fresh, apart⟩ : HandlerOk s.d (.learnNew aliveMembers deadMembers rest) := handler ▸ ok
    simp only [handlerStep, handler, Option.some.injEq] at step
    subst step
    exact ⟨learnNewMembers_bookkept book s.now fresh apart, trivial⟩
  | resurrect m rest =>
    have notSelf : m.pkiId ≠ s.d.self := by simpa [HandlerOk, handler] using ok
    simp only [handlerStep, handler, Option.some.injEq] at step
    subst step
    exact ⟨resurrectMember_bookkept book s.now m m.timestamp notSelf, trivial⟩
  | learnExisting m rest =>
    simp only [handlerStep, handler] at step
    rcases learnExistingMembers_cases s.now [m] book with failed | ⟨d', learned, book'⟩
    · rw [failed] at step
      simp only [Option.some.injEq] at step
      subst step
      exact ⟨book, Or.inr rfl⟩
    · rw [learned] at step
      simp only [Option.some.injEq] at step
      subst step
      exact ⟨book', trivial⟩

theorem step_inv {s s' : System} (inv : Inv s) (step : Step validateAliveMsg msgTTL s s') :
    Inv s' := by
  cases step with
  | receive msg _ => exact receive_inv inv msg
  | handle _ step => exact handlerStep_inv inv step
  | checkAlive dead =>
    have self : (expireDeadMembers dead s.d).self = s.d.self :=
      List.foldl_keep Discovery.self expireDeadMember_self dead s.d
    have members : (expireDeadMembers dead s.d).id2Member = s.d.id2Member :=
      List.foldl_keep Discovery.id2Member expireDeadMember_id2Member dead s.d
    exact ⟨expireDeadMembers_bookkept inv.bookkept dead,
      inv.handler.of_forgetting self (fun id known => members ▸ known)⟩
  | expire =>
    obtain ⟨expiring, result, -⟩ := expireMessages_snd msgTTL s.now s.msgStore s.d
    have self : (expiring.foldl callback s.d).self = s.d.self :=
      List.foldl_keep Discovery.self callback_self expiring s.d
    have shrink : ∀ id, (expiring.foldl callback s.d).id2Member.hasKey id = true →
        s.d.id2Member.hasKey id = true := by
      intro id known
      have entry := entry_foldl_callback id expiring s.d
      split at entry
      · have gone : (expiring.foldl callback s.d).id2Member.hasKey id = false :=
          congrArg Entry.known entry
        rw [gone] at known
        cases known
      · have same : (expiring.foldl callback s.d).id2Member.hasKey id = s.d.id2Member.hasKey id :=
          congrArg Entry.known entry
        rw [← same]
        exact known
    simp only [expireStore, result]
    exact ⟨foldl_callback_bookkept inv.bookkept expiring, inv.handler.of_forgetting self shrink⟩
  | tick => exact ⟨inv.bookkept, inv.handler⟩

theorem init_inv (self : String) : Inv (System.init self) :=
  ⟨⟨fun id => Entry.bookkept_forgotten (id == self), fun _ member => by cases member⟩, trivial⟩

theorem reachable_inv {self : String} {s : System}
    (reach : Reachable validateAliveMsg msgTTL self s) : Inv s := by
  induction reach with
  | refl => exact init_inv self
  | tail _ step inv => exact step_inv inv step

/-- The handler panics only because a member it read was forgotten before it acted: never for a
PKI-ID alive and dead at once, and never for a missing alive message. -/
theorem reachable_panicked {self : String} {s : System} {reason : Panic}
    (reach : Reachable validateAliveMsg msgTTL self s) (panicked : s.handler = .panicked reason) :
    reason = .neitherAliveNorDead ∨ reason = .nilMember := by
  have ok := (reachable_inv reach).handler
  rw [panicked] at ok
  exact ok

theorem copyLastSeen_ok {d : Discovery} (book : Bookkept d) (order : RangeOrder String)
    {lastSeenMap : List (String × Timestamp)}
    (timestamps : lastSeenMap = d.aliveLastTS ∨ lastSeenMap = d.deadLastTS) :
    ∃ members, copyLastSeen order lastSeenMap d = .ok members := by
  apply Except.mapM_eq_ok_of_forall
  intro id visited
  obtain ⟨⟨key, ts⟩, member, rfl⟩ := List.mem_map.mp ((order.perm _).subset visited)
  have stamped := List.hasKey_of_mem member
  have known : d.id2Member.hasKey key = true := by
    rcases timestamps with rfl | rfl
    · exact Entry.known_of_alive (book.entries key) stamped
    · exact Entry.known_of_dead (book.entries key) stamped
  obtain ⟨found, lookup⟩ := Option.isSome_iff_exists.mp known
  exact ⟨found, by simp [lookup, Except.require]⟩

theorem getMembership_ok {d : Discovery} (book : Bookkept d)
    (order : RangeOrder (String × AliveMessage)) : ∃ members, getMembership order d = .ok members := by
  apply Except.mapM_eq_ok_of_forall
  intro ⟨key, m⟩ visited
  have member : (key, m) ∈ d.aliveMembership := (order.perm _).subset visited
  have keyed : m.pkiId = key := book.keyed _ member
  have alive := Entry.alive_of_aliveMsg (book.entries key) (List.hasKey_of_mem member)
  have known : d.id2Member.hasKey m.pkiId = true := keyed ▸ Entry.known_of_alive (book.entries key) alive
  obtain ⟨found, lookup⟩ := Option.isSome_iff_exists.mp known
  exact ⟨⟨m.endpoint, m.metadata, m.pkiId, found.internalEndpoint⟩, by simp [lookup, Except.require]⟩

/-- What copyLastSeen and GetMembership read under the read lock is always there. -/
theorem reachable_reads_ok {self : String} {s : System}
    (reach : Reachable validateAliveMsg msgTTL self s) (order : RangeOrder String)
    (membersOrder : RangeOrder (String × AliveMessage)) :
    (∃ members, copyLastSeen order s.d.aliveLastTS s.d = .ok members) ∧
      (∃ members, copyLastSeen order s.d.deadLastTS s.d = .ok members) ∧
        ∃ members, getMembership membersOrder s.d = .ok members := by
  have book := (reachable_inv reach).bookkept
  exact ⟨copyLastSeen_ok book order (Or.inl rfl), copyLastSeen_ok book order (Or.inr rfl),
    getMembership_ok book membersOrder⟩

end Runs

section Failures

variable (validateAliveMsg : AliveMessage → Bool) (msgTTL : Nat)

theorem dead_entry_of_ourselves_is_learned (s : System) (idle : s.handler = .idle)
    (dm : AliveMessage) (ours : dm.pkiId = s.d.self) (authentic : validateAliveMsg dm = true)
    (valid : checkValid dm s.msgStore = true) :
    ∃ s', Relation.ReflTransGen (Step validateAliveMsg msgTTL) s s' ∧ s'.handler = .idle ∧
      s'.d.id2Member.hasKey s'.d.self = true := by
  let newDead := if s.d.id2Member.hasKey dm.pkiId then [] else [dm]
  have entry : handlerStep validateAliveMsg (handleMsgFromComm validateAliveMsg (.memRes [] [dm]) s) =
      some { s with handler := .deadKnown dm [] } := by
    simp [handleMsgFromComm, handlerStep, authentic, valid]
  have read : handlerStep validateAliveMsg { s with handler := .deadKnown dm [] } =
      some { s with handler := .learnNew [] newDead [] } := rfl
  have learn : handlerStep validateAliveMsg { s with handler := .learnNew [] newDead [] } =
      some { s with d := learnNewMembers s.now [] newDead s.d, handler := .entries [] } := rfl
  have done : handlerStep validateAliveMsg
      { s with d := learnNewMembers s.now [] newDead s.d, handler := .entries [] } =
      some { s with d := learnNewMembers s.now [] newDead s.d, handler := .idle } := rfl
  refine ⟨_, ((((Relation.ReflTransGen.single (Step.receive s _ idle)).tail
    (Step.handle _ _ entry)).tail (Step.handle _ _ read)).tail (Step.handle _ _ learn)).tail
    (Step.handle _ _ done), rfl, ?_⟩
  -- the member of our PKI-ID: there before, or added by the last loop
  have known := congrArg Entry.known (entry_learnNewMembers s.now [] newDead s.d s.d.self)
  simp only [Discovery.entry, Entry.learn] at known
  simp only [learnNewMembers_self, known, Bool.or_eq_true]
  by_cases before : s.d.id2Member.hasKey dm.pkiId = true
  · exact Or.inl (ours ▸ before)
  · have notBefore : s.d.id2Member.hasKey s.d.self = false := by simpa [ours] using before
    right
    simp [newDead, ours, notBefore]

theorem expiry_between_reads_panics (s : System) (idle : s.handler = .idle) (m : AliveMessage)
    (notSelf : m.pkiId ≠ s.d.self) (authentic : validateAliveMsg m = true)
    (valid : checkValid m s.msgStore = true) (known : s.d.id2Member.hasKey m.pkiId = true)
    (stored : Msg) (inStore : stored ∈ s.msgStore) (same : stored.data.pkiId = m.pkiId)
    (notExpired : stored.expired = false) (late : msgTTL < s.now - stored.created) :
    ∃ s', Relation.ReflTransGen (Step validateAliveMsg msgTTL) s s' ∧
      s'.handler = .panicked .neitherAliveNorDead := by
  have entry : handlerStep validateAliveMsg (handleMsgFromComm validateAliveMsg (.memRes [m] []) s) =
      some { s with handler := .known m [] } := by
    simp [handleMsgFromComm, handlerStep, valid, handleAliveMessage, authentic, notSelf]
  have read : handlerStep validateAliveMsg { s with handler := .known m [] } =
      some { s with handler := .liveness m [] } := by
    simp [handlerStep, known]
  -- the store's expiration routine runs before the second read
  let expired := expireStore msgTTL { s with handler := .liveness m [] }
  obtain ⟨expiring, result, stale⟩ := expireMessages_snd msgTTL s.now s.msgStore s.d
  have listed : (expiring.any fun msg => decide (m.pkiId = msg.pkiId)) = true :=
    List.any_eq_true.mpr ⟨stored.data, stale stored inStore notExpired late, by simp [same]⟩
  have forgotten : expired.d.entry m.pkiId = Entry.forgotten := by
    show (expireMessages msgTTL s.now s.msgStore s.d).2.entry m.pkiId = _
    rw [result, entry_foldl_callback, if_pos listed]
  have notAlive : expired.d.aliveLastTS.hasKey m.pkiId = false := congrArg Entry.alive forgotten
  have notDead : expired.d.deadLastTS.lookup m.pkiId = none := by
    have noKey : expired.d.deadLastTS.hasKey m.pkiId = false := congrArg Entry.dead forgotten
    simpa [List.hasKey] using noKey
  have panic : handlerStep validateAliveMsg expired =
      some { expired with handler := .panicked .neitherAliveNorDead } := by
    have handler : expired.handler = .liveness m [] := rfl
    simp only [handlerStep, handler, notAlive, notDead]
  exact ⟨_, ((((Relation.ReflTransGen.single (Step.receive s _ idle)).tail
    (Step.handle _ _ entry)).tail (Step.handle _ _ read)).tail (Step.expire _)).tail
    (Step.handle _ _ panic), rfl⟩

theorem ticks (s : System) :
    ∀ k, Relation.ReflTransGen (Step validateAliveMsg msgTTL) s { s with now := s.now + k }
  | 0 => Relation.ReflTransGen.refl
  | k + 1 => (ticks s k).tail (Step.tick _)

end Failures

def ownAliveMessage : AliveMessage := ⟨"peer0", "peer0:7051", "", ⟨1, 1⟩, none⟩

def peer1Alive (incNum : Nat) : AliveMessage := ⟨"peer1", "peer1:7051", "", ⟨incNum, 1⟩, none⟩

def peer1Expired : System :=
  ⟨expireDeadMembers ["peer1"] (learnNewMembers 0 [peer1Alive 1] [] (System.init "peer0").d),
    [⟨peer1Alive 1, 0, false⟩], .idle, 0⟩

theorem peer1Expired_reachable (msgTTL : Nat) : Reachable (fun _ => true) msgTTL "peer0" peer1Expired :=
  ((((Relation.ReflTransGen.single (Step.receive _ (.aliveMsg (peer1Alive 1)) rfl)).tail
    (Step.handle _ _ rfl)).tail (Step.handle _ _ rfl)).tail (Step.handle _ _ rfl)).tail
    (Step.checkAlive _ ["peer1"])

theorem peer1_returning_panics (msgTTL : Nat) :
    ∃ s, Reachable (fun _ => true) msgTTL "peer0" s ∧ s.handler = .panicked .neitherAliveNorDead := by
  have later := (peer1Expired_reachable msgTTL).trans
    (ticks (fun _ => true) msgTTL peer1Expired (msgTTL + 1))
  obtain ⟨s, run, panicked⟩ := expiry_between_reads_panics (fun _ => true) msgTTL
    { peer1Expired with now := peer1Expired.now + (msgTTL + 1) } rfl (peer1Alive 2)
    (show "peer1" ≠ "peer0" by decide) rfl rfl rfl ⟨peer1Alive 1, 0, false⟩ List.mem_cons_self rfl
    rfl (by simp [peer1Expired])
  exact ⟨s, later.trans run, panicked⟩

theorem membership_bookkeeping_breaks (msgTTL : Nat) :
    (∃ s, Reachable (fun _ => true) msgTTL "peer0" s ∧ s.handler = .idle ∧ ¬Consistent s.d) ∧
      ∃ s, Reachable (fun _ => true) msgTTL "peer0" s ∧ s.handler = .panicked .neitherAliveNorDead := by
  constructor
  · obtain ⟨s, run, idle, ours⟩ := dead_entry_of_ourselves_is_learned (fun _ => true) msgTTL
      (System.init "peer0") rfl ownAliveMessage rfl rfl rfl
    exact ⟨s, run, idle, not_consistent_of_self_known ours⟩
  · exact peer1_returning_panics msgTTL

theorem reachable_panicked_when_peer1_returns :
    ∃ s, Reachable (fun _ => true) 0 "peer0" s ∧ s.handler = .panicked .neitherAliveNorDead ∧
      (Panic.neitherAliveNorDead = .neitherAliveNorDead ∨ Panic.neitherAliveNorDead = .nilMember) := by
  obtain ⟨s, reach, panicked⟩ := peer1_returning_panics 0
  exact ⟨s, reach, panicked, reachable_panicked reach panicked⟩

theorem reachable_reads_ok_after_peer1_expired :
    Reachable (fun _ => true) 0 "peer0" peer1Expired ∧
      (∃ members, copyLastSeen ⟨id, fun _ => .refl _⟩ peer1Expired.d.aliveLastTS peer1Expired.d = .ok members) ∧
      (∃ members, copyLastSeen ⟨id, fun _ => .refl _⟩ peer1Expired.d.deadLastTS peer1Expired.d = .ok members) ∧
      ∃ members, getMembership ⟨id, fun _ => .refl _⟩ peer1Expired.d = .ok members :=
  ⟨peer1Expired_reachable 0, reachable_reads_ok (peer1Expired_reachable 0) _ _⟩

end Fabric.GossipDiscovery
