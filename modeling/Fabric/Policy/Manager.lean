import Fabric.Lib.Basic
import Fabric.Lib.Utf8
import Fabric.Protos.Common

/-! `common/policies/policy.go`: the policy manager of a channel. Each manager holds the
policies of one config group by name and the managers of its child groups; a mod policy is
resolved against it by `Manager` (a walk down the group names) and `GetPolicy`.

A `Policy` is what the Go interface offers, its `Evaluate`. A Go string is its UTF-8 bytes
(`goBytes`): `GetPolicy` tests its prefixes, cuts an absolute id and looks the rest up byte by
byte. `NewManagerImpl` is modelled in `Fabric.Policy.ImplicitMeta`. -/

namespace Fabric.Policies

abbrev Policy := List SignedData → Except String Unit

def pathSeparator : String := "/"

structure ManagerImpl where
  path : String
  policies : List (String × Policy)
  managers : List (String × ManagerImpl)

def goBytes (s : String) : Bytes := Utf8.encode s.toList

def goText (b : Bytes) : String :=
  match String.fromUTF8? b.toByteArray with
  | some s => s
  | none => String.ofList (b.map fun byte => Char.ofNat byte.toNat)

def rejectPolicy (id : String) : Policy := fun _ => .error s!"No such policy: \x27{id}\x27"

def ManagerImpl.manager (pm : ManagerImpl) : List String → Option ManagerImpl
  | [] => some pm
  | name :: rest =>
      match pm.managers.lookup name with
      | none => none
      | some m => m.manager rest

/-- `pm.policies[relpath]`: Go's map compares the key's bytes. -/
def ManagerImpl.lookupPolicy (pm : ManagerImpl) (relpath : Bytes) : Policy × Bool :=
  match pm.policies.find? fun entry => goBytes entry.1 == relpath with
  | none => (rejectPolicy (goText relpath), false)
  | some entry => (entry.2, true)

def ManagerImpl.getPolicy (pm : ManagerImpl) (id : String) : Except String (Policy × Bool) :=
  if id = "" then .ok (rejectPolicy id, false)
  else if (goBytes pathSeparator).isPrefixOf (goBytes id) then
    if !(goBytes (pathSeparator ++ pm.path)).isPrefixOf (goBytes id) then .ok (rejectPolicy id, false)
    else
      -- strip off the leading slash, the path, and the trailing slash: Go slices bytes
      let start := 1 + (goBytes pm.path).length + 1
      let length := (goBytes id).length
      if length < start then .error s!"runtime error: slice bounds out of range [{start}:{length}]"
      else .ok (pm.lookupPolicy ((goBytes id).drop start))
  else .ok (pm.lookupPolicy (goBytes id))

theorem goBytes_append (s t : String) : goBytes (s ++ t) = goBytes s ++ goBytes t := by
  rw [goBytes, goBytes, goBytes, String.toList_append, Utf8.encode_append]

theorem goBytes_singleton_of_le {c : Char} (ascii : c.val.toNat ≤ 0x7f) :
    goBytes (String.singleton c) = [UInt8.ofNat c.val.toNat] := by
  rw [goBytes, String.toList_singleton, Utf8.encode_cons, Utf8.encode_nil, List.append_nil, String.utf8EncodeChar]
  exact if_pos ascii

theorem getPolicy_eq_ok {pm : ManagerImpl} {id : String} {result : Policy × Bool}
    (got : pm.getPolicy id = .ok result) :
    result = (rejectPolicy id, false) ∨ ∃ relpath, pm.lookupPolicy relpath = result := by
  unfold ManagerImpl.getPolicy at got
  dsimp only at got
  by_cases empty : id = ""
  · rw [if_pos empty] at got
    exact .inl (Except.ok.inj got).symm
  rw [if_neg empty] at got
  by_cases absolute : (goBytes pathSeparator).isPrefixOf (goBytes id) = true
  · rw [if_pos absolute] at got
    by_cases other : (!(goBytes (pathSeparator ++ pm.path)).isPrefixOf (goBytes id)) = true
    · rw [if_pos other] at got
      exact .inl (Except.ok.inj got).symm
    rw [if_neg other] at got
    -- an id too short for the cut panics, and the panic is no policy
    by_cases short : (goBytes id).length < 1 + (goBytes pm.path).length + 1
    · rw [if_pos short] at got
      cases got
    · rw [if_neg short] at got
      exact .inr ⟨_, Except.ok.inj got⟩
  · rw [if_neg absolute] at got
    exact .inr ⟨_, Except.ok.inj got⟩

theorem getPolicy_absolute (pm : ManagerImpl) :
    (let start := 1 + (goBytes pm.path).length + 1
     let stop := (goBytes ("/" ++ pm.path)).length
     pm.getPolicy ("/" ++ pm.path) = .error s!"runtime error: slice bounds out of range [{start}:{stop}]") ∧
      ∀ (id : String) (b : UInt8) (rest : Bytes), goBytes id = goBytes ("/" ++ pm.path) ++ b :: rest →
        pm.getPolicy id = .ok (pm.lookupPolicy rest) := by
  have slashBytes : goBytes "/" = [0x2f] := by decide
  -- an id that starts with the separator and the path passes both prefix checks
  have prefixes : ∀ {id : String} {tail : Bytes}, goBytes id = goBytes ("/" ++ pm.path) ++ tail →
      id ≠ "" ∧ (goBytes pathSeparator).isPrefixOf (goBytes id) = true ∧
        (goBytes (pathSeparator ++ pm.path)).isPrefixOf (goBytes id) = true := by
    intro id tail bytes
    refine ⟨?_, ?_, ?_⟩
    · rintro rfl
      rw [goBytes_append, slashBytes] at bytes
      cases bytes
    · rw [bytes, goBytes_append, pathSeparator, slashBytes, List.isPrefixOf_iff_prefix]
      simp
    · rw [bytes, pathSeparator, List.isPrefixOf_iff_prefix]
      exact List.prefix_append _ _
  have pathLength : (goBytes ("/" ++ pm.path)).length = 1 + (goBytes pm.path).length := by
    rw [goBytes_append, slashBytes, List.length_append, List.length_singleton]
  constructor
  · obtain ⟨named, slash, own⟩ :=
      prefixes (show goBytes ("/" ++ pm.path) = goBytes ("/" ++ pm.path) ++ [] from (List.append_nil _).symm)
    unfold ManagerImpl.getPolicy
    rw [if_neg named, if_pos slash, own, if_neg (by decide), if_pos (by omega)]
  · intro id b rest bytes
    obtain ⟨named, slash, own⟩ := prefixes bytes
    have long : ¬(goBytes id).length < 1 + (goBytes pm.path).length + 1 := by
      rw [bytes, List.length_append, pathLength, List.length_cons]
      omega
    -- what is left after the cut is the rest of the id's bytes
    have cut : (goBytes id).drop (1 + (goBytes pm.path).length + 1) = rest := by
      rw [bytes, ← pathLength, List.drop_append, List.drop_of_length_le (by omega), List.nil_append,
        Nat.add_sub_cancel_left, List.drop_one, List.tail_cons]
    unfold ManagerImpl.getPolicy
    rw [if_neg named, if_pos slash, own, if_neg (by decide), if_neg long, cut]

end Fabric.Policies
