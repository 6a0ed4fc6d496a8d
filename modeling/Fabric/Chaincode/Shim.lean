import Fabric.Lib.Utf8
import Fabric.Lib.ByteString
import Fabric.Lib.OrderedStore
import Fabric.Lib.Basic
import Fabric.Protos.Common

/-! The composite keys of the chaincode shim (`core/chaincode/shim/chaincode.go`): a key is the
namespace byte `0x00`, then the object type and each attribute, each followed by `0x00`.
Attributes are valid UTF-8 without `U+0000` and `U+10FFFF`, so no attribute holds a zero byte:
splitting at the zero bytes gives the attributes back, and the range a partial key requests,
up to the partial key followed by the encoding of `U+10FFFF`, holds exactly the keys that
extend it attribute by attribute. Go strings are byte strings here. -/

namespace Fabric.Shim

open Utf8

def minUnicodeRuneValue : Char := Char.ofNat 0

def maxUnicodeRuneValue : Char := Utf8.maxRune

def compositeKeyNamespace : Bytes := [0]

def runeString (r : Char) : Bytes := String.utf8EncodeChar r

def hexString (bytes : Bytes) : String :=
  String.join (bytes.map fun b => String.ofList (Nat.toDigits 16 (b.toNat / 16) ++ Nat.toDigits 16 (b.toNat % 16)))

def runeName (r : Char) : String :=
  let digits := (Nat.toDigits 16 r.toNat).map Char.toUpper
  "U+" ++ String.ofList (List.replicate (4 - digits.length) (Char.ofNat 48) ++ digits)

/-- `validateCompositeKeyAttribute`: valid UTF-8 (Go's `utf8.ValidString`), and no rune is
`U+0000` or `U+10FFFF`; the error names the first such rune and its byte position. -/
def validateCompositeKeyAttribute (str : Bytes) : Except String Unit :=
  match str.toByteArray.utf8Decode? with
  | none => .error s!"not a valid utf8 string: [{hexString str}]"
  | some runes =>
      let forbidden := fun runeValue : Char => runeValue == minUnicodeRuneValue || runeValue == maxUnicodeRuneValue
      match runes.toList.find? forbidden with
      | none => .ok ()
      | some runeValue =>
          let index := (encode (runes.toList.takeWhile fun r => !forbidden r)).length
          .error (s!"input contain unicode {runeName runeValue} starting at position [{index}]. " ++
            s!"{runeName minUnicodeRuneValue} and {runeName maxUnicodeRuneValue} are not allowed in the " ++
            "input attribute of a composite key")

def createCompositeKey (objectType : Bytes) (attributes : List Bytes) : Except String Bytes := do
  validateCompositeKeyAttribute objectType
  attributes.foldlM (fun ck att => do
      validateCompositeKeyAttribute att
      return ck ++ att ++ runeString minUnicodeRuneValue)
    (compositeKeyNamespace ++ objectType ++ runeString minUnicodeRuneValue)

def splitComponents : Bytes → Bytes → List Bytes → List Bytes
  -- each zero byte ends a component; bytes after the last zero byte are dropped
  | [], _, components => components
  | b :: rest, current, components =>
      if b = 0 then splitComponents rest [] (components ++ [current])
      else splitComponents rest (current ++ [b]) components

/-- `splitCompositeKey`; Go's `components[0]` panics when no component was found. -/
def splitCompositeKey (compositeKey : Bytes) : Except String (Bytes × List Bytes) :=
  match splitComponents compositeKey.tail [] [] with
  | [] => .error "runtime error: index out of range [0] with length 0"
  | objectType :: attributes => .ok (objectType, attributes)

/-- `validateSimpleKeys`: no key starts with the composite key namespace. -/
def validateSimpleKeys (simpleKeys : List Bytes) : Except String Unit :=
  simpleKeys.forM fun key =>
    if key ≠ [] ∧ key.head? = compositeKeyNamespace.head? then
      .error s!"first character of the key [{hexString key}] contains a null character which is not allowed"
    else .ok ()

def getStateByPartialCompositeKey (objectType : Bytes) (attributes : List Bytes) :
    Except String (String × Bytes × Bytes) := do
  let partialCompositeKey ← createCompositeKey objectType attributes
  return ("", partialCompositeKey, partialCompositeKey ++ runeString maxUnicodeRuneValue)

def getPrivateDataByPartialCompositeKey (collection : String) (objectType : Bytes) (attributes : List Bytes) :
    Except String (String × Bytes × Bytes) :=
  if collection = "" then .error "collection must not be an empty string"
  else do
    let partialCompositeKey ← createCompositeKey objectType attributes
    return (collection, partialCompositeKey, partialCompositeKey ++ runeString maxUnicodeRuneValue)

theorem runeString_min : runeString minUnicodeRuneValue = [0] := by decide

def Allowed (component : Bytes) : Prop :=
  ∃ chars : List Char, component = encode chars ∧ ∀ c ∈ chars, c ≠ minUnicodeRuneValue ∧ c ≠ maxUnicodeRuneValue

theorem validateCompositeKeyAttribute_eq_ok_iff (str : Bytes) :
    validateCompositeKeyAttribute str = .ok () ↔ Allowed str := by
  unfold validateCompositeKeyAttribute
  constructor
  · intro valid
    split at valid
    · cases valid
    · rename_i runes decoded
      dsimp only at valid
      split at valid
      · rename_i clean
        refine ⟨runes.toList, utf8Decode?_eq_some_iff.mp decoded, fun c member => ?_⟩
        simpa using List.find?_eq_none.mp clean c member
      · cases valid
  · rintro ⟨chars, rfl, allowed⟩
    rw [utf8Decode?_eq_some_iff.mpr (by simp : encode chars = encode chars.toArray.toList)]
    dsimp only
    rw [List.find?_eq_none.mpr (fun c member => by simpa using allowed c (by simpa using member))]

theorem Allowed.zero_not_mem {component : Bytes} (allowed : Allowed component) : 0 ∉ component := by
  obtain ⟨chars, rfl, each⟩ := allowed
  intro member
  exact encode_ne_zero (fun c member => toNat_ne_zero (each c member).1) 0 member rfl

theorem Allowed.append_zero_lt {component : Bytes} (allowed : Allowed component) (more : Bytes) :
    component ++ 0 :: more < runeString maxUnicodeRuneValue := by
  obtain ⟨chars, rfl, each⟩ := allowed
  cases chars with
  | nil =>
    rw [runeString, maxUnicodeRuneValue, utf8EncodeChar_maxRune]
    exact List.cons_lt_cons_iff.mpr (.inl (by decide))
  | cons c chars =>
    rw [encode_cons, List.append_assoc]
    exact utf8EncodeChar_append_lt_maxRune (toNat_ne_maxRune (each c List.mem_cons_self).2) _

def compositeKeyBytes (objectType : Bytes) (attributes : List Bytes) : Bytes :=
  0 :: (objectType :: attributes).flatMap (· ++ [0])

theorem foldlM_attributes_eq_ok_iff :
    ∀ (attributes : List Bytes) (ck result : Bytes),
      attributes.foldlM (fun ck att => do
          validateCompositeKeyAttribute att
          return ck ++ att ++ runeString minUnicodeRuneValue) ck = .ok result ↔
        (∀ att ∈ attributes, Allowed att) ∧ result = ck ++ attributes.flatMap (· ++ [0])
  | [], ck, result => by
    simp only [List.foldlM_nil, List.not_mem_nil, false_imp_iff, implies_true, List.flatMap_nil,
      List.append_nil, true_and]
    exact ⟨fun done => (Except.pure_eq_ok_iff.mp done).symm, fun done => Except.pure_eq_ok_iff.mpr done.symm⟩
  | att :: rest, ck, result => by
    rw [List.foldlM_cons, Except.bind_eq_ok_iff]
    constructor
    · rintro ⟨next, step, later⟩
      obtain ⟨u, valid, extended⟩ := Except.bind_eq_ok_iff.mp step
      obtain ⟨allowed, rfl⟩ := (foldlM_attributes_eq_ok_iff rest next result).mp later
      have joined := Except.pure_eq_ok_iff.mp extended
      subst joined
      refine ⟨fun other member => ?_, by simp [runeString_min]⟩
      rcases List.mem_cons.mp member with rfl | later
      · exact (validateCompositeKeyAttribute_eq_ok_iff _).mp valid
      · exact allowed other later
    · rintro ⟨allowed, rfl⟩
      refine ⟨ck ++ att ++ [0], ?_, ?_⟩
      · rw [(validateCompositeKeyAttribute_eq_ok_iff att).mpr (allowed att List.mem_cons_self), Except.ok_bind,
          runeString_min]
        rfl
      · rw [foldlM_attributes_eq_ok_iff]
        exact ⟨fun other member => allowed other (List.mem_cons_of_mem att member), by simp⟩

theorem createCompositeKey_eq_ok_iff (objectType : Bytes) (attributes : List Bytes) (key : Bytes) :
    createCompositeKey objectType attributes = .ok key ↔
      (∀ component ∈ objectType :: attributes, Allowed component) ∧ key = compositeKeyBytes objectType attributes := by
  rw [createCompositeKey, Except.bind_eq_ok_iff]
  constructor
  · rintro ⟨u, valid, rest⟩
    obtain ⟨allowed, rfl⟩ := (foldlM_attributes_eq_ok_iff _ _ _).mp rest
    refine ⟨fun component member => ?_, by simp [compositeKeyBytes, compositeKeyNamespace, runeString_min]⟩
    rcases List.mem_cons.mp member with rfl | later
    · exact (validateCompositeKeyAttribute_eq_ok_iff _).mp valid
    · exact allowed component later
  · rintro ⟨allowed, rfl⟩
    refine ⟨(), (validateCompositeKeyAttribute_eq_ok_iff _).mpr (allowed _ List.mem_cons_self), ?_⟩
    rw [foldlM_attributes_eq_ok_iff]
    exact ⟨fun other member => allowed other (List.mem_cons_of_mem _ member),
      by simp [compositeKeyBytes, compositeKeyNamespace, runeString_min]⟩

theorem splitComponents_append_zero {part : Bytes} (zeroFree : 0 ∉ part) (rest : Bytes) :
    ∀ (current : Bytes) (components : List Bytes),
      splitComponents (part ++ 0 :: rest) current components = splitComponents rest [] (components ++ [current ++ part]) := by
  induction part with
  | nil => intro current components; simp [splitComponents]
  | cons b part ih =>
    intro current components
    have other : b ≠ 0 := fun same => zeroFree (same ▸ List.mem_cons_self)
    rw [List.cons_append, splitComponents, if_neg other, ih (fun member => zeroFree (List.mem_cons_of_mem b member))]
    simp

theorem splitComponents_flatMap :
    ∀ (parts : List Bytes), (∀ part ∈ parts, 0 ∉ part) → ∀ components : List Bytes,
      splitComponents (parts.flatMap (· ++ [0])) [] components = components ++ parts
  | [], _, components => by simp [splitComponents]
  | part :: parts, zeroFree, components => by
    rw [List.flatMap_cons, List.append_assoc, List.singleton_append,
      splitComponents_append_zero (zeroFree part List.mem_cons_self),
      splitComponents_flatMap parts (fun other member => zeroFree other (List.mem_cons_of_mem part member))]
    simp

theorem splitCompositeKey_compositeKeyBytes {objectType : Bytes} {attributes : List Bytes}
    (allowed : ∀ component ∈ objectType :: attributes, Allowed component) :
    splitCompositeKey (compositeKeyBytes objectType attributes) = .ok (objectType, attributes) := by
  rw [splitCompositeKey, compositeKeyBytes, List.tail_cons,
    splitComponents_flatMap _ (fun part member => (allowed part member).zero_not_mem)]
  rfl

theorem compositeKeyBytes_prefix_iff {objectType objectType' : Bytes} {attributes attributes' : List Bytes}
    (allowed : ∀ component ∈ objectType :: attributes, Allowed component)
    (allowed' : ∀ component ∈ objectType' :: attributes', Allowed component) :
    compositeKeyBytes objectType attributes <+: compositeKeyBytes objectType' attributes' ↔
      objectType = objectType' ∧ attributes <+: attributes' := by
  rw [compositeKeyBytes, compositeKeyBytes, List.cons_prefix_cons,
    ByteString.flatMap_sep_prefix_iff (fun part member => (allowed part member).zero_not_mem)
      (fun part member => (allowed' part member).zero_not_mem), List.cons_prefix_cons]
  simp

theorem compositeKeyBytes_append (objectType : Bytes) (attributes more : List Bytes) :
    compositeKeyBytes objectType (attributes ++ more) =
      compositeKeyBytes objectType attributes ++ more.flatMap (· ++ [0]) := by
  simp [compositeKeyBytes]

theorem compositeKeyBytes_between_iff {objectType objectType' : Bytes} {attributes attributes' : List Bytes}
    (allowed : ∀ component ∈ objectType :: attributes, Allowed component)
    (allowed' : ∀ component ∈ objectType' :: attributes', Allowed component) :
    (compositeKeyBytes objectType attributes ≤ compositeKeyBytes objectType' attributes' ∧
        compositeKeyBytes objectType' attributes' <
          compositeKeyBytes objectType attributes ++ runeString maxUnicodeRuneValue) ↔
      objectType' = objectType ∧ attributes <+: attributes' := by
  constructor
  · rintro ⟨above, below⟩
    obtain ⟨same, longer⟩ := (compositeKeyBytes_prefix_iff allowed allowed').mp
      (OrderedStore.prefix_of_between_append above below)
    exact ⟨same.symm, longer⟩
  · rintro ⟨rfl, more, rfl⟩
    rw [compositeKeyBytes_append]
    refine ⟨OrderedStore.le_append _ _, (OrderedStore.append_left_lt_iff _).mpr ?_⟩
    -- what follows the partial key: nothing, or an allowed attribute and its separator
    cases more with
    | nil =>
      rw [runeString, maxUnicodeRuneValue, utf8EncodeChar_maxRune]
      exact List.nil_lt_cons _ _
    | cons next more =>
      rw [List.flatMap_cons, List.append_assoc, List.singleton_append]
      exact (allowed' next (by simp)).append_zero_lt _

theorem head_ne_zero_of_validateSimpleKeys {simpleKeys : List Bytes} (valid : validateSimpleKeys simpleKeys = .ok ()) :
    ∀ key ∈ simpleKeys, key.head? ≠ some 0 := by
  intro key member starts
  have passes := Except.forM_eq_ok valid key member
  rw [if_pos ⟨fun empty => by simp [empty] at starts, starts⟩] at passes
  cases passes

theorem simple_key_not_between {key : Bytes} (simple : key.head? ≠ some 0) (objectType : Bytes)
    (attributes : List Bytes) :
    ¬(compositeKeyBytes objectType attributes ≤ key ∧
        key < compositeKeyBytes objectType attributes ++ runeString maxUnicodeRuneValue) := by
  rintro ⟨above, below⟩
  cases key with
  | nil => exact above (List.nil_lt_cons _ _)
  | cons b key =>
    have nonzero : b ≠ 0 := fun zero => simple (by rw [zero]; rfl)
    rw [compositeKeyBytes, List.cons_append, List.cons_lt_cons_iff] at below
    rcases below with smaller | ⟨same, -⟩
    · exact absurd smaller (by simp [UInt8.lt_iff_toNat_lt])
    · exact nonzero same

/-- Composite keys split back into their object type and attributes, so distinct components
give distinct keys; the range a partial key requests, in the state or in a collection, holds
exactly the keys of its object type whose attributes extend its attributes, and no simple key. -/
theorem composite_keys_split_back_and_select_by_prefix :
    (∀ (objectType : Bytes) (attributes : List Bytes) (key : Bytes),
      createCompositeKey objectType attributes = .ok key → splitCompositeKey key = .ok (objectType, attributes)) ∧
    (∀ (objectType objectType' : Bytes) (attributes attributes' : List Bytes) (key : Bytes),
      createCompositeKey objectType attributes = .ok key → createCompositeKey objectType' attributes' = .ok key →
        objectType = objectType' ∧ attributes = attributes') ∧
    ∀ (objectType : Bytes) (attributes : List Bytes) (partialKey : Bytes),
      createCompositeKey objectType attributes = .ok partialKey →
        getStateByPartialCompositeKey objectType attributes =
            .ok ("", partialKey, partialKey ++ runeString maxUnicodeRuneValue) ∧
          (∀ collection, collection ≠ "" → getPrivateDataByPartialCompositeKey collection objectType attributes =
            .ok (collection, partialKey, partialKey ++ runeString maxUnicodeRuneValue)) ∧
          (∀ (objectType' : Bytes) (attributes' : List Bytes) (key : Bytes),
            createCompositeKey objectType' attributes' = .ok key →
              (partialKey ≤ key ∧ key < partialKey ++ runeString maxUnicodeRuneValue ↔
                objectType' = objectType ∧ attributes <+: attributes')) ∧
          ∀ key, validateSimpleKeys [key] = .ok () →
            ¬(partialKey ≤ key ∧ key < partialKey ++ runeString maxUnicodeRuneValue) := by
  have splits : ∀ (objectType : Bytes) (attributes : List Bytes) (key : Bytes),
      createCompositeKey objectType attributes = .ok key → splitCompositeKey key = .ok (objectType, attributes) := by
    intro objectType attributes key created
    obtain ⟨allowed, rfl⟩ := (createCompositeKey_eq_ok_iff _ _ _).mp created
    exact splitCompositeKey_compositeKeyBytes allowed
  refine ⟨splits, fun objectType objectType' attributes attributes' key created created' => ?_,
    fun objectType attributes partialKey created => ⟨?_, fun collection named => ?_, ?_, ?_⟩⟩
  · -- both split back from the same key
    have both := (splits _ _ _ created).symm.trans (splits _ _ _ created')
    simp only [Except.ok.injEq, Prod.mk.injEq] at both
    exact both
  · rw [getStateByPartialCompositeKey, created]
    rfl
  · rw [getPrivateDataByPartialCompositeKey, if_neg named, created]
    rfl
  · intro objectType' attributes' key created'
    obtain ⟨allowed, rfl⟩ := (createCompositeKey_eq_ok_iff _ _ _).mp created
    obtain ⟨allowed', rfl⟩ := (createCompositeKey_eq_ok_iff _ _ _).mp created'
    exact compositeKeyBytes_between_iff allowed allowed'
  · intro key simple
    obtain ⟨-, rfl⟩ := (createCompositeKey_eq_ok_iff _ _ _).mp created
    exact simple_key_not_between (head_ne_zero_of_validateSimpleKeys simple key List.mem_cons_self) _ _

end Fabric.Shim
