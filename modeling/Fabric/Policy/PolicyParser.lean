import Fabric.Lib.Govaluate
import Fabric.Policy.Cauthdsl
import Fabric.Committer.Vscc

/-! The policy language of `cauthdsl.FromString` (`common/cauthdsl/policyparser.go`). A policy
such as `And('A.member', Or('B.member', 'C.member'))` is evaluated three times by govaluate.
The first evaluation turns each gate into a call `outof(t, ...)`, the second adds the context
parameter `ID` in front of each call, and the third builds the `SignaturePolicy`, numbering each
principal in a context shared by all calls. Each evaluation prints its result as text, which the
next one parses again. govaluate is the model of `Fabric.Lib.Govaluate`; Go strings are lists of
characters here. -/

namespace Fabric.Cauthdsl

open Txvalidator Govaluate

inductive Value where
  | float64 (value : Nat)
  | int (value : Nat)
  | string (value : List Char)
  | context
  | policy (policy : SignaturePolicy)

/-- `reflect.TypeOf` of a value, as the error messages print it. -/
def Value.typeName : Value → String
  | .float64 _ => "float64"
  | .int _ => "int"
  | .string _ => "string"
  | .context => "*cauthdsl.context"
  | .policy _ => "*common.SignaturePolicy"

def literals : Literals Value := ⟨.float64, .string⟩

def roles : List (List Char × MSPRoleType) :=
  [("admin".toList, .admin), ("member".toList, .member), ("client".toList, .client), ("peer".toList, .peer)]

def isMspIdChar (c : Char) : Bool := c.isAlphanum || c == '.' || c == '-'

def principalMatch (t : List Char) : Option (List Char × MSPRoleType) :=
  roles.findSome? fun (name, role) =>
    if ('.' :: name).isSuffixOf t then
      let mspId := t.take (t.length - (name.length + 1))
      if mspId ≠ [] ∧ mspId.all isMspIdChar then some (mspId, role) else none
    else none

def regexMatches (t : List Char) : Bool := (principalMatch t).isSome

def printArg (t : List Char) : List Char := if regexMatches t then quote :: t ++ [quote] else t

def itoa (n : Nat) : List Char := Nat.toDigits 10 n

def int32 (n : Nat) : Int := Int.bmod n (2 ^ 32)

def outofArg (toret : List Char) (arg : Value) : Except String (List Char) :=
  match arg with
  | .string t => .ok (toret ++ ", ".toList ++ printArg t)
  | other => .error s!"Unexpected type {other.typeName}"

/-- `outof`, the stub of the first pass: the call printed back with its threshold first. -/
def outof (args : List Value) (state : Unit) : Except String (Value × Unit) := do
  if args.length < 2 then throw s!"Expected at least two arguments to NOutOf. Given {args.length}"
  let toret ← match args with
    | .float64 n :: _ | .int n :: _ => .ok ("outof(".toList ++ itoa n)
    | .string n :: _ => .ok ("outof(".toList ++ n)
    | arg0 :: _ => .error s!"Unexpected type {arg0.typeName}"
    | [] => .ok "outof(".toList
  let toret ← args.tail.foldlM outofArg toret
  .ok (.string (toret ++ [')']), state)

def and (args : List Value) (state : Unit) : Except String (Value × Unit) :=
  outof (.int args.length :: args) state

def or (args : List Value) (state : Unit) : Except String (Value × Unit) :=
  outof (.int 1 :: args) state

def firstPassArg (toret : List Char) (arg : Value) : Except String (List Char) :=
  let toret := toret ++ ", ".toList
  match arg with
  | .string t => .ok (toret ++ printArg t)
  | .float64 t => .ok (toret ++ itoa t)
  | other => .error s!"Unexpected type {other.typeName}"

/-- `firstPass`: the call printed back with the parameter `ID` in front. -/
def firstPass (args : List Value) (state : Unit) : Except String (Value × Unit) := do
  let toret ← args.foldlM firstPassArg "outof(ID".toList
  .ok (.string (toret ++ [')']), state)

/-- `context`: the principals collected so far, `IDNum` of them. -/
structure Context where
  idNum : Nat
  principals : List MSPRole

def newContext : Context := ⟨0, []⟩

def secondPassArg (acc : List SignaturePolicy × Context) (principal : Value) :
    Except String (List SignaturePolicy × Context) :=
  let (policies, ctx) := acc
  match principal with
  | .string t =>
      match principalMatch t with
      | none => .error s!"Error parsing principal {String.ofList t}"
      | some (mspId, r) =>
          .ok (policies ++ [.signedBy (int32 ctx.idNum)],
            ⟨ctx.idNum + 1, ctx.principals ++ [⟨r, String.ofList mspId⟩]⟩)
  | .policy t => .ok (policies ++ [t], ctx)
  | other => .error s!"Unrecognized type, expected a principal or a policy, got {other.typeName}"

/-- `secondPass`: the gate, with `n` counted as `len(args) - 1`. -/
def secondPass (args : List Value) (ctx : Context) : Except String (Value × Context) := do
  if args.length < 3 then throw s!"At least 3 arguments expected, got {args.length}"
  match args with
  | .context :: .float64 t :: principals =>
      let n := args.length - 1
      if t > n then throw s!"Invalid t-out-of-n predicate, t {t}, n {n}"
      let (policies, ctx) ← principals.foldlM secondPassArg ([], ctx)
      .ok (.policy (.nOutOf (int32 t) policies), ctx)
  | .context :: arg :: _ => .error s!"Unrecognized type, expected a number, got {arg.typeName}"
  | arg :: _ => .error s!"Unrecognized type, expected the context, got {arg.typeName}"
  | [] => .error "At least 3 arguments expected, got 0"

def gateFunctions (name : List Char) : Option (ExpressionFunction Value Unit) :=
  if name ∈ ["And".toList, "and".toList, "AND".toList] then some and
  else if name ∈ ["Or".toList, "or".toList, "OR".toList] then some or
  else if name ∈ ["OutOf".toList, "outof".toList, "OUTOF".toList] then some outof
  else none

def firstPassFunctions (name : List Char) : Option (ExpressionFunction Value Unit) :=
  if name = "outof".toList then some firstPass else none

def secondPassFunctions (name : List Char) : Option (ExpressionFunction Value Context) :=
  if name = "outof".toList then some secondPass else none

def contextParameters (name : List Char) : Option Value :=
  if name = "ID".toList then some .context else none

def unrecognizedToken (err : String) : Option (List Char) :=
  let pre := "No parameter ".toList ++ [quote]
  let post := [quote] ++ " found.".toList
  let chars := err.toList
  if pre.isPrefixOf chars ∧ post.isSuffixOf chars ∧ pre.length + post.length < chars.length then
    let name := (chars.drop pre.length).take (chars.length - pre.length - post.length)
    if quote ∈ name then none else some name
  else none

def meaningfulError (err : String) : String :=
  match unrecognizedToken err with
  | some name => s!"unrecognized token {String.ofList (quote :: name ++ [quote])} in policy string"
  | none => err

def asString (value : Value) : Except String (List Char) :=
  match value with
  | .string s => .ok s
  | other => .error s!"interface conversion: interface \x7b\x7d is {other.typeName}, not string"

def asPolicy (value : Value) : Except String SignaturePolicy :=
  match value with
  | .policy p => .ok p
  | other => .error s!"interface conversion: interface \x7b\x7d is {other.typeName}, not *common.SignaturePolicy"

def evaluatePass {σ : Type} (expression : List Char) (functions : List Char → Option (ExpressionFunction Value σ))
    (parameters : List Char → Option Value) (state : σ) : Except String (Value × σ) := do
  let exp ← newEvaluableExpressionWithFunctions expression fun name => (functions name).isSome
  (Govaluate.evaluate literals functions parameters exp state).mapError meaningfulError

def fromString (policy : List Char) : Except String (SignaturePolicyEnvelope MSPRole) := do
  let (intermediateRes, _) ← evaluatePass policy gateFunctions (fun _ => none) ()
  let intermediateRes ← asString intermediateRes
  let (res, _) ← evaluatePass intermediateRes firstPassFunctions (fun _ => none) ()
  let res ← asString res
  let (res, ctx) ← evaluatePass res secondPassFunctions contextParameters newContext
  let rule ← asPolicy res
  .ok ⟨0, rule, ctx.principals⟩

end Fabric.Cauthdsl
