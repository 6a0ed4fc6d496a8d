import Fabric.Policy.PolicyParser

/-! The policies `FromString` reads, and what it makes of them. A policy is a principal or a gate
over policies; its text is what a user writes. The first pass turns that text into the text of
the policy's `outofGate` expression, the second into that of its `idGate` expression, and the third
builds what `Policy.compile` computes from the policy directly: the three passes over texts are one
recursion over the policy. -/

namespace Fabric.Cauthdsl

open Txvalidator Govaluate

inductive Gate where
  | and
  | or
  | outOf (threshold : Nat)

inductive Spelling where
  | title
  | lower
  | upper

def Gate.name : Gate → Spelling → List Char
  | .and, .title => "And".toList
  | .and, .lower => "and".toList
  | .and, .upper => "AND".toList
  | .or, .title => "Or".toList
  | .or, .lower => "or".toList
  | .or, .upper => "OR".toList
  | .outOf _, .title => "OutOf".toList
  | .outOf _, .lower => "outof".toList
  | .outOf _, .upper => "OUTOF".toList

def Gate.threshold : Gate → Nat → Nat
  | .and, k => k
  | .or, _ => 1
  | .outOf t, _ => t

def roleName : MSPRoleType → List Char
  | .admin => ['a', 'd', 'm', 'i', 'n']
  | .member => ['m', 'e', 'm', 'b', 'e', 'r']
  | .client => ['c', 'l', 'i', 'e', 'n', 't']
  | .peer => ['p', 'e', 'e', 'r']

def principalText (principal : MSPRole) : List Char :=
  principal.mspIdentifier.toList ++ '.' :: roleName principal.role

def validPrincipal (principal : MSPRole) : Bool :=
  !principal.mspIdentifier.toList.isEmpty && principal.mspIdentifier.toList.all isMspIdChar

inductive Policy where
  | principal (principal : MSPRole)
  | gate (gate : Gate) (spelling : Spelling) (args : List Policy)

mutual
def Policy.wellFormed : Policy → Bool
  | .principal role => validPrincipal role
  | .gate _ _ args => !args.isEmpty && Policy.allWellFormed args
def Policy.allWellFormed : List Policy → Bool
  | [] => true
  | arg :: args => arg.wellFormed && Policy.allWellFormed args
end

mutual
def Policy.fits : Policy → Bool
  | .principal _ => true
  | .gate g _ args => decide (g.threshold args.length ≤ args.length + 1) && Policy.allFit args
def Policy.allFit : List Policy → Bool
  | [] => true
  | arg :: args => arg.fits && Policy.allFit args
end

section Expressions

variable (gateExpr : Gate → Spelling → Nat → List Expr → Expr)

mutual
def Policy.exprWith : Policy → Expr
  | .principal role => .string (principalText role)
  | .gate g spelling args => gateExpr g spelling args.length (Policy.exprsWith args)
def Policy.exprsWith : List Policy → List Expr
  | [] => []
  | arg :: args => arg.exprWith :: Policy.exprsWith args
end

end Expressions

def userGate (gate : Gate) (spelling : Spelling) (_ : Nat) (args : List Expr) : Expr :=
  match gate with
  | .outOf t => .call (gate.name spelling) (.numeric t :: args)
  | .and | .or => .call (gate.name spelling) args

def outofGate (gate : Gate) (_ : Spelling) (k : Nat) (args : List Expr) : Expr :=
  .call "outof".toList (.numeric (gate.threshold k) :: args)

def idGate (gate : Gate) (_ : Spelling) (k : Nat) (args : List Expr) : Expr :=
  .call "outof".toList (.parameter "ID".toList :: .numeric (gate.threshold k) :: args)

def Policy.text (p : Policy) : List Char := (p.exprWith userGate).print

def stubText : Expr → List Char
  | .string value => value
  | e => e.print

abbrev Arg := MSPRole ⊕ SignaturePolicy

def numberArgs : List Arg → List MSPRole → List SignaturePolicy × List MSPRole
  | [], principals => ([], principals)
  | .inl principal :: args, principals =>
      let (rules, principals') := numberArgs args (principals ++ [principal])
      (.signedBy (int32 principals.length) :: rules, principals')
  | .inr rule :: args, principals =>
      let (rules, principals) := numberArgs args principals
      (rule :: rules, principals)

/-- `secondPass` on a gate with `k` arguments and threshold `t`. -/
def gateRule (t k : Nat) (args : List Arg) (principals : List MSPRole) :
    Except String (SignaturePolicy × List MSPRole) :=
  if t > k + 1 then .error s!"Invalid t-out-of-n predicate, t {t}, n {k + 1}"
  else
    let (rules, principals) := numberArgs args principals
    .ok (.nOutOf (int32 t) rules, principals)

mutual
def Policy.compile : Policy → List MSPRole → Except String (Arg × List MSPRole)
  | .principal role, principals => .ok (.inl role, principals)
  | .gate g _ args, principals => do
      let (evaluated, principals) ← Policy.compileArgs args principals
      let (rule, principals) ← gateRule (g.threshold args.length) args.length evaluated principals
      .ok (.inr rule, principals)
def Policy.compileArgs : List Policy → List MSPRole → Except String (List Arg × List MSPRole)
  | [], principals => .ok ([], principals)
  | arg :: args, principals => do
      let (evaluated, principals) ← arg.compile principals
      let (rest, principals) ← Policy.compileArgs args principals
      .ok (evaluated :: rest, principals)
end

def envelope (gate : Gate) (args : List Policy) : Except String (SignaturePolicyEnvelope MSPRole) := do
  let (evaluated, principals) ← Policy.compileArgs args []
  let (rule, identities) ← gateRule (gate.threshold args.length) args.length evaluated principals
  .ok ⟨0, rule, identities⟩

mutual
@[induction_eliminator]
theorem induction_on_policy {motive : Policy → Prop} (principal : ∀ role, motive (.principal role))
    (gate : ∀ g spelling args, (∀ arg ∈ args, motive arg) → motive (.gate g spelling args)) : ∀ p, motive p
  | .principal role => principal role
  | .gate g spelling args => gate g spelling args (induction_on_args principal gate args)
theorem induction_on_args {motive : Policy → Prop} (principal : ∀ role, motive (.principal role))
    (gate : ∀ g spelling args, (∀ arg ∈ args, motive arg) → motive (.gate g spelling args)) :
    ∀ (args : List Policy), ∀ arg ∈ args, motive arg
  | arg :: _, _, .head _ => induction_on_policy principal gate arg
  | _ :: args, arg, .tail _ member => induction_on_args principal gate args arg member
end

@[simp] theorem Policy.exprsWith_eq_map (gateExpr : Gate → Spelling → Nat → List Expr → Expr) :
    ∀ args, Policy.exprsWith gateExpr args = args.map (Policy.exprWith gateExpr)
  | [] => rfl
  | arg :: args => by rw [Policy.exprsWith, Policy.exprsWith_eq_map gateExpr args, List.map_cons]

@[simp] theorem Policy.allWellFormed_eq : ∀ args, Policy.allWellFormed args = args.all Policy.wellFormed
  | [] => rfl
  | arg :: args => by rw [Policy.allWellFormed, Policy.allWellFormed_eq args, List.all_cons]

@[simp] theorem Policy.allFit_eq : ∀ args, Policy.allFit args = args.all Policy.fits
  | [] => rfl
  | arg :: args => by rw [Policy.allFit, Policy.allFit_eq args, List.all_cons]

@[simp] theorem Policy.wellFormed_gate (g : Gate) (spelling : Spelling) (args : List Policy) :
    (Policy.gate g spelling args).wellFormed = (!args.isEmpty && args.all Policy.wellFormed) := by
  rw [Policy.wellFormed, Policy.allWellFormed_eq]

@[simp] theorem Policy.fits_gate (g : Gate) (spelling : Spelling) (args : List Policy) :
    (Policy.gate g spelling args).fits = (decide (g.threshold args.length ≤ args.length + 1) && args.all Policy.fits) := by
  rw [Policy.fits, Policy.allFit_eq]

theorem roles_eq : roles = [(roleName .admin, .admin), (roleName .member, .member), (roleName .client, .client),
    (roleName .peer, .peer)] := by
  decide +kernel

theorem principalMatch_principalText {role : MSPRole} (valid : validPrincipal role = true) :
    principalMatch (principalText role) = some (role.mspIdentifier.toList, role.role) := by
  obtain ⟨kind, mspIdentifier⟩ := role
  simp only [validPrincipal, Bool.and_eq_true, Bool.not_eq_true', List.isEmpty_eq_false_iff] at valid
  obtain ⟨nonempty, chars⟩ := valid
  have own : ∀ name : List Char, ('.' :: name).isSuffixOf (mspIdentifier.toList ++ '.' :: name) = true :=
    fun name => List.isSuffixOf_iff_suffix.mpr (List.suffix_append _ _)
  have taken : ∀ name : List Char,
      (mspIdentifier.toList ++ '.' :: name).take ((mspIdentifier.toList ++ '.' :: name).length - (name.length + 1)) =
        mspIdentifier.toList := by
    intro name
    simp
  -- the roles before this one neither end it nor are ended by it; this one leaves the identifier
  cases kind <;> simp (disch := decide) only [principalMatch, principalText, roles_eq, List.findSome?_cons,
    List.isSuffixOf_append_eq_false, own, taken, nonempty, chars, ne_eq, not_false_eq_true, and_self, if_true,
    if_false, Bool.false_eq_true]

theorem principalMatch_append_close (t : List Char) : principalMatch (t ++ [')']) = none := by
  simp [principalMatch, roles_eq, roleName, List.isSuffixOf, List.reverse_append]

theorem printable_of_isMspIdChar {c : Char} (msp : isMspIdChar c = true) :
    c ≠ backslash ∧ c ≠ quote ∧ c ≠ doubleQuote := by
  simp only [isMspIdChar, Char.isAlphanum, Bool.or_eq_true, beq_iff_eq] at msp
  have range : (65 ≤ c.toNat ∧ c.toNat ≤ 90) ∨ (97 ≤ c.toNat ∧ c.toNat ≤ 122) ∨ (48 ≤ c.toNat ∧ c.toNat ≤ 57) ∨
      c.toNat = 46 ∨ c.toNat = 45 := by
    rcases msp with ((alpha | digit) | point) | dash
    · rcases toNat_of_isAlpha alpha with upper | lower
      · exact .inl upper
      · exact .inr (.inl lower)
    · exact .inr (.inr (.inl (toNat_of_isDigit digit)))
    · subst point
      decide
    · subst dash
      decide
  refine ⟨?_, ?_, ?_⟩ <;> rintro rfl <;> revert range <;> decide

theorem principalText_printable {role : MSPRole} (valid : validPrincipal role = true) :
    (principalText role).all (fun c => c != backslash && !isQuote c) = true := by
  simp only [validPrincipal, Bool.and_eq_true, List.all_eq_true] at valid
  rw [principalText, List.all_append, Bool.and_eq_true, List.all_eq_true]
  constructor
  · intro c member
    obtain ⟨notBackslash, notQuote, notDoubleQuote⟩ := printable_of_isMspIdChar (valid.2 c member)
    simp [isQuote, notBackslash, notQuote, notDoubleQuote]
  · cases role.role <;> decide

theorem printArg_principalText {role : MSPRole} (valid : validPrincipal role = true) :
    printArg (principalText role) = (Expr.string (principalText role)).print := by
  rw [printArg, regexMatches, principalMatch_principalText valid]
  rfl

theorem printArg_call (name : List Char) (args : List Expr) :
    printArg (Expr.call name args).print = (Expr.call name args).print := by
  obtain ⟨body, closed⟩ := print_call_eq_append name args
  rw [closed, printArg, regexMatches, principalMatch_append_close]
  rfl

section Texts

variable (gateExpr : Gate → Spelling → Nat → List Expr → Expr)

theorem printArg_stubText (calls : ∀ g spelling k args, ∃ name args', gateExpr g spelling k args = .call name args')
    {p : Policy} (valid : p.wellFormed = true) :
    printArg (stubText (p.exprWith gateExpr)) = (p.exprWith gateExpr).print := by
  cases p with
  | principal role =>
    rw [Policy.wellFormed] at valid
    exact printArg_principalText valid
  | gate g spelling args =>
    obtain ⟨name, args', call⟩ := calls g spelling args.length (Policy.exprsWith gateExpr args)
    rw [Policy.exprWith, call]
    exact printArg_call name args'

theorem flatMap_printArg_stubText (calls : ∀ g spelling k args, ∃ name args', gateExpr g spelling k args = .call name args')
    {args : List Policy} (valid : ∀ arg ∈ args, arg.wellFormed = true) :
    (args.map fun arg => stubText (arg.exprWith gateExpr)).flatMap (fun t => ',' :: ' ' :: printArg t) =
      (args.map (Policy.exprWith gateExpr)).flatMap fun e => ',' :: ' ' :: e.print := by
  rw [List.flatMap_map, List.flatMap_map]
  exact List.flatMap_congr fun arg member => by rw [printArg_stubText gateExpr calls (valid arg member)]

variable (functions : List Char → Bool)

theorem exprWith_printable
    (gatePrintable : ∀ g spelling (args : List Expr), args ≠ [] → args.all (Expr.printable functions) = true →
      (gateExpr g spelling args.length args).printable functions = true) :
    ∀ p : Policy, p.wellFormed = true → (p.exprWith gateExpr).printable functions = true := by
  intro p
  induction p with
  | principal role =>
    intro valid
    rw [Policy.wellFormed] at valid
    exact principalText_printable valid
  | gate g spelling args ih =>
    intro valid
    simp only [Policy.wellFormed_gate, Bool.and_eq_true, Bool.not_eq_true', List.isEmpty_eq_false_iff,
      List.all_eq_true] at valid
    have printable := gatePrintable g spelling (args.map (Policy.exprWith gateExpr))
      (by simpa using valid.1)
      (List.all_eq_true.mpr fun e member => by
        obtain ⟨arg, isArg, rfl⟩ := List.mem_map.mp member
        exact ih arg isArg (valid.2 arg isArg))
    rw [List.length_map] at printable
    rw [Policy.exprWith, Policy.exprsWith_eq_map]
    exact printable

end Texts

theorem foldlM_outofArg : ∀ (ts : List (List Char)) (toret : List Char),
    (ts.map Value.string).foldlM outofArg toret = .ok (toret ++ ts.flatMap fun t => ',' :: ' ' :: printArg t)
  | [], toret => by rw [List.map_nil, List.foldlM_nil, List.flatMap_nil, List.append_nil]; rfl
  | t :: ts, toret => by
      rw [List.map_cons, List.foldlM_cons, outofArg, Except.ok_bind, foldlM_outofArg ts, List.flatMap_cons,
        List.append_assoc, List.append_assoc]
      rfl

theorem outof_strings {first : Value} {n : Nat} (numeral : first = .int n ∨ first = .float64 n)
    {ts : List (List Char)} (nonempty : ts ≠ []) :
    outof (first :: ts.map .string) () =
      .ok (.string ("outof(".toList ++ itoa n ++ ts.flatMap (fun t => ',' :: ' ' :: printArg t) ++ [')']), ()) := by
  have long : ¬(first :: ts.map Value.string).length < 2 := by
    obtain ⟨t, ts, rfl⟩ := List.exists_cons_of_ne_nil nonempty
    simp
  rcases numeral with rfl | rfl
  all_goals
    simp only [outof, if_neg long, Except.ok_bind, List.tail_cons, foldlM_outofArg, List.append_assoc]

theorem foldlM_firstPassArg : ∀ (ts : List (List Char)) (toret : List Char),
    (ts.map Value.string).foldlM firstPassArg toret = .ok (toret ++ ts.flatMap fun t => ',' :: ' ' :: printArg t)
  | [], toret => by rw [List.map_nil, List.foldlM_nil, List.flatMap_nil, List.append_nil]; rfl
  | t :: ts, toret => by
      rw [List.map_cons, List.foldlM_cons, firstPassArg, Except.ok_bind, foldlM_firstPassArg ts, List.flatMap_cons,
        List.append_assoc, List.append_assoc]
      rfl

theorem firstPass_strings (n : Nat) (ts : List (List Char)) :
    firstPass (.float64 n :: ts.map .string) () =
      .ok (.string ("outof(ID".toList ++ ',' :: ' ' :: itoa n ++ ts.flatMap (fun t => ',' :: ' ' :: printArg t) ++ [')']), ()) := by
  rw [firstPass, List.foldlM_cons, firstPassArg]
  simp only [Except.ok_bind, foldlM_firstPassArg, List.append_assoc]
  rfl

theorem stubText_outofGate (g : Gate) (spelling : Spelling) (args : List Policy) :
    stubText ((Policy.gate g spelling args).exprWith outofGate) =
      "outof(".toList ++ itoa (g.threshold args.length) ++
        ((args.map (Policy.exprWith outofGate)).flatMap fun e => ',' :: ' ' :: e.print) ++ [')'] := by
  rw [Policy.exprWith, Policy.exprsWith_eq_map, outofGate]
  show Expr.print _ = _
  rw [Expr.print, printRest_eq]
  simp only [List.append_assoc]
  rfl

theorem stubText_idGate (g : Gate) (spelling : Spelling) (args : List Policy) :
    stubText ((Policy.gate g spelling args).exprWith idGate) =
      "outof(ID".toList ++ ',' :: ' ' :: itoa (g.threshold args.length) ++
        ((args.map (Policy.exprWith idGate)).flatMap fun e => ',' :: ' ' :: e.print) ++ [')'] := by
  rw [Policy.exprWith, Policy.exprsWith_eq_map, idGate]
  show Expr.print _ = _
  rw [Expr.print, printRest_eq, List.flatMap_cons]
  simp only [List.append_assoc]
  rfl

def Gate.function : Gate → ExpressionFunction Value Unit
  | .and => Cauthdsl.and
  | .or => Cauthdsl.or
  | .outOf _ => outof

theorem Gate.name_outOf (t : Nat) (spelling : Spelling) : (Gate.outOf t).name spelling = (Gate.outOf 0).name spelling := by
  cases spelling <;> rfl

theorem gate_names_classified (spelling : Spelling) :
    Gate.and.name spelling ∈ ["And".toList, "and".toList, "AND".toList] ∧
    Gate.or.name spelling ∉ ["And".toList, "and".toList, "AND".toList] ∧
    Gate.or.name spelling ∈ ["Or".toList, "or".toList, "OR".toList] ∧
    (Gate.outOf 0).name spelling ∉ ["And".toList, "and".toList, "AND".toList] ∧
    (Gate.outOf 0).name spelling ∉ ["Or".toList, "or".toList, "OR".toList] ∧
    (Gate.outOf 0).name spelling ∈ ["OutOf".toList, "outof".toList, "OUTOF".toList] := by
  -- the kernel reads the literals once; the elaborator would unfold each of them
  cases spelling <;> decide +kernel

theorem gateFunctions_name (g : Gate) (spelling : Spelling) : gateFunctions (g.name spelling) = some g.function := by
  obtain ⟨isAnd, orNotAnd, isOr, outofNotAnd, outofNotOr, isOutof⟩ := gate_names_classified spelling
  cases g with
  | and =>
    rw [gateFunctions, if_pos isAnd]
    rfl
  | or =>
    rw [gateFunctions, if_neg orNotAnd, if_pos isOr]
    rfl
  | outOf t =>
    rw [Gate.name_outOf, gateFunctions, if_neg outofNotAnd, if_neg outofNotOr, if_pos isOutof]
    rfl

theorem evaluate_userGate_call (g : Gate) (spelling : Spelling) (args : List Policy) (value : Policy → Value)
    (values : evaluateArgs literals gateFunctions (fun _ => none) (args.map (Policy.exprWith userGate)) () =
      .ok (args.map value, ())) :
    ∃ first : Value, (first = .int (g.threshold args.length) ∨ first = .float64 (g.threshold args.length)) ∧
      Govaluate.evaluate literals gateFunctions (fun _ => none) ((Policy.gate g spelling args).exprWith userGate) () =
        outof (first :: args.map value) () := by
  cases g with
  | and =>
    refine ⟨.int args.length, .inl rfl, ?_⟩
    rw [Policy.exprWith, Policy.exprsWith_eq_map, userGate, Govaluate.evaluate, values, Except.ok_bind,
      gateFunctions_name]
    simp only [Gate.function, and, List.length_map]
  | or =>
    refine ⟨.int 1, .inl rfl, ?_⟩
    rw [Policy.exprWith, Policy.exprsWith_eq_map, userGate, Govaluate.evaluate, values, Except.ok_bind,
      gateFunctions_name]
    simp only [Gate.function, or]
  | outOf t =>
    refine ⟨.float64 t, .inr rfl, ?_⟩
    rw [Policy.exprWith, Policy.exprsWith_eq_map, userGate, Govaluate.evaluate, evaluateArgs]
    simp only [Govaluate.evaluate, Except.ok_bind, values, gateFunctions_name]
    rfl

theorem evaluate_userGate : ∀ p : Policy, p.wellFormed = true →
    Govaluate.evaluate literals gateFunctions (fun _ => none) (p.exprWith userGate) () =
      .ok (.string (stubText (p.exprWith outofGate)), ()) := by
  intro p
  induction p with
  | principal role =>
    intro _
    rfl
  | gate g spelling args ih =>
    intro valid
    simp only [Policy.wellFormed_gate, Bool.and_eq_true, Bool.not_eq_true', List.isEmpty_eq_false_iff,
      List.all_eq_true] at valid
    obtain ⟨nonempty, each⟩ := valid
    have values := evaluateArgs_map literals gateFunctions (fun _ => none) (Policy.exprWith userGate)
      (fun arg => Value.string (stubText (arg.exprWith outofGate))) () fun arg member => ih arg member (each arg member)
    have strings : args.map (fun arg => Value.string (stubText (arg.exprWith outofGate))) =
        (args.map fun arg => stubText (arg.exprWith outofGate)).map Value.string := by
      rw [List.map_map]
      rfl
    obtain ⟨first, numeral, call⟩ := evaluate_userGate_call g spelling args _ values
    rw [call, strings, outof_strings numeral (by simpa using nonempty),
      flatMap_printArg_stubText outofGate (fun _ _ _ _ => ⟨_, _, rfl⟩) each, stubText_outofGate]

theorem evaluate_outofGate : ∀ p : Policy, p.wellFormed = true →
    Govaluate.evaluate literals firstPassFunctions (fun _ => none) (p.exprWith outofGate) () =
      .ok (.string (stubText (p.exprWith idGate)), ()) := by
  intro p
  induction p with
  | principal role =>
    intro _
    rfl
  | gate g spelling args ih =>
    intro valid
    simp only [Policy.wellFormed_gate, Bool.and_eq_true, List.all_eq_true] at valid
    have values := evaluateArgs_map literals firstPassFunctions (fun _ => none) (Policy.exprWith outofGate)
      (fun arg => Value.string (stubText (arg.exprWith idGate))) () fun arg member => ih arg member (valid.2 arg member)
    have strings : args.map (fun arg => Value.string (stubText (arg.exprWith idGate))) =
        (args.map fun arg => stubText (arg.exprWith idGate)).map Value.string := by
      rw [List.map_map]
      rfl
    rw [Policy.exprWith, Policy.exprsWith_eq_map, outofGate, Govaluate.evaluate, evaluateArgs]
    simp only [Govaluate.evaluate, Except.ok_bind, values]
    rw [show firstPassFunctions "outof".toList = some firstPass from rfl, strings]
    show firstPass (.float64 (g.threshold args.length) :: _) () = _
    rw [firstPass_strings, flatMap_printArg_stubText idGate (fun _ _ _ _ => ⟨_, _, rfl⟩) valid.2, stubText_idGate]

def argValue : Arg → Value
  | .inl role => .string (principalText role)
  | .inr rule => .policy rule

def contextOf (principals : List MSPRole) : Context := ⟨principals.length, principals⟩

theorem secondPassArg_principal (policies : List SignaturePolicy) (principals : List MSPRole) {role : MSPRole}
    (valid : validPrincipal role = true) :
    secondPassArg (policies, contextOf principals) (argValue (.inl role)) =
      .ok (policies ++ [.signedBy (int32 principals.length)], contextOf (principals ++ [role])) := by
  simp [secondPassArg, argValue, principalMatch_principalText valid, contextOf]

theorem foldlM_secondPassArg : ∀ (evaluated : List Arg), (∀ role, .inl role ∈ evaluated → validPrincipal role = true) →
    ∀ (policies : List SignaturePolicy) (principals : List MSPRole),
    (evaluated.map argValue).foldlM secondPassArg (policies, contextOf principals) =
      .ok (policies ++ (numberArgs evaluated principals).1, contextOf (numberArgs evaluated principals).2)
  | [], _, policies, principals => by
      rw [List.map_nil, List.foldlM_nil, numberArgs, List.append_nil]
      rfl
  | .inl role :: evaluated, valid, policies, principals => by
      rw [List.map_cons, List.foldlM_cons, secondPassArg_principal policies principals (valid role List.mem_cons_self),
        Except.ok_bind, foldlM_secondPassArg evaluated (fun role member => valid role (List.mem_cons_of_mem _ member))]
      simp [numberArgs]
  | .inr rule :: evaluated, valid, policies, principals => by
      rw [List.map_cons, List.foldlM_cons, show secondPassArg (policies, contextOf principals) (argValue (.inr rule)) =
        .ok (policies ++ [rule], contextOf principals) from rfl, Except.ok_bind,
        foldlM_secondPassArg evaluated (fun role member => valid role (List.mem_cons_of_mem _ member))]
      simp [numberArgs]

theorem secondPass_evaluated (t : Nat) {evaluated : List Arg} (nonempty : evaluated ≠ [])
    (valid : ∀ role, .inl role ∈ evaluated → validPrincipal role = true) (principals : List MSPRole) :
    secondPass (.context :: .float64 t :: evaluated.map argValue) (contextOf principals) =
      (gateRule t evaluated.length evaluated principals).map fun result => (.policy result.1, contextOf result.2) := by
  have long : ¬(Value.context :: .float64 t :: evaluated.map argValue).length < 3 := by
    obtain ⟨e, rest, rfl⟩ := List.exists_cons_of_ne_nil nonempty
    simp
  have n : (Value.context :: .float64 t :: evaluated.map argValue).length - 1 = evaluated.length + 1 := by simp
  by_cases tooMany : t > evaluated.length + 1
  · simp only [secondPass, if_neg long, n, if_pos tooMany, gateRule]
    rfl
  · simp only [secondPass, if_neg long, n, if_neg tooMany, gateRule, foldlM_secondPassArg evaluated valid, List.nil_append]
    rfl

theorem compile_inl {p : Policy} {principals after : List MSPRole} {role : MSPRole}
    (compiled : p.compile principals = .ok (.inl role, after)) : p = .principal role := by
  cases p with
  | principal r =>
    rw [Policy.compile] at compiled
    cases compiled
    rfl
  | gate g spelling args =>
    rw [Policy.compile] at compiled
    obtain ⟨⟨evaluated, ps⟩, _, rest⟩ := Except.bind_eq_ok_iff.mp compiled
    obtain ⟨⟨rule, ps'⟩, _, last⟩ := Except.bind_eq_ok_iff.mp rest
    cases last

theorem compileArgs_shape : ∀ {args : List Policy} {principals after : List MSPRole} {evaluated : List Arg},
    Policy.compileArgs args principals = .ok (evaluated, after) →
      evaluated.length = args.length ∧ ∀ role, .inl role ∈ evaluated → .principal role ∈ args
  | [], _, _, _, compiled => by
      rw [Policy.compileArgs] at compiled
      cases compiled
      simp
  | arg :: args, principals, after, evaluated, compiled => by
      rw [Policy.compileArgs] at compiled
      obtain ⟨⟨first, ps⟩, compiledFirst, rest⟩ := Except.bind_eq_ok_iff.mp compiled
      obtain ⟨⟨others, ps'⟩, compiledOthers, last⟩ := Except.bind_eq_ok_iff.mp rest
      cases last
      obtain ⟨length, principalsIn⟩ := compileArgs_shape compiledOthers
      refine ⟨by rw [List.length_cons, List.length_cons, length], fun role member => ?_⟩
      rcases List.mem_cons.mp member with same | later
      · subst same
        rw [compile_inl compiledFirst]
        exact List.mem_cons_self
      · exact List.mem_cons_of_mem _ (principalsIn role later)

theorem evaluateArgs_idGate {args : List Policy}
    (each : ∀ arg ∈ args, ∀ principals,
      Govaluate.evaluate literals secondPassFunctions contextParameters (arg.exprWith idGate) (contextOf principals) =
        (arg.compile principals).map fun result => (argValue result.1, contextOf result.2)) :
    ∀ principals, evaluateArgs literals secondPassFunctions contextParameters (args.map (Policy.exprWith idGate))
        (contextOf principals) =
      (Policy.compileArgs args principals).map fun result => (result.1.map argValue, contextOf result.2) := by
  induction args with
  | nil =>
    intro principals
    rfl
  | cons arg args ih =>
    intro principals
    rw [List.map_cons, evaluateArgs, each arg List.mem_cons_self, Policy.compileArgs]
    cases arg.compile principals with
    | error e => rfl
    | ok first =>
      obtain ⟨value, ps⟩ := first
      simp only [Except.map, Except.ok_bind]
      rw [ih (fun arg member => each arg (List.mem_cons_of_mem _ member)) ps]
      cases Policy.compileArgs args ps with
      | error e => rfl
      | ok rest => rfl

theorem evaluate_idGate : ∀ p : Policy, p.wellFormed = true → ∀ principals,
    Govaluate.evaluate literals secondPassFunctions contextParameters (p.exprWith idGate) (contextOf principals) =
      (p.compile principals).map fun result => (argValue result.1, contextOf result.2) := by
  intro p
  induction p with
  | principal role =>
    intro _ _
    rfl
  | gate g spelling args ih =>
    intro valid principals
    simp only [Policy.wellFormed_gate, Bool.and_eq_true, Bool.not_eq_true', List.isEmpty_eq_false_iff,
      List.all_eq_true] at valid
    obtain ⟨nonempty, each⟩ := valid
    have values := evaluateArgs_idGate (fun arg member => ih arg member (each arg member)) principals
    rw [Policy.exprWith, Policy.exprsWith_eq_map, idGate, Govaluate.evaluate]
    simp only [Govaluate.evaluate, evaluateArgs, show contextParameters "ID".toList = some .context from rfl,
      Except.ok_bind, values]
    rw [Policy.compile]
    cases compiled : Policy.compileArgs args principals with
    | error e => rfl
    | ok result =>
      obtain ⟨evaluated, ps⟩ := result
      obtain ⟨length, principalsIn⟩ := compileArgs_shape compiled
      have evaluatedNonempty : evaluated ≠ [] := by
        rw [← List.length_pos_iff, length, List.length_pos_iff]
        exact nonempty
      have evaluatedValid : ∀ role, .inl role ∈ evaluated → validPrincipal role = true := by
        intro role member
        have := each _ (principalsIn role member)
        rwa [Policy.wellFormed] at this
      show secondPass (.context :: .float64 (g.threshold args.length) :: evaluated.map argValue) (contextOf ps) = _
      rw [secondPass_evaluated _ evaluatedNonempty evaluatedValid, length]
      simp only [Except.ok_bind]
      cases gateRule (g.threshold args.length) args.length evaluated ps with
      | error e => rfl
      | ok rule => rfl

theorem meaningfulError_of_isPrefixOf {err : String}
    (other : ("No parameter ".toList ++ [quote]).isPrefixOf err.toList = false) : meaningfulError err = err := by
  simp only [meaningfulError, unrecognizedToken, other]
  rfl

theorem meaningfulError_gateRule {t k : Nat} {evaluated : List Arg} {principals : List MSPRole} {err : String}
    (failed : gateRule t k evaluated principals = .error err) : meaningfulError err = err := by
  rw [gateRule] at failed
  split at failed
  · cases failed
    apply meaningfulError_of_isPrefixOf
    simp only [String.toList_append]
    rfl
  · cases failed

theorem meaningfulError_compileArgs {args : List Policy}
    (each : ∀ arg ∈ args, ∀ principals err, arg.compile principals = .error err → meaningfulError err = err) :
    ∀ principals err, Policy.compileArgs args principals = .error err → meaningfulError err = err := by
  induction args with
  | nil =>
    intro principals err failed
    cases failed
  | cons arg args ih =>
    intro principals err failed
    rw [Policy.compileArgs] at failed
    rcases Except.bind_eq_error_iff.mp failed with first | ⟨⟨value, ps⟩, _, rest⟩
    · exact each arg List.mem_cons_self principals err first
    · rcases Except.bind_eq_error_iff.mp rest with others | ⟨_, _, last⟩
      · exact ih (fun arg member => each arg (List.mem_cons_of_mem _ member)) ps err others
      · cases last

theorem meaningfulError_compile : ∀ (p : Policy) (principals : List MSPRole) (err : String),
    p.compile principals = .error err → meaningfulError err = err := by
  intro p
  induction p with
  | principal role =>
    intro principals err failed
    cases failed
  | gate g spelling args ih =>
    intro principals err failed
    rw [Policy.compile] at failed
    rcases Except.bind_eq_error_iff.mp failed with first | ⟨⟨evaluated, ps⟩, _, rest⟩
    · exact meaningfulError_compileArgs ih principals err first
    · rcases Except.bind_eq_error_iff.mp rest with ruled | ⟨_, _, last⟩
      · exact meaningfulError_gateRule ruled
      · cases last

theorem Gate.isName_name (g : Gate) (spelling : Spelling) : isName (g.name spelling) = true := by
  cases g with
  | and => cases spelling <;> decide +kernel
  | or => cases spelling <;> decide +kernel
  | outOf t =>
    rw [Gate.name_outOf]
    cases spelling <;> decide +kernel

theorem userGate_printable (g : Gate) (spelling : Spelling) (args : List Expr) (_ : args ≠ [])
    (printable : args.all (Expr.printable fun name => (gateFunctions name).isSome) = true) :
    (userGate g spelling args.length args).printable (fun name => (gateFunctions name).isSome) = true := by
  have named := g.isName_name spelling
  have known : (gateFunctions (g.name spelling)).isSome = true := by
    rw [gateFunctions_name]
    rfl
  cases g <;> simp only [userGate, Expr.printable, argsPrintable_eq_all, List.all_cons, printable, named, known,
    Bool.and_self]

theorem outofGate_printable (g : Gate) (spelling : Spelling) (args : List Expr) (_ : args ≠ [])
    (printable : args.all (Expr.printable fun name => (firstPassFunctions name).isSome) = true) :
    (outofGate g spelling args.length args).printable (fun name => (firstPassFunctions name).isSome) = true := by
  simp only [outofGate, Expr.printable, argsPrintable_eq_all, List.all_cons, printable, Bool.and_true]
  decide

theorem idGate_printable (g : Gate) (spelling : Spelling) (args : List Expr) (_ : args ≠ [])
    (printable : args.all (Expr.printable fun name => (secondPassFunctions name).isSome) = true) :
    (idGate g spelling args.length args).printable (fun name => (secondPassFunctions name).isSome) = true := by
  simp only [idGate, Expr.printable, argsPrintable_eq_all, List.all_cons, printable, Bool.and_true]
  decide

section FromString

variable (g : Gate) (spelling : Spelling) (args : List Policy)

theorem evaluatePass_text (valid : (Policy.gate g spelling args).wellFormed = true) :
    evaluatePass (Policy.gate g spelling args).text gateFunctions (fun _ => none) () =
      .ok (.string ((Policy.gate g spelling args).exprWith outofGate).print, ()) := by
  rw [evaluatePass, Policy.text, newEvaluableExpressionWithFunctions_print _
    (exprWith_printable userGate _ userGate_printable _ valid), Except.ok_bind, evaluate_userGate _ valid]
  rfl

theorem evaluatePass_outofGate (valid : (Policy.gate g spelling args).wellFormed = true) :
    evaluatePass ((Policy.gate g spelling args).exprWith outofGate).print firstPassFunctions (fun _ => none) () =
      .ok (.string ((Policy.gate g spelling args).exprWith idGate).print, ()) := by
  rw [evaluatePass, newEvaluableExpressionWithFunctions_print _
    (exprWith_printable outofGate _ outofGate_printable _ valid), Except.ok_bind, evaluate_outofGate _ valid]
  rfl

theorem evaluatePass_idGate (valid : (Policy.gate g spelling args).wellFormed = true) :
    evaluatePass ((Policy.gate g spelling args).exprWith idGate).print secondPassFunctions contextParameters newContext =
      ((Policy.gate g spelling args).compile []).map fun result => (argValue result.1, contextOf result.2) := by
  rw [evaluatePass, newEvaluableExpressionWithFunctions_print _
    (exprWith_printable idGate _ idGate_printable _ valid), Except.ok_bind]
  rw [show newContext = contextOf [] from rfl, evaluate_idGate _ valid]
  cases compiled : (Policy.gate g spelling args).compile [] with
  | error err => simp [Except.map, Except.mapError, meaningfulError_compile _ _ err compiled]
  | ok result => rfl

theorem fromString_text (valid : (Policy.gate g spelling args).wellFormed = true) :
    fromString (Policy.gate g spelling args).text = envelope g args := by
  rw [fromString, evaluatePass_text g spelling args valid]
  simp only [Except.ok_bind, asString]
  rw [evaluatePass_outofGate g spelling args valid]
  simp only [Except.ok_bind]
  rw [evaluatePass_idGate g spelling args valid, Policy.compile, envelope]
  cases compiled : Policy.compileArgs args [] with
  | error err => rfl
  | ok result =>
    simp only [Except.ok_bind]
    cases gateRule (g.threshold args.length) args.length result.1 result.2 with
    | error err => rfl
    | ok rule => rfl

end FromString

theorem gateRule_isOk (t k : Nat) (evaluated : List Arg) (principals : List MSPRole) :
    (gateRule t k evaluated principals).isOk = decide (t ≤ k + 1) := by
  rw [gateRule]
  by_cases tooMany : t > k + 1
  · rw [if_pos tooMany, decide_eq_false (by omega)]
    rfl
  · rw [if_neg tooMany, decide_eq_true (by omega)]
    rfl

theorem compileArgs_isOk {args : List Policy}
    (each : ∀ arg ∈ args, ∀ principals, (arg.compile principals).isOk = arg.fits) :
    ∀ principals, (Policy.compileArgs args principals).isOk = args.all Policy.fits := by
  induction args with
  | nil =>
    intro principals
    rfl
  | cons arg args ih =>
    intro principals
    rw [Policy.compileArgs, List.all_cons, ← each arg List.mem_cons_self principals]
    cases arg.compile principals with
    | error err => rfl
    | ok result =>
      obtain ⟨value, ps⟩ := result
      simp only [Except.ok_bind]
      rw [← ih (fun arg member => each arg (List.mem_cons_of_mem _ member)) ps]
      cases Policy.compileArgs args ps <;> rfl

theorem compile_isOk : ∀ (p : Policy) (principals : List MSPRole), (p.compile principals).isOk = p.fits := by
  intro p
  induction p with
  | principal role =>
    intro principals
    rfl
  | gate g spelling args ih =>
    intro principals
    rw [Policy.compile, Policy.fits_gate, ← compileArgs_isOk ih principals]
    cases Policy.compileArgs args principals with
    | error err => simp [Except.isOk, Except.toBool]
    | ok result =>
      obtain ⟨evaluated, ps⟩ := result
      simp only [Except.ok_bind]
      rw [← gateRule_isOk _ _ evaluated ps]
      cases gateRule (g.threshold args.length) args.length evaluated ps <;> rfl

theorem envelope_isOk (g : Gate) (spelling : Spelling) (args : List Policy) :
    (envelope g args).isOk = (Policy.gate g spelling args).fits := by
  rw [envelope, Policy.fits_gate, ← @compileArgs_isOk args (fun arg _ => compile_isOk arg) []]
  cases Policy.compileArgs args [] with
  | error err => simp [Except.isOk, Except.toBool]
  | ok result =>
    obtain ⟨evaluated, ps⟩ := result
    simp only [Except.ok_bind]
    rw [← gateRule_isOk _ _ evaluated ps]
    cases gateRule (g.threshold args.length) args.length evaluated ps <;> rfl

/-- `FromString` accepts the text of a well-formed gate exactly when every gate fits. -/
theorem fromString_text_isOk (g : Gate) (spelling : Spelling) (args : List Policy)
    (valid : (Policy.gate g spelling args).wellFormed = true) :
    (fromString (Policy.gate g spelling args).text).isOk = (Policy.gate g spelling args).fits := by
  rw [fromString_text g spelling args valid, envelope_isOk g spelling]

theorem fromString_text_isOk_of_outof_two_of_one :
    (Policy.gate (.outOf 2) .title [.principal ⟨.member, "A"⟩]).wellFormed = true ∧
      (fromString (Policy.gate (.outOf 2) .title [.principal ⟨.member, "A"⟩]).text).isOk = true := by
  have valid : (Policy.gate (.outOf 2) .title [.principal ⟨.member, "A"⟩]).wellFormed = true := by decide +kernel
  exact ⟨valid, (fromString_text_isOk _ _ _ valid).trans (by decide)⟩

/-- `OutOf(2, 'A.member')` asks for two signatures from one principal and is accepted, since
`secondPass` bounds `t` by `len(args) - 1`, which counts the context; and in
`And('A.member', Or('B.member', 'C.member'))` the principals of the inner gate are numbered
before the outer gate's own. -/
theorem fromString_accepts_outof_beyond_arguments_and_numbers_inner_gates_first :
    fromString "OutOf(2, 'A.member')".toList = .ok ⟨0, .nOutOf 2 [.signedBy 0], [⟨.member, "A"⟩]⟩ ∧
      fromString "And('A.member', Or('B.member', 'C.member'))".toList =
        .ok ⟨0, .nOutOf 2 [.signedBy 2, .nOutOf 1 [.signedBy 0, .signedBy 1]],
          [⟨.member, "B"⟩, ⟨.member, "C"⟩, ⟨.member, "A"⟩]⟩ := by
  have outOfText : "OutOf(2, 'A.member')".toList =
      (Policy.gate (.outOf 2) .title [.principal ⟨.member, "A"⟩]).text := by
    decide +kernel
  have andText : "And('A.member', Or('B.member', 'C.member'))".toList =
      (Policy.gate .and .title [.principal ⟨.member, "A"⟩,
        .gate .or .title [.principal ⟨.member, "B"⟩, .principal ⟨.member, "C"⟩]]).text := by
    decide +kernel
  constructor
  · calc fromString "OutOf(2, 'A.member')".toList
        = fromString (Policy.gate (.outOf 2) .title [.principal ⟨.member, "A"⟩]).text := by rw [outOfText]
      _ = envelope (.outOf 2) [.principal ⟨.member, "A"⟩] := fromString_text _ _ _ (by decide +kernel)
      _ = .ok ⟨0, .nOutOf 2 [.signedBy 0], [⟨.member, "A"⟩]⟩ := rfl
  · calc fromString "And('A.member', Or('B.member', 'C.member'))".toList
        = fromString (Policy.gate .and .title [.principal ⟨.member, "A"⟩,
            .gate .or .title [.principal ⟨.member, "B"⟩, .principal ⟨.member, "C"⟩]]).text := by rw [andText]
      _ = envelope .and [.principal ⟨.member, "A"⟩,
            .gate .or .title [.principal ⟨.member, "B"⟩, .principal ⟨.member, "C"⟩]] :=
          fromString_text _ _ _ (by decide +kernel)
      _ = .ok ⟨0, .nOutOf 2 [.signedBy 2, .nOutOf 1 [.signedBy 0, .signedBy 1]],
            [⟨.member, "B"⟩, ⟨.member, "C"⟩, ⟨.member, "A"⟩]⟩ := rfl

-- The principals are numbered in the order the third pass meets them, not in the order they are
-- written; the envelope still means the policy, since each `SignedBy` names the identity its
-- principal was given.

theorem int32_of_lt {n : Nat} (small : n < 2 ^ 31) : int32 n = n := by
  have reduced : (n : Int) % ((2 ^ 32 : Nat) : Int) = n := by
    apply Int.emod_eq_of_lt
    · omega
    · omega
  unfold int32
  rw [Int.bmod_def, reduced]
  rw [if_pos]
  omega

mutual
def Policy.tree : Policy → ThresholdTree MSPRole
  | .principal role => .leaf role
  | .gate g _ args => .gate (int32 (g.threshold args.length)) (Policy.trees args)
def Policy.trees : List Policy → List (ThresholdTree MSPRole)
  | [] => []
  | arg :: args => arg.tree :: Policy.trees args
end

@[simp] theorem Policy.trees_eq_map : ∀ args, Policy.trees args = args.map Policy.tree
  | [] => rfl
  | arg :: args => by rw [Policy.trees, Policy.trees_eq_map args, List.map_cons]

def Resolves (identities : List MSPRole) : Arg → Policy → Prop
  | .inl role, arg => arg = .principal role
  | .inr rule, arg => compile identities rule = .ok arg.tree

theorem numberArgs_extends : ∀ (evaluated : List Arg) (principals : List MSPRole),
    principals <+: (numberArgs evaluated principals).2
  | [], principals => List.prefix_refl principals
  | .inl role :: evaluated, principals =>
      (List.prefix_append principals [role]).trans (numberArgs_extends evaluated (principals ++ [role]))
  | .inr _ :: evaluated, principals => numberArgs_extends evaluated principals

theorem compile_signedBy_of_numbered {identities principals : List MSPRole} {role : MSPRole}
    (numbered : principals ++ [role] <+: identities) (fewer : identities.length < 2 ^ 31) :
    compile identities (.signedBy (int32 principals.length)) = .ok (.leaf role) := by
  have inside : principals.length < identities.length := by
    have := numbered.length_le
    rw [List.length_append, List.length_singleton] at this
    omega
  have at_role : identities[principals.length] = role := by
    rw [← numbered.getElem (by simp), List.getElem_concat_length rfl]
  rw [int32_of_lt (by omega), compile, dif_neg (by omega)]
  simp only [List.get_eq_getElem, Int.toNat_natCast, at_role]

theorem compileRules_numberArgs {identities : List MSPRole} (fewer : identities.length < 2 ^ 31) :
    ∀ {evaluated : List Arg} {args : List Policy}, List.Forall₂ (Resolves identities) evaluated args →
      ∀ principals, (numberArgs evaluated principals).2 <+: identities →
        compileRules identities (numberArgs evaluated principals).1 = .ok (args.map Policy.tree)
  | [], [], .nil, _, _ => rfl
  | .inl role :: evaluated, arg :: args, .cons resolves rest, principals, numbered => by
      have same : arg = .principal role := resolves
      have later := compileRules_numberArgs fewer rest (principals ++ [role]) numbered
      rw [numberArgs, compileRules, compile_signedBy_of_numbered
        ((numberArgs_extends evaluated (principals ++ [role])).trans numbered) fewer, Except.ok_bind, later, same]
      rfl
  | .inr rule :: evaluated, arg :: args, .cons resolves rest, principals, numbered => by
      have compiled : compile identities rule = .ok arg.tree := resolves
      rw [numberArgs, compileRules, compiled, Except.ok_bind,
        compileRules_numberArgs fewer rest principals numbered]
      rfl

theorem gateRule_eq_ok {t k : Nat} {evaluated : List Arg} {principals : List MSPRole}
    {result : SignaturePolicy × List MSPRole} (ruled : gateRule t k evaluated principals = .ok result) :
    result = (.nOutOf (int32 t) (numberArgs evaluated principals).1, (numberArgs evaluated principals).2) := by
  rw [gateRule] at ruled
  split at ruled
  · cases ruled
  · cases ruled
    rfl

theorem compileArgs_resolves {args : List Policy}
    (each : ∀ arg ∈ args, ∀ principals e after, arg.compile principals = .ok (e, after) →
      principals <+: after ∧ ∀ identities, after <+: identities → identities.length < 2 ^ 31 → Resolves identities e arg) :
    ∀ principals evaluated after, Policy.compileArgs args principals = .ok (evaluated, after) →
      principals <+: after ∧ ∀ identities, after <+: identities → identities.length < 2 ^ 31 →
        List.Forall₂ (Resolves identities) evaluated args := by
  induction args with
  | nil =>
    intro principals evaluated after compiled
    cases compiled
    exact ⟨List.prefix_refl _, fun _ _ _ => .nil⟩
  | cons arg args ih =>
    intro principals evaluated after compiled
    rw [Policy.compileArgs] at compiled
    obtain ⟨⟨first, ps⟩, compiledFirst, rest⟩ := Except.bind_eq_ok_iff.mp compiled
    obtain ⟨⟨others, ps'⟩, compiledOthers, last⟩ := Except.bind_eq_ok_iff.mp rest
    cases last
    obtain ⟨grown, resolvesFirst⟩ := each arg List.mem_cons_self principals first ps compiledFirst
    obtain ⟨grownOthers, resolvesOthers⟩ :=
      ih (fun arg member => each arg (List.mem_cons_of_mem _ member)) ps others after compiledOthers
    refine ⟨grown.trans grownOthers, fun identities numbered fewer => .cons ?_ (resolvesOthers identities numbered fewer)⟩
    exact resolvesFirst identities (grownOthers.trans numbered) fewer

theorem compile_resolves : ∀ (p : Policy) (principals : List MSPRole) (e : Arg) (after : List MSPRole),
    p.compile principals = .ok (e, after) →
      principals <+: after ∧ ∀ identities, after <+: identities → identities.length < 2 ^ 31 →
        Resolves identities e p := by
  intro p
  induction p with
  | principal role =>
    intro principals e after compiled
    cases compiled
    exact ⟨List.prefix_refl _, fun _ _ _ => rfl⟩
  | gate g spelling args ih =>
    intro principals e after compiled
    rw [Policy.compile] at compiled
    obtain ⟨⟨evaluated, ps⟩, compiledArgs, rest⟩ := Except.bind_eq_ok_iff.mp compiled
    obtain ⟨⟨rule, ps'⟩, ruled, last⟩ := Except.bind_eq_ok_iff.mp rest
    cases last
    obtain ⟨grown, resolvesArgs⟩ := compileArgs_resolves ih principals evaluated ps compiledArgs
    obtain ⟨rfl, rfl⟩ := Prod.mk.inj (gateRule_eq_ok ruled)
    refine ⟨grown.trans (numberArgs_extends evaluated ps), fun identities numbered fewer => ?_⟩
    have rules := compileRules_numberArgs fewer
      (resolvesArgs identities ((numberArgs_extends evaluated ps).trans numbered) fewer) ps numbered
    show compile identities _ = _
    rw [compile, rules, Except.ok_bind, Policy.tree, Policy.trees_eq_map]
    rfl

/-- The envelope `FromString` returns for the text of a well-formed gate means the policy: the
evaluator built from it is the tree the policy denotes. -/
theorem newPolicy_fromString_text (g : Gate) (spelling : Spelling) (args : List Policy)
    (valid : (Policy.gate g spelling args).wellFormed = true) {env : SignaturePolicyEnvelope MSPRole}
    (parsed : fromString (Policy.gate g spelling args).text = .ok env) (fewer : env.identities.length < 2 ^ 31) :
    newPolicy env = .ok (Policy.gate g spelling args).tree := by
  rw [fromString_text g spelling args valid, envelope] at parsed
  obtain ⟨⟨evaluated, ps⟩, compiledArgs, rest⟩ := Except.bind_eq_ok_iff.mp parsed
  obtain ⟨⟨rule, identities⟩, ruled, last⟩ := Except.bind_eq_ok_iff.mp rest
  cases last
  have compiled : (Policy.gate g spelling args).compile [] = .ok (.inr rule, identities) := by
    rw [Policy.compile, compiledArgs, Except.ok_bind]
    simp only [ruled, Except.ok_bind]
  obtain ⟨_, resolves⟩ := compile_resolves _ [] _ _ compiled
  rw [newPolicy, if_neg (fun nonzero => nonzero rfl)]
  exact resolves identities (List.prefix_refl _) fewer

theorem newPolicy_fromString_text_of_and_or :
    (Policy.gate .and .title [.principal ⟨.member, "A"⟩,
      .gate .or .title [.principal ⟨.member, "B"⟩, .principal ⟨.member, "C"⟩]]).wellFormed = true ∧
    fromString (Policy.gate .and .title [.principal ⟨.member, "A"⟩,
      .gate .or .title [.principal ⟨.member, "B"⟩, .principal ⟨.member, "C"⟩]]).text =
        .ok ⟨0, .nOutOf 2 [.signedBy 2, .nOutOf 1 [.signedBy 0, .signedBy 1]],
          [⟨.member, "B"⟩, ⟨.member, "C"⟩, ⟨.member, "A"⟩]⟩ ∧
    newPolicy (⟨0, .nOutOf 2 [.signedBy 2, .nOutOf 1 [.signedBy 0, .signedBy 1]],
        [⟨.member, "B"⟩, ⟨.member, "C"⟩, ⟨.member, "A"⟩]⟩ : SignaturePolicyEnvelope MSPRole) =
      .ok (.gate 2 [.leaf ⟨.member, "A"⟩, .gate 1 [.leaf ⟨.member, "B"⟩, .leaf ⟨.member, "C"⟩]]) := by
  have valid : (Policy.gate .and .title [.principal ⟨.member, "A"⟩,
      .gate .or .title [.principal ⟨.member, "B"⟩, .principal ⟨.member, "C"⟩]]).wellFormed = true := by
    decide +kernel
  have parsed : fromString (Policy.gate .and .title [.principal ⟨.member, "A"⟩,
      .gate .or .title [.principal ⟨.member, "B"⟩, .principal ⟨.member, "C"⟩]]).text =
        .ok ⟨0, .nOutOf 2 [.signedBy 2, .nOutOf 1 [.signedBy 0, .signedBy 1]],
          [⟨.member, "B"⟩, ⟨.member, "C"⟩, ⟨.member, "A"⟩]⟩ :=
    (fromString_text _ _ _ valid).trans rfl
  exact ⟨valid, parsed, newPolicy_fromString_text _ _ _ valid parsed (by decide)⟩

end Fabric.Cauthdsl
