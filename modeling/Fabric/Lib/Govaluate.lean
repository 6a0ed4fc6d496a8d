import Mathlib.Data.List.Basic

/-! govaluate (`github.com/Knetic/govaluate`) on expressions made of function calls: numbers,
strings in quotes, parameter names, calls and commas. The lexer reads the text one character at
a time, the planner builds the call tree, and evaluation computes the arguments of a call from
left to right, each nested call before the call that encloses it, with a state the functions
may change. Other tokens govaluate knows (operators, booleans, brackets, time literals) are
outside this model and reported as unsupported. -/

namespace Govaluate

inductive Token where
  | numeric (value : Nat)
  | string (value : List Char)
  | parameter (name : List Char)
  | function (name : List Char)
  | separator
  | clause
  | clauseClose
  deriving DecidableEq, Repr

def quote : Char := Char.ofNat 39

def doubleQuote : Char := Char.ofNat 34

def backslash : Char := Char.ofNat 92

def isNumeric (c : Char) : Bool := c.isDigit || c == '.'

def isVariableName (c : Char) : Bool := c.isAlpha || c.isDigit || c == '_'

/-- `!isNotQuote`: either quote ends a string literal. -/
def isQuote (c : Char) : Bool := c == quote || c == doubleQuote

def digitsValue (digits : List Char) : Nat := digits.foldl (fun n d => 10 * n + (d.toNat - 48)) 0

def numericToken (digits : List Char) : Except String Token :=
  -- govaluate reads literals with strconv.ParseFloat; those with a point are outside this model
  if digits.all Char.isDigit then .ok (.numeric (digitsValue digits))
  else .error s!"unsupported numeric literal {String.ofList digits}"

def reserved : List (List Char) := ["true".toList, "false".toList, "in".toList, "IN".toList]

def nameToken (functions : List Char → Bool) (name : List Char) : Except String Token :=
  -- the boolean and `in` operators govaluate also reads here are outside this model
  if functions name then .ok (.function name)
  else if reserved.contains name then .error s!"unsupported token {String.ofList name}"
  else .ok (.parameter name)

inductive LexState where
  | between
  | numeric (digits : List Char)
  | name (chars : List Char)
  | string (chars : List Char)
  | escaped (chars : List Char)

def stepBetween (c : Char) : Except String (List Token × LexState) :=
  if c.isWhitespace then .ok ([], .between)
  else if isNumeric c then .ok ([], .numeric [c])
  else if c = ',' then .ok ([.separator], .between)
  else if c.isAlpha then .ok ([], .name [c])
  else if isQuote c then .ok ([], .string [])
  else if c = '(' then .ok ([.clause], .between)
  else if c = ')' then .ok ([.clauseClose], .between)
  else .error s!"Invalid token: {String.ofList [c]}"

def stepChar (functions : List Char → Bool) : LexState → Char → Except String (List Token × LexState)
  | .between, c => stepBetween c
  | .numeric digits, c =>
      if isNumeric c then .ok ([], .numeric (digits ++ [c]))
      else do
        let token ← numericToken digits
        let (more, state) ← stepBetween c
        .ok (token :: more, state)
  | .name chars, c =>
      if isVariableName c then .ok ([], .name (chars ++ [c]))
      else do
        let token ← nameToken functions chars
        let (more, state) ← stepBetween c
        .ok (token :: more, state)
  | .string chars, c =>
      if c = backslash then .ok ([], .escaped chars)
      else if isQuote c then .ok ([.string chars], .between)
      else .ok ([], .string (chars ++ [c]))
  | .escaped chars, c => .ok ([], .string (chars ++ [c]))

def finish (functions : List Char → Bool) : LexState → Except String (List Token)
  | .between => .ok []
  | .numeric digits => do
      let token ← numericToken digits
      .ok [token]
  | .name chars => do
      let token ← nameToken functions chars
      .ok [token]
  | .string _ | .escaped _ => .error "Unclosed string literal"

def lexFrom (functions : List Char → Bool) : List Token → LexState → List Char → Except String (List Token)
  | ret, state, [] => (finish functions state).map (ret ++ ·)
  | ret, state, c :: rest =>
      match stepChar functions state c with
      | .ok (tokens, state) => lexFrom functions (ret ++ tokens) state rest
      | .error err => .error err

def parseTokens (functions : List Char → Bool) (expression : List Char) : Except String (List Token) :=
  lexFrom functions [] .between expression

inductive Expr where
  | numeric (value : Nat)
  | string (value : List Char)
  | parameter (name : List Char)
  | call (name : List Char) (args : List Expr)
  deriving Repr

mutual
def parseExpr : Nat → List Token → Except String (Expr × List Token)
  -- each step takes at least one token, so the number of tokens is enough fuel
  | 0, _ => .error "unexpected end of expression"
  | _ + 1, .numeric value :: rest => .ok (.numeric value, rest)
  | _ + 1, .string value :: rest => .ok (.string value, rest)
  | _ + 1, .parameter name :: rest => .ok (.parameter name, rest)
  | _ + 1, .function name :: .clause :: .clauseClose :: rest => .ok (.call name [], rest)
  | fuel + 1, .function name :: .clause :: rest => do
      let (arg, rest) ← parseExpr fuel rest
      let (args, rest) ← parseArgs fuel rest
      .ok (.call name (arg :: args), rest)
  | _ + 1, _ => .error "unexpected token"
def parseArgs : Nat → List Token → Except String (List Expr × List Token)
  | 0, _ => .error "unexpected end of expression"
  | _ + 1, .clauseClose :: rest => .ok ([], rest)
  | fuel + 1, .separator :: rest => do
      let (arg, rest) ← parseExpr fuel rest
      let (args, rest) ← parseArgs fuel rest
      .ok (arg :: args, rest)
  | _ + 1, _ => .error "unexpected token"
end

-- An expression printed the way `fmt` code prints calls (names, numbers in decimal, strings between
-- single quotes, the arguments of a call behind `", "`) is lexed and parsed back into itself.

mutual
def Expr.print : Expr → List Char
  | .numeric value => Nat.toDigits 10 value
  | .string value => quote :: (value ++ [quote])
  | .parameter name => name
  | .call name [] => name ++ ['(', ')']
  | .call name (arg :: args) => name ++ ('(' :: (arg.print ++ printRest args))
def printRest : List Expr → List Char
  | [] => [')']
  | arg :: args => ',' :: ' ' :: (arg.print ++ printRest args)
end

mutual
def Expr.tokens : Expr → List Token
  | .numeric value => [.numeric value]
  | .string value => [.string value]
  | .parameter name => [.parameter name]
  | .call name [] => [.function name, .clause, .clauseClose]
  | .call name (arg :: args) => .function name :: .clause :: (arg.tokens ++ tokensRest args)
def tokensRest : List Expr → List Token
  | [] => [.clauseClose]
  | arg :: args => .separator :: (arg.tokens ++ tokensRest args)
end

def isName : List Char → Bool
  | [] => false
  | c :: rest => c.isAlpha && rest.all isVariableName

mutual
def Expr.printable (functions : List Char → Bool) : Expr → Bool
  | .numeric _ => true
  | .string value => value.all fun c => c != backslash && !isQuote c
  | .parameter name => isName name && !functions name && !reserved.contains name
  | .call name args => isName name && functions name && argsPrintable functions args
def argsPrintable (functions : List Char → Bool) : List Expr → Bool
  | [] => true
  | arg :: args => arg.printable functions && argsPrintable functions args
end

section Lexing

theorem toNat_of_isWhitespace {c : Char} (space : c.isWhitespace = true) :
    c.toNat = 32 ∨ c.toNat = 9 ∨ c.toNat = 13 ∨ c.toNat = 10 := by
  simp only [Char.isWhitespace, Bool.or_eq_true, decide_eq_true_eq] at space
  rcases space with ((same | same) | same) | same <;> subst same <;> decide

theorem toNat_of_isDigit {c : Char} (digit : c.isDigit = true) : 48 ≤ c.toNat ∧ c.toNat ≤ 57 := by
  simp only [Char.isDigit, Bool.and_eq_true, decide_eq_true_eq, UInt32.le_iff_toNat_le] at digit
  exact digit

theorem toNat_of_isAlpha {c : Char} (alpha : c.isAlpha = true) :
    (65 ≤ c.toNat ∧ c.toNat ≤ 90) ∨ (97 ≤ c.toNat ∧ c.toNat ≤ 122) := by
  -- read through `isUpper` and `isLower` by their bodies, as the one file already has their equations
  have bounds : (decide (c.val ≥ 'A'.val ∧ c.val ≤ 'Z'.val) || (c.val ≥ 'a'.val && c.val ≤ 'z'.val)) = true := alpha
  simp only [Bool.or_eq_true, Bool.and_eq_true, decide_eq_true_eq, ge_iff_le, UInt32.le_iff_toNat_le] at bounds
  exact bounds

theorem isWhitespace_of_isDigit {c : Char} (digit : c.isDigit = true) : c.isWhitespace = false := by
  have range := toNat_of_isDigit digit
  cases space : c.isWhitespace
  · rfl
  · have := toNat_of_isWhitespace space
    omega

theorem stepBetween_of_isDigit {c : Char} (digit : c.isDigit = true) : stepBetween c = .ok ([], .numeric [c]) := by
  rw [stepBetween, if_neg (by rw [isWhitespace_of_isDigit digit]; decide), if_pos (by simp [isNumeric, digit])]

theorem stepBetween_of_isAlpha {c : Char} (alpha : c.isAlpha = true) : stepBetween c = .ok ([], .name [c]) := by
  have range := toNat_of_isAlpha alpha
  have notSpace : c.isWhitespace = false := by
    cases space : c.isWhitespace
    · rfl
    · have := toNat_of_isWhitespace space
      omega
  have notDigit : c.isDigit = false := by
    cases digit : c.isDigit
    · rfl
    · have := toNat_of_isDigit digit
      omega
  have notPoint : c ≠ '.' := by
    rintro rfl
    revert range
    decide
  have notComma : c ≠ ',' := by
    rintro rfl
    revert range
    decide
  rw [stepBetween, if_neg (by rw [notSpace]; decide), if_neg (by simp [isNumeric, notDigit, notPoint]),
    if_neg notComma, if_pos alpha]

theorem isVariableName_of_isDigit {c : Char} (digit : c.isDigit = true) : isVariableName c = true := by
  simp [isVariableName, digit]

variable (functions : List Char → Bool)

theorem lexFrom_numeric_append (ret : List Token) :
    ∀ (digits chars rest : List Char), chars.all isNumeric →
      lexFrom functions ret (.numeric digits) (chars ++ rest) =
        lexFrom functions ret (.numeric (digits ++ chars)) rest
  | digits, [], rest, _ => by rw [List.nil_append, List.append_nil]
  | digits, c :: chars, rest, all => by
      rw [List.all_cons, Bool.and_eq_true] at all
      rw [List.cons_append, lexFrom, stepChar, if_pos all.1]
      dsimp only
      rw [List.append_nil, lexFrom_numeric_append ret (digits ++ [c]) chars rest all.2, List.append_assoc,
        List.singleton_append]

theorem lexFrom_name_append (ret : List Token) :
    ∀ (acc chars rest : List Char), chars.all isVariableName →
      lexFrom functions ret (.name acc) (chars ++ rest) = lexFrom functions ret (.name (acc ++ chars)) rest
  | acc, [], rest, _ => by rw [List.nil_append, List.append_nil]
  | acc, c :: chars, rest, all => by
      rw [List.all_cons, Bool.and_eq_true] at all
      rw [List.cons_append, lexFrom, stepChar, if_pos all.1]
      dsimp only
      rw [List.append_nil, lexFrom_name_append ret (acc ++ [c]) chars rest all.2, List.append_assoc,
        List.singleton_append]

theorem lexFrom_name_end {chars : List Char} {token : Token} (named : nameToken functions chars = .ok token)
    (ret : List Token) : ∀ {rest : List Char}, (∀ c ∈ rest.head?, isVariableName c = false) →
      lexFrom functions ret (.name chars) rest = lexFrom functions (ret ++ [token]) .between rest
  | [], _ => by simp [lexFrom, finish, named, Except.map, bind, Except.bind]
  | c :: rest, ends => by
      have stops : isVariableName c = false := ends c rfl
      rw [lexFrom, stepChar, if_neg (by rw [stops]; decide), named, lexFrom, stepChar]
      cases stepBetween c <;> simp [bind, Except.bind]

theorem lexFrom_numeric_end {digits : List Char} {token : Token} (read : numericToken digits = .ok token)
    (ret : List Token) : ∀ {rest : List Char}, (∀ c ∈ rest.head?, isNumeric c = false) →
      lexFrom functions ret (.numeric digits) rest = lexFrom functions (ret ++ [token]) .between rest
  | [], _ => by simp [lexFrom, finish, read, Except.map, bind, Except.bind]
  | c :: rest, ends => by
      have stops : isNumeric c = false := ends c rfl
      rw [lexFrom, stepChar, if_neg (by rw [stops]; decide), read, lexFrom, stepChar]
      cases stepBetween c <;> simp [bind, Except.bind]

theorem lexFrom_string_append (ret : List Token) :
    ∀ (acc value rest : List Char), (value.all fun c => c != backslash && !isQuote c) →
      lexFrom functions ret (.string acc) (value ++ quote :: rest) =
        lexFrom functions (ret ++ [.string (acc ++ value)]) .between rest
  | acc, [], rest, _ => by
      rw [List.nil_append, lexFrom, stepChar, if_neg (by decide), if_pos (by decide), List.append_nil]
  | acc, c :: value, rest, all => by
      rw [List.all_cons, Bool.and_eq_true, Bool.and_eq_true, bne_iff_ne, Bool.not_eq_true'] at all
      rw [List.cons_append, lexFrom, stepChar, if_neg all.1.1, if_neg (by rw [all.1.2]; decide)]
      dsimp only
      rw [List.append_nil, lexFrom_string_append ret (acc ++ [c]) value rest all.2, List.append_assoc,
        List.singleton_append]

theorem digitChar_sub {d : Nat} (small : d < 10) : (Nat.digitChar d).toNat - 48 = d := by
  revert d
  decide

theorem toDigits_eq_append {value : Nat} (large : 10 ≤ value) :
    Nat.toDigits 10 value = Nat.toDigits 10 (value / 10) ++ [Nat.digitChar (value % 10)] := by
  have split := Nat.toDigits_append_toDigits (b := 10) (n := value / 10) (d := value % 10) (by decide)
    (by omega) (Nat.mod_lt _ (by decide))
  rw [Nat.toDigits_of_lt_base (Nat.mod_lt _ (by decide)), Nat.div_add_mod] at split
  exact split.symm

theorem toDigits_all_isDigit (value : Nat) : (Nat.toDigits 10 value).all Char.isDigit := by
  by_cases small : value < 10
  · rw [Nat.toDigits_of_lt_base small]
    simp [Nat.isDigit_digitChar, small]
  · rw [toDigits_eq_append (by omega), List.all_append, toDigits_all_isDigit (value / 10)]
    simp [Nat.isDigit_digitChar, Nat.mod_lt]
termination_by value
decreasing_by omega

theorem digitsValue_toDigits (value : Nat) : digitsValue (Nat.toDigits 10 value) = value := by
  by_cases small : value < 10
  · rw [Nat.toDigits_of_lt_base small, digitsValue, List.foldl_cons, List.foldl_nil, digitChar_sub small]
    omega
  · have last := digitChar_sub (Nat.mod_lt value (by decide : 10 > 0))
    rw [toDigits_eq_append (by omega), digitsValue, List.foldl_append, ← digitsValue,
      digitsValue_toDigits (value / 10), List.foldl_cons, List.foldl_nil, last]
    omega
termination_by value
decreasing_by omega

theorem lexFrom_numeric (ret : List Token) (value : Nat) {rest : List Char}
    (ends : ∀ c ∈ rest.head?, isNumeric c = false) :
    lexFrom functions ret .between (Nat.toDigits 10 value ++ rest) =
      lexFrom functions (ret ++ [.numeric value]) .between rest := by
  have all := toDigits_all_isDigit value
  have read : numericToken (Nat.toDigits 10 value) = .ok (.numeric value) := by
    rw [numericToken, if_pos all, digitsValue_toDigits]
  obtain ⟨d, ds, split⟩ := List.exists_cons_of_ne_nil (List.ne_nil_of_length_pos (Nat.length_toDigits_pos (b := 10) (n := value)))
  rw [split, List.all_cons, Bool.and_eq_true] at all
  rw [split] at read ⊢
  rw [List.cons_append, lexFrom, stepChar, stepBetween_of_isDigit all.1]
  dsimp only
  rw [List.append_nil, lexFrom_numeric_append functions ret [d] ds rest
      (List.all_eq_true.mpr fun c member => by simp [isNumeric, List.all_eq_true.mp all.2 c member]),
    List.singleton_append, lexFrom_numeric_end functions read ret ends]

theorem lexFrom_name (ret : List Token) {name : List Char} (valid : isName name = true) {token : Token}
    (named : nameToken functions name = .ok token) {rest : List Char}
    (ends : ∀ c ∈ rest.head?, isVariableName c = false) :
    lexFrom functions ret .between (name ++ rest) = lexFrom functions (ret ++ [token]) .between rest := by
  cases name with
  | nil => cases valid
  | cons c chars =>
    rw [isName, Bool.and_eq_true] at valid
    rw [List.cons_append, lexFrom, stepChar, stepBetween_of_isAlpha valid.1]
    dsimp only
    rw [List.append_nil, lexFrom_name_append functions ret [c] chars rest valid.2, List.singleton_append,
      lexFrom_name_end functions named ret ends]

def Delimited (rest : List Char) : Prop := ∀ c ∈ rest.head?, isVariableName c = false ∧ isNumeric c = false

theorem delimited_printRest (args : List Expr) (rest : List Char) : Delimited (printRest args ++ rest) := by
  cases args with
  | nil =>
    intro c head
    cases head
    decide
  | cons arg args =>
    intro c head
    cases head
    decide

theorem argsPrintable_eq_all : ∀ args : List Expr, argsPrintable functions args = args.all (Expr.printable functions)
  | [] => rfl
  | arg :: args => by rw [argsPrintable, argsPrintable_eq_all args, List.all_cons]

mutual
theorem lexFrom_print : ∀ (e : Expr) (ret : List Token) {rest : List Char}, e.printable functions = true →
    Delimited rest → lexFrom functions ret .between (e.print ++ rest) = lexFrom functions (ret ++ e.tokens) .between rest
  | .numeric value, ret, rest, _, delimited => by
      rw [Expr.print, Expr.tokens]
      exact lexFrom_numeric functions ret value fun c head => (delimited c head).2
  | .string value, ret, rest, printable, _ => by
      rw [Expr.printable] at printable
      rw [Expr.print, Expr.tokens, List.cons_append, lexFrom, stepChar]
      rw [show stepBetween quote = .ok ([], .string []) from rfl]
      dsimp only
      rw [List.append_nil, List.append_assoc, List.singleton_append,
        lexFrom_string_append functions ret [] value rest printable, List.nil_append]
  | .parameter name, ret, rest, printable, delimited => by
      simp only [Expr.printable, Bool.and_eq_true, Bool.not_eq_true'] at printable
      have named : nameToken functions name = .ok (.parameter name) := by
        rw [nameToken, if_neg (by rw [printable.1.2]; decide), if_neg (by rw [printable.2]; decide)]
      rw [Expr.print, Expr.tokens]
      exact lexFrom_name functions ret printable.1.1 named fun c head => (delimited c head).1
  | .call name [], ret, rest, printable, _ => by
      simp only [Expr.printable, Bool.and_eq_true] at printable
      have named : nameToken functions name = .ok (.function name) := by rw [nameToken, if_pos printable.1.2]
      rw [Expr.print, Expr.tokens, List.append_assoc, lexFrom_name functions ret printable.1.1 named
        (fun c head => by cases head; decide)]
      simp only [List.cons_append, List.nil_append, lexFrom, stepChar,
        show stepBetween '(' = .ok ([.clause], .between) from rfl,
        show stepBetween ')' = .ok ([.clauseClose], .between) from rfl, List.append_assoc]
  | .call name (arg :: args), ret, rest, printable, _ => by
      simp only [Expr.printable, argsPrintable, Bool.and_eq_true] at printable
      have named : nameToken functions name = .ok (.function name) := by rw [nameToken, if_pos printable.1.2]
      rw [Expr.print, Expr.tokens, List.append_assoc, lexFrom_name functions ret printable.1.1 named
        (fun c head => by cases head; decide)]
      simp only [List.cons_append, lexFrom, stepChar, show stepBetween '(' = .ok ([.clause], .between) from rfl,
        List.append_assoc]
      rw [lexFrom_print arg _ printable.2.1 (delimited_printRest args rest),
        lexFrom_printRest args _ rest printable.2.2]
      simp only [List.append_assoc, List.cons_append, List.nil_append]
theorem lexFrom_printRest : ∀ (args : List Expr) (ret : List Token) (rest : List Char),
    argsPrintable functions args = true →
      lexFrom functions ret .between (printRest args ++ rest) = lexFrom functions (ret ++ tokensRest args) .between rest
  | [], ret, rest, _ => by
      rw [printRest, tokensRest, List.singleton_append, lexFrom, stepChar]
      rfl
  | arg :: args, ret, rest, printable => by
      simp only [argsPrintable, Bool.and_eq_true] at printable
      simp only [printRest, tokensRest, List.cons_append, lexFrom, stepChar,
        show stepBetween ',' = .ok ([.separator], .between) from rfl,
        show stepBetween ' ' = .ok ([], .between) from rfl, List.append_nil, List.append_assoc]
      rw [lexFrom_print arg _ printable.1 (delimited_printRest args rest),
        lexFrom_printRest args _ rest printable.2]
      simp only [List.append_assoc, List.cons_append, List.nil_append]
end

end Lexing

structure Literals (V : Type) where
  numeric : Nat → V
  string : List Char → V

abbrev ExpressionFunction (V σ : Type) := List V → σ → Except String (V × σ)

/-- `NewEvaluableExpressionWithFunctions`: the text lexed and parsed into one expression. -/
def newEvaluableExpressionWithFunctions (expression : List Char) (functions : List Char → Bool) :
    Except String Expr := do
  let tokens ← parseTokens functions expression
  let (expr, rest) ← parseExpr (tokens.length + 1) tokens
  if rest = [] then .ok expr else .error "unexpected token after the expression"

section Parsing

theorem parseExpr_function_cons (name : List Char) (fuel : Nat) {t : Token} (notClose : t ≠ .clauseClose)
    (ts : List Token) :
    parseExpr (fuel + 1) (.function name :: .clause :: t :: ts) = (do
      let (arg, rest) ← parseExpr fuel (t :: ts)
      let (args, rest) ← parseArgs fuel rest
      .ok (.call name (arg :: args), rest)) := by
  cases t <;> first | rfl | exact absurd rfl notClose

theorem tokens_eq_cons (e : Expr) : ∃ t ts, e.tokens = t :: ts ∧ t ≠ .clauseClose := by
  cases e with
  | numeric value => exact ⟨_, _, rfl, Token.noConfusion⟩
  | string value => exact ⟨_, _, rfl, Token.noConfusion⟩
  | parameter name => exact ⟨_, _, rfl, Token.noConfusion⟩
  | call name args => cases args <;> exact ⟨_, _, rfl, Token.noConfusion⟩

mutual
theorem parseExpr_tokens : ∀ (e : Expr) (fuel : Nat) (rest : List Token), e.tokens.length ≤ fuel →
    parseExpr fuel (e.tokens ++ rest) = .ok (e, rest)
  | .numeric _, fuel + 1, _, _ => rfl
  | .string _, fuel + 1, _, _ => rfl
  | .parameter _, fuel + 1, _, _ => rfl
  | .call _ [], fuel + 1, _, _ => rfl
  | .call name (arg :: args), fuel + 1, rest, short => by
      rw [Expr.tokens, List.length_cons, List.length_cons, List.length_append] at short
      obtain ⟨t, ts, first, notClose⟩ := tokens_eq_cons arg
      have parsedArg := parseExpr_tokens arg fuel (tokensRest args ++ rest) (by omega)
      rw [Expr.tokens, List.cons_append, List.cons_append, List.append_assoc, first, List.cons_append,
        parseExpr_function_cons name fuel notClose, ← List.cons_append, ← first, parsedArg]
      simp only [bind, Except.bind]
      rw [parseArgs_tokensRest args fuel rest (by omega)]
  | .numeric _, 0, _, short
  | .string _, 0, _, short
  | .parameter _, 0, _, short
  | .call _ [], 0, _, short
  | .call _ (_ :: _), 0, _, short => by simp [Expr.tokens] at short
theorem parseArgs_tokensRest : ∀ (args : List Expr) (fuel : Nat) (rest : List Token),
    (tokensRest args).length ≤ fuel → parseArgs fuel (tokensRest args ++ rest) = .ok (args, rest)
  | [], fuel + 1, _, _ => rfl
  | arg :: args, fuel + 1, rest, short => by
      rw [tokensRest, List.length_cons, List.length_append] at short
      rw [tokensRest, List.cons_append, List.append_assoc, parseArgs,
        parseExpr_tokens arg fuel (tokensRest args ++ rest) (by omega)]
      simp only [bind, Except.bind]
      rw [parseArgs_tokensRest args fuel rest (by omega)]
  | [], 0, _, short
  | _ :: _, 0, _, short => by simp [tokensRest] at short
end

variable (functions : List Char → Bool)

theorem newEvaluableExpressionWithFunctions_print {e : Expr} (printable : e.printable functions = true) :
    newEvaluableExpressionWithFunctions e.print functions = .ok e := by
  have lexed : parseTokens functions e.print = .ok e.tokens := by
    have whole := @lexFrom_print functions e [] [] printable (fun c head => by cases head)
    rw [List.append_nil, List.nil_append] at whole
    rw [parseTokens, whole]
    simp [lexFrom, finish, Except.map]
  have parsed := parseExpr_tokens e (e.tokens.length + 1) [] (by omega)
  rw [List.append_nil] at parsed
  rw [newEvaluableExpressionWithFunctions, lexed]
  simp only [bind, Except.bind]
  rw [parsed]
  rfl

theorem printRest_eq : ∀ args : List Expr, printRest args = args.flatMap (fun arg => ',' :: ' ' :: arg.print) ++ [')']
  | [] => rfl
  | arg :: args => by
      rw [printRest, printRest_eq args, List.flatMap_cons, List.append_assoc]
      rfl

theorem print_call_eq_append (name : List Char) (args : List Expr) :
    ∃ body, (Expr.call name args).print = body ++ [')'] := by
  cases args with
  | nil => exact ⟨name ++ ['('], by rw [Expr.print, List.append_assoc]; rfl⟩
  | cons arg args =>
    refine ⟨name ++ '(' :: (arg.print ++ args.flatMap fun arg => ',' :: ' ' :: arg.print), ?_⟩
    rw [Expr.print, printRest_eq]
    simp only [List.append_assoc, List.cons_append]

end Parsing

section Evaluate

variable {V σ : Type} (literals : Literals V) (functions : List Char → Option (ExpressionFunction V σ))
  (parameters : List Char → Option V)

mutual
/-- `Evaluate`: the arguments of a call from left to right, then the call. -/
def evaluate : Expr → σ → Except String (V × σ)
  | .numeric value, state => .ok (literals.numeric value, state)
  | .string value, state => .ok (literals.string value, state)
  | .parameter name, state =>
      match parameters name with
      | some value => .ok (value, state)
      | none => .error s!"No parameter {String.ofList (quote :: name ++ [quote])} found."
  | .call name args, state => do
      let (values, state) ← evaluateArgs args state
      match functions name with
      | some function => function values state
      | none => .error s!"No function {String.ofList name}"
def evaluateArgs : List Expr → σ → Except String (List V × σ)
  | [], state => .ok ([], state)
  | arg :: args, state => do
      let (value, state) ← evaluate arg state
      let (values, state) ← evaluateArgs args state
      .ok (value :: values, state)
end

theorem evaluateArgs_map {α : Type} (expr : α → Expr) (value : α → V) (state : σ) :
    ∀ {l : List α}, (∀ a ∈ l, evaluate literals functions parameters (expr a) state = .ok (value a, state)) →
      evaluateArgs literals functions parameters (l.map expr) state = .ok (l.map value, state)
  | [], _ => rfl
  | a :: l, each => by
      rw [List.map_cons, evaluateArgs, each a List.mem_cons_self]
      simp only [bind, Except.bind]
      rw [evaluateArgs_map expr value state fun b member => each b (List.mem_cons_of_mem a member)]
      rfl

end Evaluate

end Govaluate
