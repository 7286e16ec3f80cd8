import MonitoringConfig.Proofs.Number.Nearest
import MonitoringConfig.Proofs.Promql.Render
/-!
# Reading arithmetic

Arithmetic is read by a machine that keeps what waits for an operand on a stack: an opening
parenthesis, a sign, or a left operand with its operator. A sign is no part of a number. It binds
like multiplication, looser than a power.

* `lex`, `step`, `read` : the tokens of a text, one move of the machine, the term that a text says.
* `lex_render` : the text of an expression has the tokens of its nodes, numbers without their signs.
* `run_tokens` : what stands on the stack behind an expression.
* `read_render` : every arithmetic expression is read, as the term `asRead`.
* `standsFor_asRead`, `arithmetic_readsBack` : **the term stands for the expression just if no
  number less than zero is raised to a power**, integers being numbers of the format.
-/

namespace MonitoringConfig

theorem Binary64.ofInt_isCanonical (n : Int) : (ofInt n).isCanonical = true :=
  ofRatio_isCanonical (n < 0) n.natAbs Nat.one_pos

namespace Promql.Arithmetic

/-! ### Terms -/

/-- What an arithmetic text says. Numbers are not negative: a sign is an operation of its own. -/
inductive Term where
  | number (x : Binary64)
  | signed (negative : Bool) (operand : Term)
  | operation (left : Term) (op : Operator) (right : Term)
  deriving DecidableEq, Repr

/-- The smallest parts of an arithmetic text. -/
inductive Token where
  | number (x : Binary64)
  | operator (op : Operator)
  | opening
  | closing
  deriving DecidableEq, Repr

/-! ### Tokens -/

/-- The token of a character that is no part of a number; a space has none. -/
def mark? (c : Char) : Option (List Token) :=
  match c with
  | ' ' | '\t' | '\n' | '\r' => some []
  | '(' => some [.opening]
  | ')' => some [.closing]
  | '+' => some [.operator .add]
  | '-' => some [.operator .sub]
  | '*' => some [.operator .mul]
  | '/' => some [.operator .div]
  | '%' => some [.operator .mod]
  | '^' => some [.operator .pow]
  | _ => none

/-- The number that a run of digits and points stands for, if there is a run. -/
def numberOf? (run : List Char) : Option (List Token) :=
  if run.isEmpty then some []
  else (Binary64.readUnsigned false run).map fun x => [.number x]

/-- The tokens of a text, given the run of digits and points in front of it. -/
def lex (run : List Char) : List Char → Option (List Token)
  | [] => numberOf? run
  | c :: cs =>
    if isLiteralChar c then lex (run ++ [c]) cs
    else do
      let number ← numberOf? run
      let mark ← mark? c
      let tokens ← lex [] cs
      some (number ++ (mark ++ tokens))

/-! ### The machine -/

/-- How tight an operator binds. -/
def tightness : Operator → Nat
  | .add | .sub => 1
  | .mul | .div | .mod => 2
  | .pow => 3
  | _ => 0

/-- What waits for an operand. -/
inductive Frame where
  | paren
  | sign (negative : Bool)
  | left (operand : Term) (op : Operator)
  deriving DecidableEq, Repr

/-- The term that a frame makes of its operand. -/
def Frame.apply : Frame → Term → Term
  | paren, t => t
  | sign negative, t => .signed negative t
  | left operand op, t => .operation operand op t

/-- Whether a frame takes its operand in front of an operator: it binds tighter, or as tight and
from the left. Only powers bind from the right. -/
def Frame.precedes (op : Operator) : Frame → Bool
  | paren => false
  | sign _ => tightness op ≤ tightness .mul
  | left _ op' => tightness op < tightness op' || tightness op == tightness op' && op != .pow

/-- Whether a frame takes its operand where an expression ends. -/
def Frame.ends : Frame → Bool
  | paren => false
  | _ => true

/-- Gives an operand to the frames on top of the stack that take it. -/
def reduce (takes : Frame → Bool) : List Frame → Term → List Frame × Term
  | [], t => ([], t)
  | f :: s, t => if takes f then reduce takes s (f.apply t) else (f :: s, t)

/-- Where the machine is: in front of an operand or behind one. -/
inductive State where
  | operand (stack : List Frame)
  | operator (stack : List Frame) (t : Term)
  deriving DecidableEq, Repr

/-- One move of the machine. -/
def step : State → Token → Option State
  | .operand s, .number x => some (.operator s (.number x))
  | .operand s, .opening => some (.operand (.paren :: s))
  | .operand s, .operator .add => some (.operand (.sign false :: s))
  | .operand s, .operator .sub => some (.operand (.sign true :: s))
  | .operator s t, .operator op =>
    let (s, t) := reduce (Frame.precedes op) s t
    some (.operand (.left t op :: s))
  | .operator s t, .closing =>
    match reduce Frame.ends s t with
    | (.paren :: s, t) => some (.operator s t)
    | _ => none
  | _, _ => none

/-- The term that has been read at the end of a text. -/
def finish : State → Option Term
  | .operand _ => none
  | .operator s t =>
    match reduce Frame.ends s t with
    | ([], t) => some t
    | _ => none

/-- The term that a text says. -/
def read (text : String) : Option Term := do
  let tokens ← lex [] text.toList
  let state ← tokens.foldlM step (.operand [])
  finish state

/-- A power binds tighter than a sign in front of it, and from the right. -/
example : read "-1 ^ 2 ^ 1" = some (.signed true (.operation (.number (.ofInt 1)) .pow
    (.operation (.number (.ofInt 2)) .pow (.number (.ofInt 1))))) := by decide +kernel

/-! ### Expressions -/

/-- Whether a number is less than zero. -/
def isNegative : Binary64 → Bool
  | .finite negative mantissa _ => negative && mantissa != 0
  | .infinite negative => negative
  | .nan => false

/-- A number without its sign. -/
def unsigned : Binary64 → Binary64
  | .finite _ mantissa exponent => .finite false mantissa exponent
  | .infinite _ => .infinite false
  | .nan => .nan

/-- Whether an operator is one of arithmetic. -/
def isArithmeticOp : Operator → Bool
  | .add | .sub | .mul | .div | .mod | .pow => true
  | _ => false

/-- Whether a number has a finite value of the format. -/
def isFiniteScalar : Scalar → Bool
  | .int n => (Binary64.ofInt n).isFinite
  | .float x => x.isFinite && x.isCanonical

/-- Whether an expression is made of finite numbers and arithmetic operations only. -/
def isArithmetic : Expr → Bool
  | .scalar s => isFiniteScalar s
  | .binary left op right m =>
    isArithmeticOp op && m == {} && isArithmetic left && isArithmetic right
  | _ => false

/-- The base of a power that is written with a sign of its own, without that sign. -/
def negativeBase? : Expr → Operator → Option Binary64
  | .scalar s, .pow => if isNegative s.value then some (unsigned s.value) else none
  | _, _ => none

/-- Whether a number less than zero is raised to a power. -/
def hasNegativeBase : Expr → Bool
  | .binary left op right _ =>
    (negativeBase? left op).isSome || hasNegativeBase left || hasNegativeBase right
  | _ => false

/-- Whether every number is equal to its floating-point value. -/
def isExactTree : Expr → Bool
  | .scalar s => (Scalar.float s.value).equal s
  | .binary left _ right _ => isExactTree left && isExactTree right
  | _ => false

/-- The term of a number: a literal, with a sign if it is less than zero. -/
def numberAsRead (x : Binary64) : Term :=
  if isNegative x then .signed true (.number (unsigned x)) else .number (unsigned x)

/-- The term that the text of an expression says. The sign of a base is taken for that of the
power. -/
def asRead : Expr → Term
  | .scalar s => numberAsRead s.value
  | .binary left op right _ =>
    match negativeBase? left op with
    | some x => .signed true (.operation (.number x) op (asRead right))
    | none => .operation (asRead left) op (asRead right)
  | _ => .number .nan

/-- Whether a term is the tree of an expression: operation by operation, numbers by value, a signed
literal for a number less than zero. -/
def standsFor : Term → Expr → Bool
  | .number x, .scalar s => (Scalar.float x).equal s
  | .signed true (.number x), .scalar s => (Scalar.float x.neg).equal s
  | .operation l op r, .binary left op' right _ => standsFor l left && op == op' && standsFor r right
  | _, _ => false

/-- The tokens of a number. -/
def numberTokens (x : Binary64) : List Token :=
  (if isNegative x then [.operator .sub] else []) ++ [.number (unsigned x)]

/-- The tokens of an expression. -/
def tokensOf : Expr → List Token
  | .scalar s => numberTokens s.value
  | .binary left op right _ =>
    .opening :: (tokensOf left ++ .operator op :: (tokensOf right ++ [.closing]))
  | _ => []

/-- The values of integers are always of the format. -/
theorem value_of_isFiniteScalar {s : Scalar} (h : isFiniteScalar s = true) :
    s.value.isFinite = true ∧ s.value.isCanonical = true := by
  cases s with
  | int n => exact ⟨h, Binary64.ofInt_isCanonical n⟩
  | float x => exact Bool.and_eq_true_iff.1 h

/-! ### The tokens of a text -/

theorem lex_literal {literal : List Char} (h : ∀ c ∈ literal, isLiteralChar c = true)
    (run r : List Char) : lex run (literal ++ r) = lex (run ++ literal) r := by
  induction literal generalizing run with
  | nil => simp
  | cons c cs ih =>
    rw [List.cons_append, lex, if_pos (h c List.mem_cons_self),
      ih fun d hd => h d (List.mem_cons_of_mem _ hd)]
    simp

theorem lex_mark {c : Char} {mark : List Token} (hc : isLiteralChar c = false)
    (hmark : mark? c = some mark) (cs : List Char) :
    lex [] (c :: cs) = (lex [] cs).map (mark ++ ·) := by
  rw [lex, hc, hmark]
  cases lex [] cs <;> rfl

/-- A number ends where no digit or point stands. -/
theorem lex_run {run : List Char} {x : Binary64} (hne : run ≠ [])
    (hread : Binary64.readUnsigned false run = some x) {r : List Char}
    (hr : Stops isLiteralChar r) : lex run r = (lex [] r).map (.number x :: ·) := by
  have hnumber : numberOf? run = some [.number x] := by simp [numberOf?, hne, hread]
  cases r with
  | nil => rw [lex, hnumber]; rfl
  | cons c cs =>
    rw [lex, lex, (stops_cons ..).1 hr, hnumber]
    cases mark? c with
    | none => rfl
    | some mark => cases lex [] cs <;> rfl

theorem lex_number {x : Binary64} (hfinite : x.isFinite = true) (hx : x.isCanonical = true)
    {r : List Char} (hr : Stops isLiteralChar r) :
    lex [] ((formatNumber x).toList ++ r) = (lex [] r).map (numberTokens x ++ ·) := by
  cases x with
  | nan => cases hfinite
  | infinite negative => cases hfinite
  | finite negative mantissa exponent =>
    obtain ⟨literal, htext, hne, hchars, hread⟩ := formatNumber_literal hx
    have hnumber : lex [] (literal ++ r) =
        (lex [] r).map (.number (.finite false mantissa exponent) :: ·) := by
      rw [lex_literal hchars, List.nil_append, lex_run hne hread hr]
    rw [htext, numberTokens, isNegative, unsigned]
    cases negative && mantissa != 0 with
    | false => exact hnumber
    | true =>
      rw [if_pos rfl, if_pos rfl, List.append_assoc, List.singleton_append,
        lex_mark (c := '-') (by decide) rfl, hnumber, Option.map_map]
      rfl

theorem symbol_mark {op : Operator} (hop : isArithmeticOp op = true) :
    ∃ c, op.symbol.toList = [c] ∧ isLiteralChar c = false ∧ mark? c = some [.operator op] := by
  cases op with
  | add => exact ⟨'+', by decide⟩
  | sub => exact ⟨'-', by decide⟩
  | mul => exact ⟨'*', by decide⟩
  | div => exact ⟨'/', by decide⟩
  | mod => exact ⟨'%', by decide⟩
  | pow => exact ⟨'^', by decide⟩
  | _ => cases hop

theorem lex_operator {op : Operator} (hop : isArithmeticOp op = true) (cs : List Char) :
    lex [] (op.symbol.toList ++ cs) = (lex [] cs).map (.operator op :: ·) := by
  obtain ⟨c, hsymbol, hc, hmark⟩ := symbol_mark hop
  rw [hsymbol, List.singleton_append, lex_mark hc hmark]
  rfl

/-- The text of an operation without modifiers. -/
theorem render_operation (left : Expr) (op : Operator) (right : Expr) (r : List Char) :
    (Expr.binary left op right {}).render.toList ++ r =
      '(' :: (left.render.toList ++ ' ' :: (op.symbol.toList ++
        ' ' :: (right.render.toList ++ ')' :: r))) := by
  rw [Expr.render_binary, Modifiers.words_append]
  rfl

/-- **The text of an expression has the tokens of the expression.** -/
theorem lex_render {e : Expr} (h : isArithmetic e = true) {r : List Char}
    (hr : Stops isLiteralChar r) :
    lex [] (e.render.toList ++ r) = (lex [] r).map (tokensOf e ++ ·) := by
  induction e using Expr.induct generalizing r with
  | scalar s =>
    obtain ⟨hfinite, hcanonical⟩ := value_of_isFiniteScalar h
    exact lex_number hfinite hcanonical hr
  | binary left op right m ihl ihr =>
    simp only [isArithmetic, Bool.and_eq_true, beq_iff_eq] at h
    obtain ⟨⟨⟨hop, rfl⟩, hleft⟩, hright⟩ := h
    have hblank : ∀ cs, Stops isLiteralChar (' ' :: cs) ∧ lex [] (' ' :: cs) = lex [] cs := by
      intro cs
      refine ⟨(stops_cons ..).2 (by decide), ?_⟩
      rw [lex_mark (by decide) rfl]
      simp
    rw [render_operation, lex_mark (c := '(') (by decide) rfl, ihl hleft (hblank _).1,
      (hblank _).2, lex_operator hop, (hblank _).2,
      ihr hright ((stops_cons ..).2 (by decide)), lex_mark (c := ')') (by decide) rfl]
    cases lex [] r with
    | none => rfl
    | some tokens => simp [tokensOf]
  | _ => cases h

/-! ### Runs of the machine -/

/-- Where the machine is behind an expression. The sign of a number still waits for what stands
behind the number. -/
def behindExpr (s : List Frame) : Expr → State
  | .scalar v =>
    if isNegative v.value then .operator (.sign true :: s) (.number (unsigned v.value))
    else .operator s (.number (unsigned v.value))
  | e => .operator s (asRead e)

/-- At the end of an expression its sign has been given to it. -/
theorem behindExpr_ends (s : List Frame) (e : Expr) :
    ∃ s' t, behindExpr s e = .operator s' t ∧
      reduce Frame.ends s' t = reduce Frame.ends s (asRead e) := by
  cases e with
  | scalar v =>
    simp only [behindExpr, asRead, numberAsRead]
    cases isNegative v.value with
    | false => exact ⟨_, _, rfl, rfl⟩
    | true => exact ⟨_, _, rfl, rfl⟩
  | _ => exact ⟨_, _, rfl, rfl⟩

/-- The stack behind the left operand of an operation in parentheses, and its operator. -/
def behindLeft (s : List Frame) (left : Expr) (op : Operator) : List Frame :=
  match negativeBase? left op with
  | some x => .left (.number x) op :: .sign true :: .paren :: s
  | none => .left (asRead left) op :: .paren :: s

/-- An operator takes the left operand, with its sign unless it is a power. -/
theorem step_operator {op : Operator} (hop : isArithmeticOp op = true) (s : List Frame)
    (left : Expr) :
    step (behindExpr (.paren :: s) left) (.operator op) =
      some (.operand (behindLeft s left op)) := by
  cases left with
  | scalar v =>
    simp only [behindExpr, behindLeft]
    cases hneg : isNegative v.value with
    | false =>
      have hbase : negativeBase? (.scalar v) op = none := by
        cases op <;> simp [negativeBase?, hneg]
      rw [hbase]
      simp [step, reduce, Frame.precedes, asRead, numberAsRead, hneg]
    | true =>
      by_cases hpow : op = .pow
      · subst hpow
        simp [step, reduce, Frame.precedes, tightness, negativeBase?, hneg]
      · have hbase : negativeBase? (.scalar v) op = none := by
          cases op <;> first | rfl | exact absurd rfl hpow
        have htight : tightness op ≤ tightness .mul := by
          cases op <;> first | decide | exact absurd rfl hpow
        rw [hbase]
        simp [step, reduce, Frame.precedes, Frame.apply, htight, asRead, numberAsRead, hneg]
  | _ => rfl

/-- A parenthesis that closes an operation gives it to what waits in front of it. -/
theorem step_closing (s : List Frame) (left : Expr) (op : Operator) (right : Expr) (m : Modifiers) :
    step (behindExpr (behindLeft s left op) right) .closing =
      some (.operator s (asRead (.binary left op right m))) := by
  obtain ⟨s', t, hbehind, hends⟩ := behindExpr_ends (behindLeft s left op) right
  rw [hbehind, step, hends, behindLeft, asRead]
  cases negativeBase? left op with
  | none => rfl
  | some x => rfl

/-- **The machine reads an expression**, whatever waits for it on the stack. -/
theorem run_tokens {e : Expr} (h : isArithmetic e = true) (s : List Frame) :
    (tokensOf e).foldlM step (.operand s) = some (behindExpr s e) := by
  induction e using Expr.induct generalizing s with
  | scalar v =>
    simp only [tokensOf, numberTokens, behindExpr]
    cases isNegative v.value with
    | false => rfl
    | true => rfl
  | binary left op right m ihl ihr =>
    simp only [isArithmetic, Bool.and_eq_true] at h
    obtain ⟨⟨⟨hop, -⟩, hleft⟩, hright⟩ := h
    have hopen : step (.operand s) .opening = some (.operand (.paren :: s)) := rfl
    simp only [tokensOf, List.foldlM_cons, List.foldlM_append, List.foldlM_nil, hopen,
      Option.bind_eq_bind, Option.bind_some, ihl hleft, step_operator hop, ihr hright,
      step_closing s left op right m]
    rfl
  | _ => cases h

/-- **Every arithmetic expression is read from its text.** -/
theorem read_render {e : Expr} (h : isArithmetic e = true) : read e.render = some (asRead e) := by
  have hlex : lex [] e.render.toList = some (tokensOf e) := by
    have htokens := lex_render h (stops_nil _)
    rw [List.append_nil] at htokens
    rw [htokens]
    simp [lex, numberOf?]
  obtain ⟨s', t, hbehind, hends⟩ := behindExpr_ends [] e
  rw [read, hlex]
  simp only [Option.bind_eq_bind, Option.bind_some, run_tokens h, hbehind, finish, hends]
  rfl

/-! ### The tree that is read -/

theorem unsigned_of_isNegative {x : Binary64} (hfinite : x.isFinite = true)
    (h : isNegative x = true) : (unsigned x).neg = x := by
  cases x with
  | nan => cases hfinite
  | infinite negative => cases hfinite
  | finite negative mantissa exponent =>
    obtain ⟨rfl, -⟩ := Bool.and_eq_true_iff.1 h
    rfl

theorem unsigned_of_not_isNegative {x : Binary64} (hfinite : x.isFinite = true)
    (h : isNegative x = false) : unsigned x = x ∨ (unsigned x).isZero = true ∧ x.isZero = true := by
  cases x with
  | nan => cases hfinite
  | infinite negative => cases hfinite
  | finite negative mantissa exponent =>
    obtain rfl | hzero := Bool.and_eq_false_iff.1 h
    · exact .inl rfl
    · obtain rfl : mantissa = 0 := by simpa using hzero
      exact .inr ⟨rfl, rfl⟩

/-- Numbers of the same value are equal to the same numbers. -/
theorem equal_congr {x y : Binary64} (h : x = y ∨ x.isZero = true ∧ y.isZero = true)
    (hx : x ≠ .nan) (hy : y ≠ .nan) {s : Scalar} (hs : s.value = y) :
    (Scalar.float x).equal s = (Scalar.float y).equal s := by
  cases s with
  | int n =>
    rw [Bool.eq_iff_iff]
    simp only [Scalar.equal, beq_iff_eq]
    exact ⟨Binary64.compareInt_of_same h n, Binary64.compareInt_of_same (h.imp Eq.symm And.symm) n⟩
  | float z =>
    obtain rfl : z = y := hs
    exact (Binary64.equal_of_same hx h).trans (Binary64.equal_of_same hy (.inl rfl)).symm

/-- A number is read back by its floating-point value. -/
theorem standsFor_number {s : Scalar} (h : isFiniteScalar s = true) :
    standsFor (numberAsRead s.value) (.scalar s) = (Scalar.float s.value).equal s := by
  obtain ⟨hfinite, -⟩ := value_of_isFiniteScalar h
  rw [numberAsRead]
  cases hneg : isNegative s.value with
  | true =>
    simp only [if_true, standsFor]
    rw [unsigned_of_isNegative hfinite hneg]
  | false =>
    have hnan : ∀ {x : Binary64}, x.isFinite = true → x ≠ .nan := by
      rintro _ hx rfl
      cases hx
    have hunsigned : (unsigned s.value).isFinite = true := by
      cases hs : s.value with
      | finite => rfl
      | _ =>
        rw [hs] at hfinite
        cases hfinite
    simp only [Bool.false_eq_true, if_false, standsFor]
    exact equal_congr (unsigned_of_not_isNegative hfinite hneg) (hnan hunsigned) (hnan hfinite) rfl

/-- The term that is read stands for the expression just if its numbers are equal to their values
and none less than zero is raised to a power. -/
theorem standsFor_asRead {e : Expr} (h : isArithmetic e = true) :
    standsFor (asRead e) e = (isExactTree e && !hasNegativeBase e) := by
  induction e using Expr.induct with
  | scalar s =>
    rw [asRead, standsFor_number h]
    simp [isExactTree, hasNegativeBase]
  | binary left op right m ihl ihr =>
    simp only [isArithmetic, Bool.and_eq_true] at h
    obtain ⟨⟨-, hleft⟩, hright⟩ := h
    rw [asRead, isExactTree, hasNegativeBase]
    cases negativeBase? left op with
    | some x => simp [standsFor]
    | none =>
      simp only [standsFor, ihl hleft, ihr hright, beq_self_eq_true, Option.isSome_none]
      cases isExactTree left <;> cases isExactTree right <;> cases hasNegativeBase left <;>
        cases hasNegativeBase right <;> rfl
  | _ => cases h

/-- **Reading arithmetic.** Every expression made of finite numbers and arithmetic operations is read
from its text, and what is read is the tree of the expression just if no number less than zero is
raised to a power. (Integers are written by their floating-point values, so that one that is not
equal to its value is not read back either.) -/
theorem arithmetic_readsBack {e : Expr} (h : isArithmetic e = true) :
    ∃ t, read e.render = some t ∧
      (standsFor t e = true ↔ isExactTree e = true ∧ hasNegativeBase e = false) := by
  refine ⟨asRead e, read_render h, ?_⟩
  rw [standsFor_asRead h]
  simp

/-- Of a number less than zero on each side of an operator, as an exponent, and in front of
another operator. -/
theorem arithmetic_readsBack_signs :
    ∃ t, read (Expr.binary (.binary (.scalar (.int (-2))) .mul (.scalar (.int (-3))) {}) .pow
        (.scalar (.int (-1))) {}).render = some t ∧
      standsFor t (Expr.binary (.binary (.scalar (.int (-2))) .mul (.scalar (.int (-3))) {}) .pow
        (.scalar (.int (-1))) {}) = true := by
  obtain ⟨t, hread, hsame⟩ := arithmetic_readsBack
    (e := .binary (.binary (.scalar (.int (-2))) .mul (.scalar (.int (-3))) {}) .pow
      (.scalar (.int (-1))) {}) (by decide +kernel)
  exact ⟨t, hread, hsame.2 ⟨by decide +kernel, by decide +kernel⟩⟩

/-- The square of a number less than zero is read as a square with a sign. -/
theorem negativeBase_regrouped :
    (Expr.binary (.scalar (.int (-2))) .pow (.scalar (.int 2)) {}).render = "(-2 ^ 2)" ∧
      read "(-2 ^ 2)" = some (.signed true
        (.operation (.number (.ofInt 2)) .pow (.number (.ofInt 2)))) ∧
      read "((-2) ^ 2)" = some (.operation (.signed true (.number (.ofInt 2))) .pow
        (.number (.ofInt 2))) ∧
      standsFor (.signed true (.operation (.number (.ofInt 2)) .pow (.number (.ofInt 2))))
        (.binary (.scalar (.int (-2))) .pow (.scalar (.int 2)) {}) = false := by
  decide +kernel

end Promql.Arithmetic

end MonitoringConfig
