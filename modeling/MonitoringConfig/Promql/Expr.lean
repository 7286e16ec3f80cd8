import MonitoringConfig.Duration
import MonitoringConfig.Failure
import MonitoringConfig.Matcher
import MonitoringConfig.Promql.Operator
import MonitoringConfig.Promql.Scalar
/-!
# Expressions

The expressions of the query language, as trees.

* `Modifiers.fault?` says which modifiers of a binary operation exclude each other;
  `Expr.binary?` and `Expr.aggregation?` build nodes only of modifiers that agree.
* `Expr.equal` is equality of trees, numbers being equal by value.
-/

namespace MonitoringConfig.Promql

/-- How the two sides of a binary operation are matched: on which labels, ignoring which, with
many series on which side, and whether a comparison gives a number. -/
structure Modifiers where
  on : List String := []
  ignoring : List String := []
  groupLeft : Option (List String) := none
  groupRight : Option (List String) := none
  returnBool : Bool := false
  deriving DecidableEq, Repr, Inhabited

/-- The kinds of expression node. -/
inductive NodeKind where
  | raw | scalar | vector | range | call | string | aggregation | binary
  deriving DecidableEq, Repr

/-- An expression of the query language. -/
inductive Expr where
  /-- Text that is taken as it is. -/
  | raw (text : String)
  /-- A number. -/
  | scalar (value : Scalar)
  /-- The series that a metric name and matchers select, at an offset into the past. -/
  | vector (metric : String) (matchers : List Matcher) (offset : Option Duration)
  /-- The samples of selected series over a window of time. -/
  | range (metric : String) (window : Duration) (matchers : List Matcher)
      (offset : Option Duration)
  /-- A function applied to arguments. -/
  | call (name : String) (args : List Expr)
  /-- A text in quotes. -/
  | string (value : String)
  /-- An aggregation of series, by labels or without labels, after a leading argument. -/
  | aggregation (op : String) (body : Expr) (byLabels withoutLabels : List String)
      (param : Option Expr)
  /-- A binary operation. -/
  | binary (left : Expr) (op : Operator) (right : Expr) (modifiers : Modifiers)
  /-- A node with a part that has no text, for the given reason. -/
  | unwritable (kind : NodeKind) (cause : Category)
  deriving Repr, Inhabited

namespace Expr

/-- The kind of a node. -/
def kind : Expr → NodeKind
  | raw _ => .raw
  | scalar _ => .scalar
  | vector .. => .vector
  | range .. => .range
  | call .. => .call
  | string _ => .string
  | aggregation .. => .aggregation
  | binary .. => .binary
  | unwritable kind _ => kind

mutual

/-- Equality of trees, numbers being compared by value. -/
def equal : Expr → Expr → Bool
  | raw a, raw b => a == b
  | scalar a, scalar b => a.equal b
  | vector m ms o, vector m' ms' o' => m == m' && ms == ms' && o == o'
  | range m w ms o, range m' w' ms' o' => m == m' && w == w' && ms == ms' && o == o'
  | call n args, call n' args' => n == n' && equalList args args'
  | string a, string b => a == b
  | aggregation op e b w p, aggregation op' e' b' w' p' =>
    op == op' && equal e e' && b == b' && w == w' && equalOption p p'
  | binary l op r m, binary l' op' r' m' => equal l l' && op == op' && equal r r' && m == m'
  | _, _ => false

/-- Equality of lists of trees. -/
def equalList : List Expr → List Expr → Bool
  | [], [] => true
  | a :: as, b :: bs => equal a b && equalList as bs
  | _, _ => false

/-- Equality of trees that may be missing. -/
def equalOption : Option Expr → Option Expr → Bool
  | none, none => true
  | some a, some b => equal a b
  | _, _ => false

end

end Expr

/-! ### Nodes whose modifiers agree -/

/-- The first rule that the modifiers of an operation break. -/
def Modifiers.fault? (m : Modifiers) (op : Operator) : Option Failure :=
  if !m.on.isEmpty && !m.ignoring.isEmpty then some .bothLabelLists
  else if m.groupLeft.isSome && m.groupRight.isSome then some .bothGroupings
  else if (m.groupLeft.isSome || m.groupRight.isSome) && m.on.isEmpty && m.ignoring.isEmpty then
    some .groupingWithoutLabels
  else if m.returnBool && !op.isComparison then
    some (.boolWithoutComparison (Text.quoted op.symbol))
  else none

namespace Expr

/-- A binary operation, unless its modifiers exclude each other. -/
def binary? (left : Expr) (op : Operator) (right : Expr) (m : Modifiers) : Except Failure Expr :=
  match m.fault? op with
  | some f => .error f
  | none => .ok (binary left op right m)

/-- An aggregation, unless it is both by labels and without labels. -/
def aggregation? (op : String) (body : Expr) (byLabels withoutLabels : List String)
    (param : Option Expr) : Except Failure Expr :=
  if !byLabels.isEmpty && !withoutLabels.isEmpty then .error (.bothAggregationLists op)
  else .ok (aggregation op body byLabels withoutLabels param)

/-! ### Changed copies -/

/-- A copy that selects by further matchers. -/
def withMatchers (extra : List Matcher) : Expr → Expr
  | vector metric matchers offset => vector metric (matchers ++ extra) offset
  | e => e

/-- A copy at another offset. -/
def atOffset (offset : Option Duration) : Expr → Expr
  | vector metric matchers _ => vector metric matchers offset
  | e => e

/-- The samples of a selection over a window. -/
def overWindow (window : Duration) : Expr → Expr
  | vector metric matchers offset => range metric window matchers offset
  | e => e

/-- The aggregation by other labels. -/
def aggregatedBy (labels : List String) : Expr → Expr
  | aggregation op body _ _ param => aggregation op body labels [] param
  | e => e

/-- The aggregation without other labels. -/
def aggregatedWithout (labels : List String) : Expr → Expr
  | aggregation op body _ _ param => aggregation op body [] labels param
  | e => e

/-- The operation with changed modifiers, unless these exclude each other. -/
def withModifiers? (change : Modifiers → Modifiers) : Expr → Except Failure Expr
  | binary left op right m => binary? left op right (change m)
  | e => .ok e

/-- Matched on the given labels alone. -/
def onLabels? (labels : List String) : Expr → Except Failure Expr :=
  withModifiers? fun m => { m with on := labels, ignoring := [] }

/-- Matched on all but the given labels. -/
def ignoringLabels? (labels : List String) : Expr → Except Failure Expr :=
  withModifiers? fun m => { m with ignoring := labels, on := [] }

/-- With many series on the left for one on the right. -/
def groupedLeft? (labels : List String) : Expr → Except Failure Expr :=
  withModifiers? fun m => { m with groupLeft := some labels, groupRight := none }

/-- With many series on the right for one on the left. -/
def groupedRight? (labels : List String) : Expr → Except Failure Expr :=
  withModifiers? fun m => { m with groupRight := some labels, groupLeft := none }

/-- A comparison that gives a number. -/
def asBool? : Expr → Except Failure Expr :=
  withModifiers? fun m => { m with returnBool := true }

end Expr

end MonitoringConfig.Promql
