import MonitoringConfig.Builder.Expr
import MonitoringConfig.Method.Basic
/-!
# Methods of expressions

The parts of expressions, and copies of expressions with other matchers, windows, groupings and
modifiers.
-/

namespace MonitoringConfig.Promql

/-- Labels as a value. -/
def labelsValue (labels : List String) : Value :=
  .tuple (labels.map .text)

/-- Optional labels as a value. -/
def groupValue (labels? : Option (List String)) : Value :=
  (labels?.map labelsValue).getD .null

/-- Matchers as a value. -/
def matchersValue (matchers : List Matcher) : Value :=
  .tuple (matchers.map .matcher)

/-- An optional duration as a value. -/
def offsetValue (offset? : Option Duration) : Value :=
  (offset?.map Value.duration).getD .null

/-- A number as a value. -/
def Scalar.toValue : Scalar → Value
  | .int n => .int n
  | .float x => .float x

namespace Expr

/-- The parts of a node, by name. -/
def parts : Expr → List (String × Value)
  | raw text => [("text", .text text)]
  | scalar value => [("value", value.toValue)]
  | vector metric matchers offset => [("metric", .text metric),
      ("matchers", matchersValue matchers), ("offset", offsetValue offset)]
  | range metric window matchers offset => [("metric", .text metric), ("window", .duration window),
      ("matchers", matchersValue matchers), ("offset", offsetValue offset)]
  | call name args => [("name", .text name), ("args", .tuple (args.map .expr))]
  | string value => [("value", .text value)]
  | aggregation op body byLabels withoutLabels param => [("op", .text op), ("expr", .expr body),
      ("by_labels", labelsValue byLabels), ("without_labels", labelsValue withoutLabels),
      ("param", (param.map Value.expr).getD .null)]
  | binary left op right m => [("left", .expr left), ("op", .text op.symbol),
      ("right", .expr right), ("on", labelsValue m.on), ("ignoring", labelsValue m.ignoring),
      ("group_left", groupValue m.groupLeft), ("group_right", groupValue m.groupRight),
      ("return_bool", .bool m.returnBool)]
  | unwritable .. => []

/-- The copy that labels ask for, if they are all texts. -/
def withLabels (e : Expr) (labels : List Value)
    (change : List String → Expr → Except Failure Expr) :
    Except Failure Expr :=
  match labels.mapM Value.asText? with
  | some texts => change texts e
  | none => .ok (.unwritable e.kind .wrongType)

end Expr

/-! ### Methods by name -/

/-- A method of the expressions of some kinds. -/
def exprMethod (signature : Signature) (f : Expr → Arguments → Except Failure Expr) : Method :=
  .reading signature fun v a =>
    match v with
    | .expr e => (f e a).map .expr
    | _ => .error (.plain .noSuchMember)

/-- A method that takes labels. -/
def labelMethod (change : List String → Expr → Except Failure Expr) : Method :=
  exprMethod Method.any fun e a => e.withLabels a.rest change

/-- A method that takes labels and never fails. -/
def plainLabelMethod (change : List String → Expr → Expr) : Method :=
  labelMethod fun labels e => .ok (change labels e)

/-- The window that a value is. -/
def windowOf (v : Value) : Except Failure Duration := do
  match ← Duration.coerce v with
  | some d => return d
  | none => .error .noWindow

/-- The methods of the nodes of a kind. -/
def nodeMethods : NodeKind → List (String × Method)
  | .vector => [
    ("where", exprMethod Method.any fun e a => do
      return e.withMatchers (← a.rest.mapM Matcher.ofValue)),
    ("at_offset", exprMethod (Method.required ["offset"]) fun e a => do
      return e.atOffset (← Duration.coerce (a.get "offset"))),
    ("over", exprMethod (Method.required ["window"]) fun e a => do
      return e.overWindow (← windowOf (a.get "window"))),
    ("selector", .reading {} fun v _ =>
      match v with
      | .expr (.vector metric matchers _) => .ok (.text (selectorText metric matchers))
      | _ => .error (.plain .noSuchMember))]
  | .aggregation => [("by", plainLabelMethod Expr.aggregatedBy),
    ("without", plainLabelMethod Expr.aggregatedWithout)]
  | .binary => [("on_labels", labelMethod Expr.onLabels?),
    ("ignoring_labels", labelMethod Expr.ignoringLabels?),
    ("with_group_left", labelMethod Expr.groupedLeft?),
    ("with_group_right", labelMethod Expr.groupedRight?),
    ("as_bool", exprMethod {} fun e _ => e.asBool?)]
  | _ => []

/-- The methods of an expression. -/
def methods (e : Expr) : List (String × Method) :=
  ("render", .reading {} fun _ _ => e.written?.map .text) :: nodeMethods e.kind
    ++ e.parts.map fun (name, v) => (name, .property fun _ => .ok v)

end MonitoringConfig.Promql
