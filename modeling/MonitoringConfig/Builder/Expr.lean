import MonitoringConfig.Builder.Scalar
/-!
# Builders of expressions

Builders for every node of the query language, for its functions and aggregations, and for its
operators. Numbers and texts stand for expressions where one is wanted.
-/

namespace MonitoringConfig.Promql

/-- The expression that a value stands for. -/
def asExpr (v : Value) : Except Failure Expr :=
  match v with
  | .expr e => .ok e
  | .int n =>
    let x := Binary64.ofInt n
    if x.isFinite then .ok (.scalar (.float x)) else .error (.plain .tooLarge)
  | .float x => .ok (.scalar (.float x))
  | .text s | .member _ s => .ok (.raw s)
  | v => .error (.notAnExpression v.typeName)

/-- The labels that the items of a value are, if all are texts. -/
def labelsOf (v : Value) : Except Failure (Option (List String)) := do
  return (← v.items).mapM Value.asText?

/-- The matchers that the items of a value are. -/
def matchersOf (v : Value) : Except Failure (List Matcher) := do
  (← v.items).mapM Matcher.ofValue

/-- A node with a part that has no text. -/
def broken (kind : NodeKind) : Expr := .unwritable kind .wrongType

/-! ### Nodes -/

/-- Text that is taken as it is. -/
def rawOf (text : Value) : Expr :=
  match text.asText? with
  | some s => .raw s
  | none => broken .raw

/-- A number. -/
def scalarOf (value : Value) : Expr :=
  match value.asScalar? with
  | some s => .scalar s
  | none => broken .scalar

/-- A text in quotes. -/
def stringOf (value : Value) : Expr :=
  match value.asText? with
  | some s => .string s
  | none => .unwritable .string .noSuchMember

/-- A selection of series. -/
def vectorOf (metric matchers offset : Value) : Except Failure Expr := do
  let matchers ← matchersOf matchers
  let offset ← Duration.coerce offset
  match metric.asText? with
  | some s => return .vector s matchers offset
  | none => return broken .vector

/-- A selection of samples over a window. -/
def rangeOf (metric window matchers offset : Value) : Except Failure Expr := do
  if window.isNull then .error .noWindow
  let matchers ← matchersOf matchers
  let window ← Duration.coerce window
  let offset ← Duration.coerce offset
  match metric.asText?, matchers with
  | some s, _ => return .range s (window.getD .zero) matchers offset
  | none, [] => return .range metric.shown (window.getD .zero) matchers offset
  | none, _ => return broken .range

/-- A function applied to arguments. -/
def callOf (name : Value) (args : List Value) : Except Failure Expr := do
  return .call (name.asText?.getD name.shown) (← args.mapM asExpr)

/-- An aggregation. -/
def aggregationOf (op body byLabels withoutLabels param : Value) : Except Failure Expr := do
  let name := op.asText?.getD op.shown
  if byLabels.isTruthy && withoutLabels.isTruthy then .error (.bothAggregationLists op.shown)
  let body ← asExpr body
  let byLabels ← labelsOf byLabels
  let withoutLabels ← labelsOf withoutLabels
  let param ← if param.isNull then pure none else (asExpr param).map some
  match byLabels, withoutLabels with
  | some b, some w => Expr.aggregation? name body b w param
  | _, _ => return broken .aggregation

/-- Labels that are only there or not. -/
def anyLabels (v : Value) : List String :=
  if v.isTruthy then [""] else []

/-- The labels of a grouping, unless there is none. -/
def groupOf (v : Value) : Except Failure (Option (Option (List String))) :=
  if v.isNull then .ok (some none) else do return (← labelsOf v).map some

/-- A binary operation. The modifiers are checked before the operands. -/
def binaryOf (left op right on ignoring groupLeft groupRight returnBool : Value) :
    Except Failure Expr := do
  match op with
  | .list _ | .map _ => .error (.plain .wrongType)
  | _ => pure ()
  let some operator := op.asText?.bind Operator.ofSymbol? | .error (.unknownOperator op.quoted)
  let returnBool := returnBool.isTruthy
  let asked : Modifiers :=
    { on := anyLabels on
      ignoring := anyLabels ignoring
      groupLeft := if groupLeft.isNull then none else some []
      groupRight := if groupRight.isNull then none else some []
      returnBool }
  if let some f := asked.fault? operator then .error f
  let left ← asExpr left
  let right ← asExpr right
  let on ← labelsOf on
  let ignoring ← labelsOf ignoring
  let groupLeft ← groupOf groupLeft
  let groupRight ← groupOf groupRight
  match on, ignoring, groupLeft, groupRight with
  | some on, some ignoring, some groupLeft, some groupRight =>
    Expr.binary? left operator right { on, ignoring, groupLeft, groupRight, returnBool }
  | _, _, _, _ => return broken .binary

/-- A binary operation without modifiers. -/
def plainBinary (left op right : Value) : Except Failure Expr :=
  binaryOf left op right (.tuple []) (.tuple []) .null .null (.bool false)

/-- The aggregation by the labels of a value, if there are any. -/
def aggregate (op : String) (body by_ param : Value) : Except Failure Expr := do
  let node ← aggregationOf (.text op) body (.tuple []) (.tuple []) param
  if by_.isTruthy then
    match ← labelsOf by_ with
    | some labels => return node.aggregatedBy labels
    | none => return broken .aggregation
  else return node

/-! ### Builders by name -/

/-- A builder of expressions. -/
def exprBuilder (required : List String) (optional : List (String × Value))
    (build : Arguments → Except Failure Expr) : Builder :=
  .of required optional fun a => (build a).map .expr

/-- A builder for a function of one expression. -/
def unary (name function : String) : String × Builder :=
  (name, exprBuilder ["expr"] [] fun a => callOf (.text function) [a.get "expr"])

/-- A builder for an aggregation. -/
def aggregator (name op : String) : String × Builder :=
  (name, exprBuilder ["expr"] [("by", .tuple [])] fun a =>
    aggregate op (a.get "expr") (a.get "by") .null)

/-- A builder for an aggregation with a leading argument. -/
def aggregatorOf (name op param : String) : String × Builder :=
  (name, exprBuilder [param, "expr"] [("by", .tuple [])] fun a =>
    aggregate op (a.get "expr") (a.get "by") (a.get param))

/-- A builder for a quantile of a histogram. -/
def percentile (name quantile : String) : String × Builder :=
  (name, exprBuilder ["expr"] [] fun a =>
    match Binary64.read? quantile.toList with
    | some x => callOf (.text "histogram_quantile") [.expr (.scalar (.float x)), a.get "expr"]
    | none => .error (.plain .badValue))

/-- A builder for an operator. -/
def operation (name op : String) : String × Builder :=
  (name, exprBuilder ["left", "right"] [] fun a =>
    plainBinary (a.get "left") (.text op) (a.get "right"))

/-- Builders of nodes. -/
def nodeBuilders : List (String × Builder) := [
  ("Raw", exprBuilder ["text"] [] fun a => .ok (rawOf (a.get "text"))),
  ("Scalar", exprBuilder ["value"] [] fun a => .ok (scalarOf (a.get "value"))),
  ("StringLiteral", exprBuilder ["value"] [] fun a => .ok (stringOf (a.get "value"))),
  ("Vector", exprBuilder ["metric"] [("matchers", .tuple []), ("offset", .null)] fun a =>
    vectorOf (a.get "metric") (a.get "matchers") (a.get "offset")),
  ("RangeVector", exprBuilder ["metric", "window"] [("matchers", .tuple []), ("offset", .null)]
    fun a => rangeOf (a.get "metric") (a.get "window") (a.get "matchers") (a.get "offset")),
  ("FunctionCall", exprBuilder ["name"] [("args", .tuple [])] fun a => do
    callOf (a.get "name") (← (a.get "args").items)),
  ("Aggregation", exprBuilder ["op", "expr"]
    [("by_labels", .tuple []), ("without_labels", .tuple []), ("param", .null)] fun a =>
    aggregationOf (a.get "op") (a.get "expr") (a.get "by_labels") (a.get "without_labels")
      (a.get "param")),
  ("BinaryOp", exprBuilder ["left", "op", "right"]
    [("on", .tuple []), ("ignoring", .tuple []), ("group_left", .null), ("group_right", .null),
      ("return_bool", .bool false)] fun a =>
    binaryOf (a.get "left") (a.get "op") (a.get "right") (a.get "on") (a.get "ignoring")
      (a.get "group_left") (a.get "group_right") (a.get "return_bool")),
  ("as_expr", exprBuilder ["value"] [] fun a => asExpr (a.get "value"))]

/-- The text of the number that a value is. -/
def formatValue (v : Value) : Except Failure Value :=
  match v.asScalar? with
  | some s => if s.isRepresentable then .ok (.text s.text) else .error (.plain .tooLarge)
  | none => .error (.plain .wrongType)

/-- Builders of functions. -/
def functionBuilders : List (String × Builder) :=
  [unary "rate" "rate", unary "irate" "irate", unary "increase" "increase", unary "delta" "delta",
    unary "deriv" "deriv", unary "changes" "changes", unary "resets" "resets",
    unary "avg_over_time" "avg_over_time", unary "min_over_time" "min_over_time",
    unary "max_over_time" "max_over_time", unary "sum_over_time" "sum_over_time",
    unary "count_over_time" "count_over_time", unary "abs_" "abs", unary "ceil" "ceil",
    unary "floor" "floor", unary "absent" "absent",
    percentile "p50" "0.5", percentile "p90" "0.9", percentile "p95" "0.95",
    percentile "p99" "0.99"]
  ++ [
  ("call", .withRest ["name"] [] fun a => (callOf (a.get "name") a.rest).map .expr),
  ("quantile_over_time", exprBuilder ["q", "expr"] [] fun a =>
    callOf (.text "quantile_over_time") [a.get "q", a.get "expr"]),
  ("round_", exprBuilder ["expr"] [("to_nearest", .null)] fun a =>
    let nearest := a.get "to_nearest"
    callOf (.text "round") (a.get "expr" :: if nearest.isNull then [] else [nearest])),
  ("clamp", exprBuilder ["expr", "minimum", "maximum"] [] fun a =>
    callOf (.text "clamp") [a.get "expr", a.get "minimum", a.get "maximum"]),
  ("clamp_min", exprBuilder ["expr", "minimum"] [] fun a =>
    callOf (.text "clamp_min") [a.get "expr", a.get "minimum"]),
  ("clamp_max", exprBuilder ["expr", "maximum"] [] fun a =>
    callOf (.text "clamp_max") [a.get "expr", a.get "maximum"]),
  ("label_replace", exprBuilder ["expr", "dst", "replacement", "src", "regex"] [] fun a =>
    callOf (.text "label_replace") (a.get "expr" ::
      ["dst", "replacement", "src", "regex"].map fun name => .expr (stringOf (a.get name)))),
  ("label_join", .withRest ["expr", "dst", "separator"] [] fun a =>
    (callOf (.text "label_join") (a.get "expr" ::
      (a.get "dst" :: a.get "separator" :: a.rest).map fun v => .expr (stringOf v))).map .expr),
  ("vector", exprBuilder ["value"] [] fun a => callOf (.text "vector") [a.get "value"]),
  ("time", exprBuilder [] [] fun _ => callOf (.text "time") []),
  ("histogram_quantile", exprBuilder ["q", "expr"] [] fun a =>
    callOf (.text "histogram_quantile") [.expr (scalarOf (a.get "q")), a.get "expr"]),
  ("format_number", .of ["value"] [] fun a => formatValue (a.get "value"))]

/-- Builders of aggregations. -/
def aggregationBuilders : List (String × Builder) :=
  [aggregator "sum_" "sum", aggregator "avg" "avg", aggregator "min_" "min",
    aggregator "max_" "max", aggregator "count" "count", aggregator "stddev" "stddev",
    aggregator "stdvar" "stdvar", aggregator "group" "group", aggregatorOf "topk" "topk" "k",
    aggregatorOf "bottomk" "bottomk" "k", aggregatorOf "quantile" "quantile" "q",
    ("count_values", exprBuilder ["label", "expr"] [("by", .tuple [])] fun a =>
      aggregate "count_values" (a.get "expr") (a.get "by") (.expr (stringOf (a.get "label"))))]

/-- Builders of operations. -/
def operationBuilders : List (String × Builder) :=
  [operation "add" "+", operation "sub" "-", operation "mul" "*", operation "div" "/",
    operation "mod" "%", operation "pow_" "^", operation "eq" "==", operation "neq" "!=",
    operation "gt" ">", operation "lt" "<", operation "gte" ">=", operation "lte" "<=",
    operation "and_" "and", operation "or_" "or", operation "unless" "unless",
    ("binary", exprBuilder ["left", "op", "right"] [] fun a =>
      plainBinary (a.get "left") (a.get "op") (a.get "right")),
    ("ratio", exprBuilder ["numerator", "denominator"] [] fun a =>
      plainBinary (a.get "numerator") (.text "/") (a.get "denominator")),
    ("percent", exprBuilder ["numerator", "denominator"] [] fun a => do
      let quotient ← plainBinary (a.get "numerator") (.text "/") (a.get "denominator")
      plainBinary (.expr quotient) (.text "*") (.int 100)),
    ("match", Matcher.withOp .equal "value"), ("not_match", Matcher.withOp .notEqual "value"),
    ("match_regex", Matcher.withOp .regex "pattern"),
    ("not_match_regex", Matcher.withOp .notRegex "pattern")]

/-- Builders of expressions. -/
def builders : List (String × Builder) :=
  nodeBuilders ++ functionBuilders ++ aggregationBuilders ++ operationBuilders

end MonitoringConfig.Promql
