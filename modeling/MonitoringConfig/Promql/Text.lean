import MonitoringConfig.Promql.Expr
/-!
# The text of expressions

* `Expr.render` writes an expression. Every binary operation stands in parentheses, so the text
  does not depend on which operators bind tighter.
* `Expr.written?` is that text, unless some part of the expression has none.
-/

namespace MonitoringConfig.Promql

/-- A list of labels in parentheses. -/
def labelsText (labels : List String) : String :=
  "(" ++ ",".intercalate labels ++ ")"

/-- A metric name and its matchers. -/
def selectorText (metric : String) (matchers : List Matcher) : String :=
  if matchers.isEmpty then metric
  else metric ++ "\x7b" ++ ",".intercalate (matchers.map Matcher.format) ++ "\x7d"

/-- An offset into the past, behind a selection. -/
def offsetText : Option Duration → String
  | none => ""
  | some offset => " offset " ++ offset.format

/-- A text as it stands between double quotes: backslashes and quotes are escaped. -/
def escapeString : List Char → List Char
  | [] => []
  | '\\' :: cs => '\\' :: '\\' :: escapeString cs
  | '"' :: cs => '\\' :: '"' :: escapeString cs
  | c :: cs => c :: escapeString cs

/-- A text in double quotes. -/
def stringText (value : String) : String :=
  String.ofList ('"' :: escapeString value.toList ++ ['"'])

/-- What stands between the name of an aggregation and its parenthesis. -/
def aggregationModifier (byLabels withoutLabels : List String) : String :=
  if !byLabels.isEmpty then " by " ++ labelsText byLabels ++ " "
  else if !withoutLabels.isEmpty then " without " ++ labelsText withoutLabels ++ " "
  else ""

/-- The words of a grouping: the keyword, and the labels it takes over if there are any. -/
def groupingText (keyword : String) (labels : List String) : String :=
  if labels.isEmpty then keyword else keyword ++ " " ++ labelsText labels

/-- The words behind an operator, one for each modifier that is set. -/
def Modifiers.words (m : Modifiers) : List String :=
  (if m.returnBool then ["bool"] else [])
    ++ (if !m.on.isEmpty then ["on " ++ labelsText m.on]
        else if !m.ignoring.isEmpty then ["ignoring " ++ labelsText m.ignoring] else [])
    ++ (match m.groupLeft, m.groupRight with
        | some labels, _ => [groupingText "group_left" labels]
        | none, some labels => [groupingText "group_right" labels]
        | none, none => [])

namespace Expr

mutual

/-- The text of an expression. -/
def render : Expr → String
  | raw text => text
  | scalar value => value.text
  | vector metric matchers offset => selectorText metric matchers ++ offsetText offset
  | range metric window matchers offset =>
    selectorText metric matchers ++ "[" ++ window.format ++ "]" ++ offsetText offset
  | call name args => name ++ "(" ++ ",".intercalate (renderList args) ++ ")"
  | string value => stringText value
  | aggregation op body byLabels withoutLabels param =>
    op ++ aggregationModifier byLabels withoutLabels ++ "(" ++ renderParam param
      ++ render body ++ ")"
  | binary left op right modifiers =>
    "(" ++ render left ++ " " ++ " ".intercalate (op.symbol :: modifiers.words) ++ " "
      ++ render right ++ ")"
  | unwritable .. => ""

/-- The texts of expressions. -/
def renderList : List Expr → List String
  | [] => []
  | e :: es => render e :: renderList es

/-- The leading argument of an aggregation, with the comma behind it. -/
def renderParam : Option Expr → String
  | none => ""
  | some e => render e ++ ","

end

mutual

/-- The first reason, in the order in which the text is put together, why an expression has no
text. -/
def fault? : Expr → Option Category
  | scalar value => if value.isRepresentable then none else some .tooLarge
  | call _ args => faultList? args
  | aggregation _ body _ _ param => fault? body <|> faultParam? param
  | binary left _ right _ => fault? left <|> fault? right
  | unwritable _ cause => some cause
  | _ => none

/-- The first reason why one of several expressions has no text. -/
def faultList? : List Expr → Option Category
  | [] => none
  | e :: es => fault? e <|> faultList? es

/-- The reason why a leading argument has no text. -/
def faultParam? : Option Expr → Option Category
  | none => none
  | some e => fault? e

end

/-- The text of an expression, or the reason why it has none. -/
def written? (e : Expr) : Except Failure String :=
  match e.fault? with
  | some cause => .error (.plain cause)
  | none => .ok e.render

end Expr

end MonitoringConfig.Promql
