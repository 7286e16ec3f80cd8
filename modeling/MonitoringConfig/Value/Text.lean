import MonitoringConfig.Promql.Text
import MonitoringConfig.Schema
/-!
# The texts of values

* `Value.typeName` is what the type of a value is called in messages.
* `Value.quoted` shows a value so that its type can be told: texts stand in quotes.
* `Value.shown` is the text that a value becomes where a text is wanted.
-/

namespace MonitoringConfig

/-- The name of a kind of expression node. -/
def Promql.NodeKind.name : Promql.NodeKind → String
  | .raw => "Raw"
  | .scalar => "Scalar"
  | .vector => "Vector"
  | .range => "RangeVector"
  | .call => "FunctionCall"
  | .string => "StringLiteral"
  | .aggregation => "Aggregation"
  | .binary => "BinaryOp"

/-- The name of a category of failures of the library. -/
def Category.name : Category → String
  | .library => "PromsynthError"
  | .validation => "ValidationError"
  | .malformedDuration => "MalformedDurationError"
  | .malformedMatcher => "MalformedMatcherError"
  | .serialization => "SerializationError"
  | .fileWrite => "FileWriteError"
  | _ => "Exception"

/-- Parts with a text between them, inside brackets. -/
def bracketed (opening closing : String) (parts : List String) : String :=
  opening ++ ", ".intercalate parts ++ closing

/-- Parts in parentheses; a part that stands alone has a comma behind it. -/
def tupleText (parts : List String) : String :=
  match parts with
  | [one] => "(" ++ one ++ ",)"
  | parts => bracketed "(" ")" parts

/-- Named parts behind the name of what they are parts of. -/
def constructorText (name : String) (parts : List (String × String)) : String :=
  name ++ bracketed "(" ")" (parts.map fun (k, v) => k ++ "=" ++ v)

/-- A truth value in texts. -/
def boolText (b : Bool) : String :=
  if b then "True" else "False"

namespace Duration

/-- How a duration is shown among other values. -/
def quoted (d : Duration) : String :=
  "Duration(" ++ Text.quoted d.format ++ ")"

end Duration

namespace Choice

/-- How a member of a choice is shown among other values. -/
def quotedMember (c : Choice) (text : String) : String :=
  "<" ++ c.name ++ "." ++ c.label text ++ ": " ++ Text.quoted text ++ ">"

end Choice

/-- How a matcher is shown among other values. -/
def Matcher.quoted (m : Matcher) : String :=
  constructorText "Matcher" [("name", Text.quoted m.name),
    ("op", Choice.quotedMember .matchType m.op.symbol), ("value", Text.quoted m.value)]

/-- How a time span is shown among other values. -/
def TimeSpan.quoted (t : TimeSpan) : String :=
  let parts := [("days", t.days), ("seconds", t.seconds), ("microseconds", t.fraction)].filterMap
    fun (k, n) => if n == 0 then none else some (k, intText n)
  if parts.isEmpty then "datetime.timedelta(0)" else constructorText "datetime.timedelta" parts

/-- How numbers of a call are listed. -/
def numbersText (ns : List Nat) : List String :=
  ns.map fun n => String.ofList (digitsText n)

/-- How a moment is shown among other values. -/
def Moment.quoted (m : Moment) : String :=
  let small := if m.micro != 0 then [m.second, m.micro]
    else if m.second != 0 then [m.second] else []
  let zone := match m.offset with
    | none => []
    | some 0 => ["tzinfo=datetime.timezone.utc"]
    | some n =>
      ["tzinfo=datetime.timezone(" ++ TimeSpan.quoted (.of 0 n 0) ++ ")"]
  bracketed "datetime.datetime(" ")"
    (numbersText ([m.date.year, m.date.month, m.date.day, m.hour, m.minute] ++ small) ++ zone)

/-- A byte as it is shown between quotes. -/
def quotedByte (quote : Char) (b : UInt8) : List Char :=
  let c := Char.ofNat b.toNat
  if c == quote || c == '\\' then ['\\', c]
  else if c == '\n' then ['\\', 'n']
  else if c == '\r' then ['\\', 'r']
  else if c == '\t' then ['\\', 't']
  else if 32 ≤ b.toNat && b.toNat < 127 then [c]
  else '\\' :: 'x' :: Text.hexPadded 2 b.toNat

/-- How bytes are shown among other values. -/
def quotedBytes (data : List UInt8) : String :=
  let quote := Text.quoteFor (data.map fun b => Char.ofNat b.toNat)
  String.ofList ('b' :: quote :: data.flatMap (quotedByte quote) ++ [quote])

namespace Promql

/-- How an optional duration is shown among other values. -/
def quotedOffset : Option Duration → String
  | none => "None"
  | some d => d.quoted

/-- How labels are shown among other values. -/
def quotedLabels (labels : List String) : String :=
  tupleText (labels.map Text.quoted)

/-- How optional labels are shown among other values. -/
def quotedGroup : Option (List String) → String
  | none => "None"
  | some labels => quotedLabels labels

mutual

/-- How an expression is shown among other values. -/
def Expr.quoted : Expr → String
  | .raw text => constructorText "Raw" [("text", Text.quoted text)]
  | .scalar (.int n) => constructorText "Scalar" [("value", intText n)]
  | .scalar (.float x) => constructorText "Scalar" [("value", x.text)]
  | .vector metric matchers offset =>
    constructorText "Vector" [("metric", Text.quoted metric),
      ("matchers", tupleText (matchers.map Matcher.quoted)), ("offset", quotedOffset offset)]
  | .range metric window matchers offset =>
    constructorText "RangeVector" [("metric", Text.quoted metric), ("window", window.quoted),
      ("matchers", tupleText (matchers.map Matcher.quoted)), ("offset", quotedOffset offset)]
  | .call name args =>
    constructorText "FunctionCall" [("name", Text.quoted name),
      ("args", tupleText (Expr.quotedList args))]
  | .string value => constructorText "StringLiteral" [("value", Text.quoted value)]
  | .aggregation op body byLabels withoutLabels param =>
    constructorText "Aggregation" [("op", Text.quoted op), ("expr", body.quoted),
      ("by_labels", quotedLabels byLabels), ("without_labels", quotedLabels withoutLabels),
      ("param", Expr.quotedOption param)]
  | .binary left op right m =>
    constructorText "BinaryOp" [("left", left.quoted), ("op", Text.quoted op.symbol),
      ("right", right.quoted), ("on", quotedLabels m.on), ("ignoring", quotedLabels m.ignoring),
      ("group_left", quotedGroup m.groupLeft), ("group_right", quotedGroup m.groupRight),
      ("return_bool", boolText m.returnBool)]
  | .unwritable kind _ => kind.name ++ "(…)"

/-- How expressions are shown among other values. -/
def Expr.quotedList : List Expr → List String
  | [] => []
  | e :: es => e.quoted :: Expr.quotedList es

/-- How an optional expression is shown among other values. -/
def Expr.quotedOption : Option Expr → String
  | none => "None"
  | some e => e.quoted

end

end Promql

namespace Value

/-- What the type of a value is called. -/
def typeName : Value → String
  | null => "NoneType"
  | bool _ => "bool"
  | int _ => "int"
  | float _ => "float"
  | text _ => "str"
  | list _ => "list"
  | tuple _ => "tuple"
  | map _ => "dict"
  | set _ => "set"
  | duration _ => "Duration"
  | timeSpan _ => "timedelta"
  | secret _ => "Secret"
  | matcher _ => "Matcher"
  | member c _ => c.name
  | expr e => e.kind.name
  | entity kind _ => kind.name
  | date .. => "date"
  | moment .. => "datetime"
  | bytes _ => "bytes"
  | error c _ _ => c.name
  | enclosing => "dict"

/-- A text for a value without parts. -/
def quotedLeaf : Value → String
  | null => "None"
  | bool b => boolText b
  | int n => intText n
  | float x => x.text
  | text s => Text.quoted s
  | duration d => d.quoted
  | timeSpan t => t.quoted
  | secret s => s.shown
  | matcher m => m.quoted
  | member c s => c.quotedMember s
  | expr e => e.quoted
  | date d _ => bracketed "datetime.date(" ")" (numbersText [d.year, d.month, d.day])
  | moment m _ => m.quoted
  | bytes data => quotedBytes data
  | enclosing => "\x7b...\x7d"
  | _ => ""

mutual

/-- A value as it is shown inside other values and in messages. -/
def quoted : Value → String
  | list items => bracketed "[" "]" (quotedList items)
  | tuple items => tupleText (quotedList items)
  | map entries => bracketed "\x7b" "\x7d" (quotedEntries entries)
  | set items =>
    if items.isEmpty then "set()" else bracketed "\x7b" "\x7d" (quotedList items)
  | entity kind fields => constructorText kind.name (kind.schema.names.zip (quotedList fields))
  | error c message _ => c.name ++ bracketed "(" ")" [quoted message]
  | v => quotedLeaf v

/-- The texts of several values. -/
def quotedList : List Value → List String
  | [] => []
  | v :: vs => quoted v :: quotedList vs

/-- The texts of entries. -/
def quotedEntries : List (Value × Value) → List String
  | [] => []
  | (k, v) :: rest => (quoted k ++ ": " ++ quoted v) :: quotedEntries rest

end

/-- The text of a value: texts are themselves, durations and expressions are written, secrets are
hidden, and everything else is as it is shown among other values. -/
def shown : Value → String
  | text s => s
  | duration d => d.format
  | timeSpan t => t.text
  | matcher m => m.format
  | member c s => c.name ++ "." ++ c.label s
  | expr e => e.render
  | date d _ => d.text
  | moment m _ => m.text " "
  | error _ message _ => match message with
    | text s => s
    | v => v.quoted
  | v => v.quoted

end Value

end MonitoringConfig
