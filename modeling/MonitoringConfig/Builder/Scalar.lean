import MonitoringConfig.Builder.Arguments
import MonitoringConfig.Text.Integer
/-!
# Builders of scalars

Builders of durations, secrets and matchers, of members of choices, and of errors to be looked at.
-/

namespace MonitoringConfig

/-! ### Durations -/

namespace Promql.Scalar

/-- A number taken a positive whole number of times. -/
def times (count : Nat) : Scalar → Scalar
  | int n => .int (n * count)
  | float (.infinite negative) => .float (.infinite negative)
  | float x => .float (x.mul (.ofInt count))

/-- The sum of two numbers, as an integer where both are. -/
def plus : Scalar → Scalar → Scalar
  | int a, int b => .int (a + b)
  | a, b =>
    match a.value, b.value with
    | .infinite s, .infinite t => .float (if s == t then .infinite s else .nan)
    | .infinite s, .finite .. => .float (.infinite s)
    | .finite .., .infinite t => .float (.infinite t)
    | x, y => .float (x.add y)

/-- The whole part of a number. -/
def truncated : Scalar → Except Failure Int
  | int n => .ok n
  | float .nan => .error (.plain .badValue)
  | float (.infinite _) => .error (.plain .tooLarge)
  | float x =>
    match x.ratio? with
    | some (a, b) => .ok (a.tdiv b)
    | none => .error (.plain .badValue)

end Promql.Scalar

/-- The whole number that a value is made into: numbers lose their fraction, and texts are read. -/
def Value.toWhole (v : Value) : Except Failure Int :=
  match v.asText? with
  | some s =>
    match Text.integer? s.toList with
    | some n => .ok n
    | none => .error (.plain .badValue)
  | none =>
    match v.asScalar? with
    | some s => s.truncated
    | none => .error (.plain .wrongType)

namespace Duration

/-- The length of the units that a duration is put together of, by name. -/
def units : List (String × Nat) :=
  [("days", TimeUnit.day.size), ("hours", TimeUnit.hour.size), ("minutes", TimeUnit.minute.size),
    ("seconds", TimeUnit.second.size), ("milliseconds", TimeUnit.millisecond.size)]

/-- The duration of given numbers of units. -/
def ofUnits (a : Arguments) : Except Failure Duration := do
  let parts ← units.mapM fun (name, size) =>
    match (a.get name).asScalar? with
    | some s => .ok (s.times size)
    | none => .error (.plain .wrongType)
  match parts with
  | [] => return zero
  | p :: ps => return ⟨← (ps.foldl Promql.Scalar.plus p).truncated⟩

/-- The duration of a time span. -/
def ofSpan (v : Value) : Except Failure Duration :=
  match v with
  | .timeSpan t => .ok (ofTimeSpan t)
  | _ => .error (.plain .noSuchMember)

/-- Builders of durations. -/
def builders : List (String × Builder) := [
  ("Duration", .of [] [("nanoseconds", .int 0)] fun a => do
    return .duration ⟨← (a.get "nanoseconds").toWhole⟩),
  ("Duration.of",
    { signature := { keywordOnly := Signature.optional (units.map fun (name, _) => (name, .int 0)) }
      build := fun a => .ofExcept ((ofUnits a).map .duration) }),
  ("Duration.parse", .of ["text"] [] fun a => (parseValue (a.get "text")).map .duration),
  ("parse_duration", .of ["text"] [] fun a => (parseValue (a.get "text")).map .duration),
  ("Duration.coerce", .of ["value"] [] fun a => do
    return ((← coerce (a.get "value")).map Value.duration).getD .null),
  ("Duration.from_timedelta", .of ["delta"] [] fun a => (ofSpan (a.get "delta")).map .duration),
  ("Duration.from_wire", .of ["value"] [("style", .null)] fun a =>
    (ofValue (a.get "value")).map .duration),
  ("format_duration", .of ["duration"] [] fun a =>
    match a.get "duration" with
    | .duration d => .ok (.text d.format)
    | .matcher m => .ok (.text m.format)
    | .text s => .ok (.text s)
    | _ => .error (.plain .noSuchMember))]

end Duration

/-! ### Secrets -/

namespace Secret

/-- Builders of secrets. -/
def builders : List (String × Builder) := [
  ("Secret", .of [] [("value", .text "")] fun a => .ok (.secret ⟨(a.get "value").shown⟩)),
  ("Secret.from_env", .of ["name"] [] fun a =>
    match (a.get "name").asText? with
    | some name => .ok (.secret (ofVariable name))
    | none => .error (.plain .wrongType)),
  ("Secret.from_wire", .of ["value"] [("style", .null)] fun a =>
    .ok (.secret (ofValue (a.get "value"))))]

end Secret

/-! ### Matchers -/

namespace Matcher

/-- The matcher of a name, an operator and a value. -/
def ofParts (name op value : Value) : Except Failure Matcher := do
  return ⟨name.asText?.getD name.shown, ← MatchType.ofValue op, value.asText?.getD value.shown⟩

/-- A builder of matchers with one operator. -/
def withOp (op : MatchType) (value : String) : Builder :=
  .of ["name", value] [] fun a =>
    (ofParts (a.get "name") (.member .matchType op.symbol) (a.get value)).map .matcher

/-- A builder of matchers that compare one label. -/
def onLabel (name : String) : Builder :=
  .of ["value"] [] fun a =>
    (ofParts (.text name) (.member .matchType "=") (a.get "value")).map .matcher

/-- The builder of matchers from all their parts. -/
def full : Builder :=
  .of ["name", "op", "value"] [] fun a =>
    (ofParts (a.get "name") (a.get "op") (a.get "value")).map .matcher

/-- Builders of matchers. -/
def builders : List (String × Builder) := [
  ("Matcher", full),
  ("Matcher.parse", .of ["text"] [] fun a => (parseValue (a.get "text")).map .matcher),
  ("Matcher.from_wire", .of ["value"] [("style", .null)] fun a =>
    (ofValue (a.get "value")).map .matcher),
  ("eq", withOp .equal "value"), ("not_eq", withOp .notEqual "value"),
  ("regex", withOp .regex "pattern"), ("not_regex", withOp .notRegex "pattern"),
  ("severity", onLabel "severity"), ("team", onLabel "team"), ("service", onLabel "service"),
  ("environment", onLabel "environment"), ("alertname", onLabel "alertname")]

end Matcher

/-! ### Members of choices -/

/-- The builder of the members of a choice. -/
def Choice.builder (c : Choice) : Builder :=
  .of ["value"] [] fun a => c.memberOf (a.get "value")

/-! ### Errors -/

namespace Problem

/-- A builder of errors of a category. -/
def builder (c : Category) : Builder :=
  .of ["message"] [("details", .null)] fun a =>
    let details := a.get "details"
    .ok (.error c (a.get "message") (if details.isTruthy then details else .map []))

/-- The message of an error with its details. -/
def formatted (v : Value) : Except Failure Value :=
  match v with
  | .error _ message details =>
    if !details.isTruthy then .ok message
    else match details with
      | .map entries => .ok (.text (Failure.withDetails message.shown
          (entries.map fun (k, w) => (k.shown, w.shown))))
      | _ => .error (.plain .noSuchMember)
  | _ => .error (.plain .noSuchMember)

/-- Builders of errors. -/
def builders : List (String × Builder) :=
  [Category.library, .validation, .malformedDuration, .malformedMatcher, .serialization,
    .fileWrite].map (fun c => (c.name, builder c))
  ++ [("format_error_message", .of ["error"] [] fun a => formatted (a.get "error"))]

end Problem

end MonitoringConfig
