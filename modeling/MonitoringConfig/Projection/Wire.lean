import MonitoringConfig.Value.Order
/-!
# Scalars in plain data

How durations, secrets, matchers and members of choices are made from plain data.
-/

namespace MonitoringConfig

/-- Reads the text of a duration. -/
def Duration.read (text : String) : Except Failure Duration :=
  match Duration.parse? text with
  | .ok d => .ok d
  | .error .empty => .error (.emptyDuration text)
  | .error (.malformed position) => .error (.malformedDuration text position)

/-- The duration that a value is as plain data. -/
def Duration.ofValue (v : Value) : Except Failure Duration :=
  match v with
  | .duration d => .ok d
  | v => Duration.read v.shown

/-- Reads a duration from a text; other values are none. -/
def Duration.parseValue (v : Value) : Except Failure Duration :=
  match v.asText? with
  | some s => Duration.read s
  | none => .error (.durationNotText v.quoted)

/-- The duration that a caller means: a duration, a time span or a text; nothing stays nothing. -/
def Duration.coerce (v : Value) : Except Failure (Option Duration) :=
  match v with
  | .null => .ok none
  | .duration d => .ok (some d)
  | .timeSpan t => .ok (some (.ofTimeSpan t))
  | v => (Duration.parseValue v).map some

/-- The secret that a value is as plain data. -/
def Secret.ofValue (v : Value) : Secret :=
  match v with
  | .secret s => s
  | v => ⟨v.shown⟩

/-- The member of a choice that a value is. -/
def Choice.memberOf (c : Choice) (v : Value) : Except Failure Value :=
  match v.asText? with
  | some s => if c.holds s then .ok (.member c s) else .error (.notAMember v.quoted c.name)
  | none => .error (.notAMember v.quoted c.name)

/-- The operator of a matcher that a value is. -/
def MatchType.ofValue (v : Value) : Except Failure MatchType :=
  match v.asText?.bind MatchType.ofSymbol? with
  | some op => .ok op
  | none => .error (.notAMember v.quoted Choice.matchType.name)

/-- Reads a matcher from a text; other values are none. -/
def Matcher.parseValue (v : Value) : Except Failure Matcher :=
  match v.asText?.bind Matcher.parse? with
  | some m => .ok m
  | none => .error (.malformedMatcher v.quoted)

/-- The matcher of a mapping with a name, a value and an operator. Without an operator it is told
by a mark whether the value is a pattern. -/
def Matcher.ofEntries (entries : List (Value × Value)) : Except Failure Matcher := do
  let given (key : String) := (Value.lookup? (.text key) entries).getD .null
  let some name := Value.lookup? (.text "name") entries | .error (.plain .missingKey)
  let op := given "matchType"
  let op ← if op.isTruthy then MatchType.ofValue op
    else pure (if (given "regex").isTruthy then .regex else .equal)
  let value := (Value.lookup? (.text "value") entries).getD (.text "")
  return ⟨name.shown, op, value.shown⟩

/-- The matcher that a value is as plain data. -/
def Matcher.ofValue (v : Value) : Except Failure Matcher :=
  match v with
  | .matcher m => .ok m
  | .map entries => Matcher.ofEntries entries
  | v => Matcher.parseValue (.text v.shown)

/-- A matcher as plain data: a mapping in the camel style, a text otherwise. -/
def Matcher.toPlain (m : Matcher) (style : Style) : Value :=
  match style with
  | .snake => .text m.format
  | .camel => .record [("name", .text m.name), ("value", .text m.value),
      ("matchType", .text m.op.symbol)]

end MonitoringConfig
