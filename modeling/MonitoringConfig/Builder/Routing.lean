import MonitoringConfig.Builder.Scalar
/-!
# Builders for the alert manager

Builders for receivers with one channel, for routes and inhibition by severity, and for the usual
time intervals.
-/

namespace MonitoringConfig.Routing

/-! ### Receivers -/

/-- A receiver with one channel. -/
def receiverWith (name : Value) (channels : String) (channel : Value) : Except Failure Value :=
  Entity.of .receiver [("name", name), (channels, .list [channel])]

/-- Builders of receivers. -/
def receiverBuilders : List (String × Builder) := [
  ("slack_receiver", .of ["name", "channel"] [("api_url", .null), ("send_resolved", .bool true)]
    fun a => do
      let channel ← Entity.of .slackConfig [("channel", a.get "channel"),
        ("api_url", a.get "api_url"), ("send_resolved", a.get "send_resolved")]
      receiverWith (a.get "name") "slack_configs" channel),
  ("pagerduty_receiver", .of ["name", "routing_key"] [("severity", .text "")] fun a => do
    let channel ← Entity.of .pagerDutyConfig [("routing_key", a.get "routing_key"),
      ("severity", a.get "severity")]
    receiverWith (a.get "name") "pagerduty_configs" channel),
  ("email_receiver", .of ["name", "to"] [] fun a => do
    receiverWith (a.get "name") "email_configs" (← Entity.of .emailConfig [("to", a.get "to")])),
  ("webhook_receiver", .of ["name", "url"] [("max_alerts", .null)] fun a => do
    let channel ← Entity.of .webhookConfig [("url", a.get "url"),
      ("max_alerts", a.get "max_alerts")]
    receiverWith (a.get "name") "webhook_configs" channel),
  ("opsgenie_receiver", .of ["name", "api_key"] [("priority", .text "")] fun a => do
    let channel ← Entity.of .opsGenieConfig [("api_key", a.get "api_key"),
      ("priority", a.get "priority")]
    receiverWith (a.get "name") "opsgenie_configs" channel),
  ("null_receiver", .of [] [("name", .text "null")] fun a =>
    Entity.of .receiver [("name", a.get "name")])]

/-! ### Severities -/

/-- The matcher of a severity. -/
def severity (level : Value) : Except Failure Value :=
  (Matcher.ofParts (.text "severity") (.member .matchType "=") level).map .matcher

/-- Alerts of one severity mute those of another, if the given labels are equal. -/
def inhibition (source target equal : Value) : Except Failure Value := do
  let source ← severity source
  let target ← severity target
  let equal ← if equal.isNull then pure [Value.text "alertname"] else equal.items
  Entity.of .inhibitRule [("source_matchers", .list [source]),
    ("target_matchers", .list [target]), ("equal", .list equal)]

/-- A builder of the inhibition of one severity by another. -/
def inhibitionOf (source target : String) : String × Builder :=
  (source ++ "_inhibits_" ++ target, .of [] [("equal", .null)] fun a =>
    inhibition (.text source) (.text target) (a.get "equal"))

/-- The builder of routes for a severity; further fields are given by name. -/
def severityRoute : Builder where
  signature := { positional := Signature.required ["receiver", "level"], keywords := true }
  build a := do
    let matcher ← severity (a.get "level")
    let given := [("receiver", a.get "receiver"), ("matchers", Value.list [matcher])]
    if (a.keywords.lookup "matchers").isSome then Logged.failPlain .wrongType
    else Kind.route.builder.call [] (given ++ a.keywords)

/-- Builders of routes and inhibition. -/
def severityBuilders : List (String × Builder) := [
  ("severity_inhibits", .of ["source", "target"] [("equal", .null)] fun a =>
    inhibition (a.get "source") (a.get "target") (a.get "equal")),
  inhibitionOf "critical" "warning", inhibitionOf "critical" "info", inhibitionOf "warning" "info",
  ("severity_route", severityRoute)]

/-! ### Time intervals -/

/-- The text of a range. -/
def rangeText (first last : Value) : Value :=
  .text (first.shown ++ ":" ++ last.shown)

/-- The text of a range of members of a choice. -/
def memberRange (c : Choice) (first last : Value) : Except Failure Value := do
  let text (v : Value) : Except Failure String := do
    return ((← c.memberOf v).asText?).getD ""
  return .text ((← text first) ++ ":" ++ (← text last))

/-- A range of hours. -/
def hours (first last : String) : Except Failure Value :=
  Entity.of .timeRange [("start_time", .text first), ("end_time", .text last)]

/-- An interval of hours on some weekdays, on the clocks of a location. -/
def interval (times : List (String × String)) (weekdays : List String) (location : Value) :
    Except Failure Value := do
  let times ← times.mapM fun (first, last) => hours first last
  Entity.of .timeInterval [("times", .list times), ("weekdays", .texts weekdays),
    ("location", location)]

/-- Intervals under a name. -/
def named (name : String) (intervals : List Value) : Except Failure Value :=
  Entity.of .muteTimeInterval [("name", .text name), ("time_intervals", .list intervals)]

/-- The working week. -/
def workdays : List String := ["monday:friday"]

/-- The days that are not worked. -/
def weekend : List String := ["saturday", "sunday"]

/-- A builder of named intervals at a location. -/
def locatedBuilder (name : String) (build : Value → Except Failure Value) : String × Builder :=
  (name, .of [] [("location", .text "")] fun a => build (a.get "location"))

/-- Builders of ranges and intervals. -/
def intervalBuilders : List (String × Builder) := [
  ("weekday_range", .of ["start", "end"] [] fun a =>
    memberRange .weekday (a.get "start") (a.get "end")),
  ("month_range", .of ["start", "end"] [] fun a =>
    memberRange .month (a.get "start") (a.get "end")),
  ("day_of_month_range", .of ["start", "end"] [] fun a =>
    .ok (rangeText (a.get "start") (a.get "end"))),
  ("year_range", .of ["start", "end"] [] fun a => .ok (rangeText (a.get "start") (a.get "end"))),
  ("weekends", .of [] [] fun _ => do
    named "weekends" [← interval [] weekend (.text "")]),
  locatedBuilder "business_hours" fun location => do
    named "business-hours" [← interval [("09:00", "17:00")] workdays location],
  locatedBuilder "outside_business_hours" fun location => do
    named "outside-business-hours"
      [← interval [("00:00", "09:00"), ("17:00", "24:00")] workdays location,
        ← interval [] weekend location],
  locatedBuilder "nights" fun location => do
    named "nights" [← interval [("22:00", "24:00"), ("00:00", "06:00")] [] location]]

/-- Builders for the alert manager, by name. -/
def builders : List (String × Builder) :=
  receiverBuilders ++ severityBuilders ++ intervalBuilders

end MonitoringConfig.Routing
