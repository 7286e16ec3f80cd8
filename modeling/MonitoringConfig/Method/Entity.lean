import MonitoringConfig.Builder.Operator
import MonitoringConfig.Calendar.Interval
import MonitoringConfig.Method.Basic
import MonitoringConfig.Routing.Check
import MonitoringConfig.Routing.Inhibition
import MonitoringConfig.Server.Check
/-!
# Methods of entities

What can be asked of entities and done to them: their plain data and their texts, and for some kinds
the questions and changes that the kind is there for.
-/

namespace MonitoringConfig

/-- The style that a value names; everything but the camel style is the snake style. -/
def Style.ofValue (v : Value) : Style :=
  if v.asText? == some "camel" then .camel else .snake

namespace Method

/-! ### Texts -/

/-- The settings that a value is; nothing stands for the usual ones. -/
def settingsOf (v : Value) : Except Failure Settings :=
  if v.isTruthy then .error (.plain .noSuchMember) else .ok {}

/-- A text as bytes. -/
def bytesOf (s : String) : Value :=
  .bytes s.toUTF8.toList

/-- Methods of every entity that is written as a mapping. -/
def projected : List (String × Method) := [
  ("to_dict", reading (optional [("style", .null)]) fun v a =>
    .ok (v.encode (Style.ofValue (a.get "style")))),
  ("to_yaml", telling {} fun v _ => (v.serialize {}).map .text),
  ("serialize", telling (optional [("settings", .null)]) fun v a => do
    return bytesOf (← v.serialize (← settingsOf (a.get "settings")))),
  ("must_serialize", telling {} fun v _ => (v.mustSerialize {}).map bytesOf)]

/-! ### Rules -/

/-- A method that appends an item to the list at the end of a path. -/
def appending (parameter : String) (path : List String) : Method :=
  changing (required [parameter]) fun v a =>
    v.changeAlong (fun w => w.appended (a.get parameter)) path

/-- The severity label of a rule. -/
def severityOf (v : Value) : Except Failure Value := do
  match ← v.field "labels" with
  | .map entries => return (Value.lookup? (.text "severity") entries).getD (.text "")
  | _ => .error (.plain .noSuchMember)

/-- A change of the severity of a rule. -/
def withSeverity (v severity : Value) : Except Failure Value :=
  v.changeField "labels" fun w => w.withEntry (.text "severity") severity

/-- A method that sets the severity of a rule. -/
def severitySetter (severity : String) : String × Method :=
  (severity, changing {} fun v _ => withSeverity v (.text severity))

/-- A method that sets an annotation of a rule. -/
def annotator (name parameter annotation : String) : String × Method :=
  (name, changing (required [parameter]) fun v a =>
    v.changeField "annotations" fun w => w.withEntry (.text annotation) (a.get parameter))

/-- Methods of alerting rules. -/
def alertingRule : List (String × Method) := [
  ("severity", property severityOf),
  ("with_severity", changing (required ["severity"]) fun v a => withSeverity v (a.get "severity")),
  severitySetter "critical", severitySetter "warning", severitySetter "info",
  annotator "with_summary" "summary" "summary",
  annotator "with_description" "description" "description",
  annotator "with_runbook" "url" "runbook_url",
  ("is_critical", reading {} fun v _ => do
    return .bool ((← severityOf v).equal (.text "critical")))]

/-- The number of items of a field. -/
def countOf (name : String) (v : Value) : Except Failure Nat := do
  match ← v.field name with
  | .list items | .tuple items | .set items => return items.length
  | .map entries => return entries.length
  | .text s | .member _ s => return s.length
  | .bytes data => return data.length
  | _ => .error (.plain .wrongType)

/-- Methods of rule files. -/
def ruleFile : List (String × Method) := [
  ("add_group", appending "group" ["groups"]),
  ("rule_count", reading {} fun v _ => do
    let counts ← (← (← v.field "groups").items).mapM (countOf "rules")
    return .int (counts.foldl (fun n m => n + m) 0 : Nat))]

/-- Methods of resources of rules. -/
def ruleResource : List (String × Method) := [
  ("add_group", appending "group" ["spec", "groups"]),
  ("to_rule_file", reading {} fun v _ => do
    Entity.of .ruleFile [("groups", .list (← Operator.groupsOf (← v.field "spec")))])]

/-! ### The server -/

/-- A mapping with texts as keys, of arguments given by name. -/
def labelEntries (given : List (String × Value)) : List (Value × Value) :=
  given.map fun (k, v) => (.text k, v)

/-- Methods of scrape jobs. -/
def scrapeConfig : List (String × Method) := [
  ("add_targets", changing { rest := true, keywords := true } fun v a =>
    v.changeField "static_configs" fun w => do
      let entries := labelEntries a.keywords
      let group ← Entity.of .staticConfig [("targets", .list a.rest), ("labels", .map entries)]
      w.appended group)]

/-! ### Routing -/

/-- A route that handles an alert, as a value. -/
def handlerValue (root : Value) (h : Handler) : Value :=
  .entity .resolvedRoute [h.receiver, .list h.groupBy, h.groupWait, h.groupInterval,
    h.repeatInterval, .list h.muted, .list h.active, root.routeAt h.path]

/-- The handler that a value is; nothing is none. -/
def handlerOf (v : Value) : Except Failure (Option Handler) :=
  match v with
  | .entity .resolvedRoute [receiver, groupBy, wait, interval, again, muted, active, _] => do
    return some ⟨[], receiver, ← groupBy.items, wait, interval, again, ← muted.items,
      ← active.items⟩
  | v => if v.isTruthy then .error (.plain .noSuchMember) else .ok none

/-- Methods of routes. -/
def route : List (String × Method) := [
  ("add_route", appending "route" ["routes"]),
  ("match", reading { positional := Signature.required ["labels"]
      ++ Signature.optional [("parent", .null)] } fun v a => do
    let above ← handlerOf (a.get "parent")
    let found ← (Route.ofValue v).handlingBelow (Labels.ofValue (a.get "labels")) above []
    return .list (found.map (handlerValue v))),
  ("receivers_for", reading (required ["labels"]) fun v a => do
    return .list (← (Route.ofValue v).receivers (Labels.ofValue (a.get "labels"))))]

/-- The fields of receivers that list channels. -/
def channelFields : List String :=
  ["email_configs", "slack_configs", "pagerduty_configs", "webhook_configs", "opsgenie_configs"]

/-- Methods of receivers. -/
def receiver : List (String × Method) := [
  ("channel_count", reading {} fun v _ => do
    let counts ← channelFields.mapM fun name => countOf name v
    return .int (counts.foldl (fun n m => n + m) 0 : Nat))]

/-- The configuration that a value is. -/
def configOf (v : Value) : Except Failure RoutingConfig :=
  match RoutingConfig.ofValue? v with
  | some c => .ok c
  | none => .error (.plain .noSuchMember)

/-- Methods of routing configurations. -/
def routingConfig : List (String × Method) := [
  ("receiver", reading (required ["name"]) fun v a => do
    RoutingConfig.findNamed (← v.field "receivers") (a.get "name")),
  ("issues", reading {} fun v _ => do return .texts (← (← configOf v).issues)),
  ("validate", telling {} fun v _ => do
    (← configOf v).validate
    return .null)]

/-- Methods of routing resources. -/
def routingResource : List (String × Method) := [
  ("receiver", reading (required ["name"]) fun v a => do
    RoutingConfig.findNamed (← (← v.field "spec").field "receivers") (a.get "name"))]

/-- Methods of ranges of hours. -/
def timeRange : List (String × Method) := [
  ("contains", reading (required ["minute_of_day"]) fun v a => do
    match (a.get "minute_of_day").asScalar? with
    | some (.int n) => return .bool (← rangeContains n v)
    | _ => .error (.plain .wrongType))]

/-- Methods of intervals. -/
def interval : List (String × Method) := [
  ("contains", reading (required ["when"]) fun v a =>
    match a.get "when" with
    | .moment m _ => return .bool (← v.containsMoment m)
    | _ => .error (.plain .noSuchMember))]

/-- Methods of rules of inhibition. -/
def inhibitRule : List (String × Method) := [
  ("inhibits", reading (required ["source", "target"]) fun v a =>
    match Inhibition.ofValue? v with
    | some r =>
      return .bool (← r.inhibits (.ofValue (a.get "source")) (.ofValue (a.get "target")))
    | none => .error (.plain .noSuchMember))]

/-! ### Resources -/

/-- A property of the metadata of a resource. -/
def ofMetadata (name : String) : String × Method :=
  (name, property fun v => do (← v.field "metadata").field name)

/-- Properties of resources of a kind. -/
def resource (kind : Kind) : List (String × Method) :=
  match kind.schema.envelope? with
  | some e => [ofMetadata "name", ofMetadata "namespace",
      ("kind", property fun _ => .ok (.text e.kind)),
      ("api_version", property fun _ => .ok (.text e.apiVersion))]
  | none => []

/-- Methods of monitors; endpoints stand in the given field. -/
def monitor (endpoints : String) : List (String × Method) := [
  ("select", changing { keywords := true } fun v a =>
    v.changeAlong (fun w => w.withEntries (labelEntries a.keywords))
      ["spec", "selector", "match_labels"]),
  ("in_namespaces", changing any fun v a => do
    let names ← Entity.of .namespaceSelector [("match_names", .list a.rest)]
    v.changeAlong (fun _ => .ok names) ["spec", "namespace_selector"]),
  ("add_endpoint", appending "endpoint" ["spec", endpoints])]

/-- Methods of public objects. -/
def configMap : List (String × Method) := [
  ("add_data", changing (required ["key", "value"]) fun v a =>
    v.changeField "data" fun w => w.withEntry (a.get "key") (a.get "value"))]

/-! ### Dashboards -/

/-- How far JSON is indented, as a caller says it. -/
def indentOf (v : Value) : Except Failure Json.Indent :=
  match v with
  | .null => .ok none
  | .int n => .ok (Json.spaces n)
  | .bool b => .ok (Json.spaces (if b then 1 else 0))
  | v =>
    match v.asText? with
    | some s => .ok (some s)
    | none => .error (.plain .wrongType)

/-- Methods of the parts of dashboards. -/
def dashboardPart : Kind → List (String × Method)
  | .target => [("to_dict", reading {} fun v _ => (Dashboard.target v).map .record)]
  | .panel => [("to_dict", reading (optional [("panel_id", .int 0), ("x", .int 0), ("y", .int 0)])
      fun v a => do return (← Dashboard.panel v) (a.get "panel_id") (a.get "x") (a.get "y"))]
  | .row => [("to_dict", reading (optional [("panel_id", .int 0), ("y", .int 0)])
      fun v a => .ok (Dashboard.row v (a.get "panel_id") (a.get "y")))]
  | .templateVariable =>
    [("to_dict", reading {} fun v _ => .ok (Dashboard.templateVariable v))]
  | .dashboard => [
    ("to_dict", reading {} fun v _ => Dashboard.dashboard v),
    ("to_json", reading (optional [("indent", .int 2)]) fun v a => do
      return .text (← Dashboard.toJson v (← indentOf (a.get "indent")))),
    ("slug", property Dashboard.slug)]
  | _ => []

/-! ### All kinds -/

/-- The methods that a kind of entity has of its own. -/
def own : Kind → List (String × Method)
  | .alertingRule => alertingRule
  | .ruleGroup => [("add_rule", appending "rule" ["rules"])]
  | .ruleFile => ruleFile
  | .ruleResource => ruleResource
  | .scrapeConfig => scrapeConfig
  | .serverConfig => [("validate", telling {} fun v _ => Server.check v)]
  | .route => route
  | .receiver => receiver
  | .routingConfig => routingConfig
  | .routingResource => routingResource
  | .timeRange => timeRange
  | .timeInterval | .muteTimeInterval => interval
  | .inhibitRule => inhibitRule
  | .serviceMonitor => monitor "endpoints"
  | .podMonitor => monitor "pod_metrics_endpoints"
  | .configMap => configMap
  | kind => dashboardPart kind

/-- The methods of entities of a kind, those of the kind itself first. -/
def ofKind (kind : Kind) : List (String × Method) :=
  own kind ++ resource kind ++ (if kind.isProjected then projected else [])

end Method

end MonitoringConfig
