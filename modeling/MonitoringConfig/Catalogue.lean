import MonitoringConfig.Builder.Expr
import MonitoringConfig.Builder.Relabel
import MonitoringConfig.Builder.Routing
import MonitoringConfig.Builder.Server
import MonitoringConfig.Method
import MonitoringConfig.Operator.Conversion
import MonitoringConfig.Reading
/-!
# The catalogue of builders

Everything that configurations are built with, by name. A name has two parts, the family and the
builder in it (`rules.RuleGroup`), and a third where a kind of entity is made in another way than
from its fields (`rules.RuleGroup.from_dict`).

* `Catalogue.builder?` finds the builder with a name.
* `Catalogue.kind?` finds the kind of entity with a name.
-/

namespace MonitoringConfig.Catalogue

/-! ### Kinds of entity -/

/-- Clients of the web. -/
def webKinds : List Kind := [.basicAuth, .authorization, .tlsConfig, .httpConfig]

/-- The kinds of the server. -/
def serverKinds : List Kind := [
  .relabelConfig, .kubernetesNamespaces, .kubernetesSelector, .kubernetesDiscovery,
  .consulDiscovery, .ec2Filter, .ec2Discovery, .dnsDiscovery, .fileDiscovery, .queueConfig,
  .metadataConfig, .remoteWrite, .remoteRead, .staticConfig, .scrapeConfig, .serverGlobal,
  .alertmanagerTarget, .alertingConfig, .serverConfig, .validationResult]

/-- The kinds of rules. -/
def ruleKinds : List Kind := [.recordingRule, .alertingRule, .ruleGroup, .ruleFile]

/-- The kinds of times. -/
def timeKinds : List Kind := [.timeRange, .timeInterval, .muteTimeInterval]

/-- The kinds of routes. -/
def routeKinds : List Kind := [.route, .resolvedRoute]

/-- The kinds of the alert manager. -/
def routingKinds : List Kind := routeKinds ++ timeKinds ++ [
  .emailConfig, .slackAction, .slackField, .slackConfig, .pagerDutyImage, .pagerDutyLink,
  .pagerDutyConfig, .webhookConfig, .opsGenieResponder, .opsGenieConfig, .receiver, .inhibitRule,
  .alertingGlobal, .routingConfig]

/-- The kinds of metadata and selectors. -/
def metaKinds : List Kind := [
  .objectMeta, .secretKeySelector, .configMapKeySelector, .secretOrConfigMap,
  .labelSelectorRequirement, .labelSelector, .namespaceSelector, .safeTlsConfig, .selectorAuth,
  .selectorHttp, .kubernetesObject]

/-- The kinds of the operator. -/
def operatorKinds : List Kind := metaKinds ++ [
  .endpoint, .serviceMonitorSpec, .serviceMonitor, .podEndpoint, .podMonitorSpec, .podMonitor,
  .ruleResourceSpec, .ruleResource, .operatorEmail, .operatorSlack, .operatorPagerDuty,
  .operatorWebhook, .operatorOpsGenie, .operatorReceiver, .operatorInhibitRule,
  .routingResourceSpec, .routingResource, .configMap, .kubernetesSecret]

/-- The kinds of the parts of dashboards. -/
def dashboardKinds : List Kind := [.target, .panel, .row, .templateVariable, .dashboard]

/-- The kinds of samples. -/
def sampleKinds : List Kind := [.sampleInner, .samplePinned, .sampleOuter, .sampleCamel]

/-- The families, each with its kinds of entity. -/
def families : List (String × List Kind) := [
  ("core", webKinds), ("http", webKinds), ("prometheus", serverKinds),
  ("relabel", [.relabelConfig]), ("rules", ruleKinds), ("alertmanager", routingKinds),
  ("route", routeKinds), ("timeintervals", timeKinds), ("operator", operatorKinds),
  ("meta", metaKinds), ("dashboards", dashboardKinds), ("sample", sampleKinds)]

/-- The kinds of entity by name. -/
def kinds : List (String × Kind) :=
  families.flatMap fun (family, ks) => ks.map fun k => (family ++ "." ++ k.name, k)

/-- The kind of entity with a name. -/
def kind? (name : String) : Option Kind :=
  kinds.lookup name

/-! ### Builders -/

/-- The builder that reads an entity from plain data. -/
def reader (kind : Kind) : Builder where
  signature :=
    { positional := Signature.required ["data"] ++ Signature.optional [("style", .null)] }
  build a := Entity.read kind (a.get "data") (Style.ofValue (a.get "style"))

/-- The builder that reads an entity from the text of a document. -/
def parser (kind : Kind) : Builder where
  signature := { positional := Signature.required ["data"] }
  build a := Entity.parse kind (a.get "data")

/-- The builders of the entities of a kind, behind its name. -/
def ofKind (kind : Kind) : List (String × Builder) :=
  ("", kind.builder)
    :: (if kind.isProjected then [(".from_dict", reader kind), (".parse", parser kind)] else [])
    ++ (if kind.schema.envelope?.isSome then [(".named", Operator.named kind)] else [])
    ++ (if kind == .ruleResource then [(".from_rule_file", Operator.ruleFileBuilder)] else [])

/-- The builder that converts a routing configuration, to a pair of a resource and the object of its
secrets. -/
def converter : Builder where
  signature := { positional := Signature.required ["name", "namespace", "config"]
    ++ Signature.optional [("secret_name", .null), ("labels", .null)] }
  build a := do
    let (resource, secret) ← Conversion.convert
      ⟨a.get "name", a.get "namespace", a.get "secret_name", a.get "labels"⟩ (a.get "config")
    return .tuple [resource, secret]

/-- The builder that reads a rule, of the sort that it names. -/
def ruleReader : Builder where
  signature := { positional := Signature.required ["data"] }
  build a := (a.get "data").decode .rule .snake

/-- The builder that asks matchers about a label set. -/
def matchesAll : Builder :=
  .of ["matchers", "labels"] [] fun a => do
    return .bool (← holdAll (.ofValue (a.get "labels")) (MatcherSlot.ofValue (a.get "matchers")))

/-- The builders of the members of some choices. -/
def choices (cs : List Choice) : List (String × Builder) :=
  cs.map fun c => (c.name, c.builder)

/-- The builders of each family that are not those of entities. -/
def others : List (String × List (String × Builder)) := [
  ("core", Duration.builders ++ Secret.builders ++ Matcher.builders ++ Problem.builders
    ++ choices [.matchType]),
  ("http", Secret.builders),
  ("matcher", ("matches_all", matchesAll) :: Matcher.builders ++ choices [.matchType]),
  ("promql", Promql.builders),
  ("prometheus", Server.builders ++ Relabel.builders
    ++ choices [.kubernetesRole, .dnsRecordType, .relabelAction]),
  ("relabel", Relabel.builders ++ choices [.relabelAction]),
  ("rules", [("rule_from_dict", ruleReader)]),
  ("alertmanager", Routing.builders ++ choices [.weekday, .month]),
  ("route", ("matches_all", matchesAll) :: Routing.severityBuilders ++ Matcher.builders
    ++ Duration.builders),
  ("timeintervals", Routing.intervalBuilders ++ choices [.weekday, .month]),
  ("operator", ("from_alertmanager", converter) :: Operator.builders)]

/-- All builders by name. -/
def builders : List (String × Builder) :=
  (kinds.flatMap fun (name, k) => (ofKind k).map fun (suffix, b) => (name ++ suffix, b))
  ++ others.flatMap fun (family, bs) => bs.map fun (name, b) => (family ++ "." ++ name, b)

/-- The builder with a name. -/
def builder? (name : String) : Option Builder :=
  builders.lookup name

end MonitoringConfig.Catalogue
