import MonitoringConfig.Schema.Routing
/-!
# Resources of the operator

Objects of a cluster from which an operator makes configurations. A resource is written in the
camel style, in an envelope that names its kind.
-/

namespace MonitoringConfig.Schema

/-! ### Metadata and selectors -/

/-- The name of an object and what is said about it. -/
def objectMeta : Schema where
  fields := [.required "name" .text, .text "namespace", .map "labels" .text,
    .map "annotations" .text]

/-- One key of an object. -/
def keySelector : Schema where
  fields := [.required "name" .text, .required "key" .text, .optional "optional" .flag]

/-- One key of a secret or of a public object. -/
def secretOrConfigMap : Schema where
  fields := [.optional "secret" (.entity .secretKeySelector),
    .optional "config_map" (.entity .configMapKeySelector)]

/-- What is required of a label. -/
def labelSelectorRequirement : Schema where
  fields := [.required "key" .text, .required "operator" .text, .list "values" .text]

/-- Objects by their labels. -/
def labelSelector : Schema where
  fields := [.map "match_labels" .text,
    .list "match_expressions" (.entity .labelSelectorRequirement)]

/-- Namespaces by their names. -/
def namespaceSelector : Schema where
  fields := [.optional "any_" .flag, .list "match_names" .text]

/-- Certificates kept in secrets. -/
def safeTlsConfig : Schema where
  fields := [.optional "ca" (.entity .secretOrConfigMap),
    .optional "cert" (.entity .secretOrConfigMap),
    .optional "key_secret" (.entity .secretKeySelector), .text "ca_file", .text "cert_file",
    .text "key_file", .text "server_name", .optional "insecure_skip_verify" .flag]

/-- Basic authentication by secrets. -/
def selectorAuth : Schema where
  fields := [.optional "username" (.entity .secretKeySelector),
    .optional "password" (.entity .secretKeySelector)]

/-- A client of a web server, its credentials kept in secrets. -/
def selectorHttp : Schema where
  fields := [.optional "basic_auth" (.entity .selectorAuth),
    .optional "bearer_token_secret" (.entity .secretKeySelector),
    .optional "tls_config" (.entity .safeTlsConfig),
    (Field.text "proxy_url").withCamel "proxyURL", .optional "follow_redirects" .flag]

/-! ### Resources -/

/-- A resource with the given fields behind its metadata. -/
def resource (apiVersion kind : String) (fields : List Field) : Schema where
  fields := .required "metadata" (.entity .objectMeta) :: fields
  style? := some .camel
  envelope? := some ⟨apiVersion, kind⟩

/-- The version of the interface of monitors and rules. -/
def monitoringVersion : String := "monitoring.coreos.com/v1"

/-- The version of the interface of routing. -/
def routingVersion : String := "monitoring.coreos.com/v1alpha1"

/-- The version of the interface of plain objects. -/
def coreVersion : String := "v1"

/-- A resource without fields of its own. -/
def kubernetesObject : Schema :=
  resource "" "" []

/-- An entity of which nothing is given. -/
def blank (kind : Kind) (s : Schema) : Value :=
  .entity kind s.defaults

/-- A field that holds an entity, of which nothing is given by default. -/
def part (name : String) (kind : Kind) (s : Schema) : Field :=
  { name, type := .entity kind, default? := some (blank kind s) }

/-- The fields of a scrape endpoint behind the given ones for its address. -/
def endpointFields (bearerFile : List Field) : List Field :=
  [.text "port", .text "target_port", .text "path", .text "scheme", .map "params" (.listOf .text),
    .optional "interval" .duration, .optional "scrape_timeout" .duration,
    .optional "tls_config" (.entity .safeTlsConfig)] ++ bearerFile
  ++ [.optional "bearer_token_secret" (.entity .secretKeySelector),
    .optional "basic_auth" (.entity .selectorAuth), .optional "honor_labels" .flag,
    .optional "honor_timestamps" .flag, .list "relabelings" (.entity .relabelConfig),
    .list "metric_relabelings" (.entity .relabelConfig), .text "proxy_url",
    .optional "follow_redirects" .flag]

/-- An endpoint of a service. -/
def endpoint : Schema where
  fields := endpointFields [.text "bearer_token_file"]

/-- An endpoint of a container. -/
def podEndpoint : Schema where
  fields := endpointFields []

/-- What a monitor of services watches. -/
def serviceMonitorSpec : Schema where
  fields := [(Field.list "endpoints" (.entity .endpoint)).kept,
    (part "selector" .labelSelector labelSelector).kept,
    .optional "namespace_selector" (.entity .namespaceSelector), .text "job_label",
    .list "target_labels" .text, .list "pod_target_labels" .text,
    .optional "sample_limit" .whole, .optional "target_limit" .whole]

/-- A monitor of services. -/
def serviceMonitor : Schema :=
  resource monitoringVersion "ServiceMonitor" [part "spec" .serviceMonitorSpec serviceMonitorSpec]

/-- What a monitor of containers watches. -/
def podMonitorSpec : Schema where
  fields := [(Field.list "pod_metrics_endpoints" (.entity .podEndpoint)).kept,
    (part "selector" .labelSelector labelSelector).kept,
    .optional "namespace_selector" (.entity .namespaceSelector), .text "job_label",
    .list "pod_target_labels" .text, .optional "sample_limit" .whole,
    .optional "target_limit" .whole]

/-- A monitor of containers. -/
def podMonitor : Schema :=
  resource monitoringVersion "PodMonitor" [part "spec" .podMonitorSpec podMonitorSpec]

/-- The rule groups of a resource. -/
def ruleResourceSpec : Schema where
  fields := [(Field.list "groups" (.entity .ruleGroup)).kept]

/-- A resource of rules. -/
def ruleResource : Schema :=
  resource monitoringVersion "PrometheusRule" [part "spec" .ruleResourceSpec ruleResourceSpec]

/-- A public object of texts. -/
def configMap : Schema :=
  resource coreVersion "ConfigMap" [(Field.map "data" .text).kept]

/-- An object of secret texts. -/
def kubernetesSecret : Schema :=
  resource coreVersion "Secret" [(Field.text "type").withDefault (.text "Opaque"),
    .map "string_data" .text]

/-! ### Routing -/

/-- A secret kept in an object. -/
def selector (name : String) : Field :=
  .optional name (.entity .secretKeySelector)

/-- The client of a channel. -/
def channelClient : Field :=
  .optional "http_config" (.entity .selectorHttp)

/-- Notification by mail. -/
def operatorEmail : Schema :=
  emailConfig.redeclare [selector "auth_password", selector "auth_secret",
    .optional "tls_config" (.entity .safeTlsConfig)]

/-- Notification in a chat channel. -/
def operatorSlack : Schema :=
  slackConfig.redeclare [(selector "api_url").withCamel "apiURL", channelClient]

/-- Notification by pager. -/
def operatorPagerDuty : Schema :=
  pagerDutyConfig.redeclare [selector "routing_key", selector "service_key", channelClient]

/-- Notification of a web server. -/
def operatorWebhook : Schema :=
  webhookConfig.redeclare [selector "url_secret", channelClient]

/-- Notification of an on-call service. -/
def operatorOpsGenie : Schema :=
  opsGenieConfig.redeclare [selector "api_key", channelClient]

/-- A named bundle of channels. -/
def operatorReceiver : Schema :=
  receiverOf .operatorEmail .operatorSlack .operatorPagerDuty .operatorWebhook .operatorOpsGenie

/-- Alerts that mute others. -/
def operatorInhibitRule : Schema where
  fields := [.list "source_match" .matcher, .list "target_match" .matcher, .list "equal" .text]

/-- Routes and receivers of a resource. -/
def routingResourceSpec : Schema where
  fields := [.optional "route" (.entity .route), .list "receivers" (.entity .operatorReceiver),
    .list "inhibit_rules" (.entity .operatorInhibitRule),
    .list "mute_time_intervals" (.entity .muteTimeInterval)]

/-- A resource of routes and receivers. -/
def routingResource : Schema :=
  resource routingVersion "AlertmanagerConfig"
    [part "spec" .routingResourceSpec routingResourceSpec]

end MonitoringConfig.Schema
