import MonitoringConfig.Schema.Dashboard
import MonitoringConfig.Schema.Operator
import MonitoringConfig.Schema.Sample
import MonitoringConfig.Schema.Server
import MonitoringConfig.Schema.Web
/-!
# The schema of every kind of entity

`Kind.schema` gives the fields of a kind; `Value.field?` and `Value.setField` read and change a
field of an entity by its name.
-/

namespace MonitoringConfig

/-- The schema of a kind of entity. -/
def Kind.schema : Kind → Schema
  | .basicAuth => Schema.basicAuth
  | .authorization => Schema.authorization
  | .tlsConfig => Schema.tlsConfig
  | .httpConfig => Schema.httpConfig
  | .relabelConfig => Schema.relabelConfig
  | .kubernetesNamespaces => Schema.kubernetesNamespaces
  | .kubernetesSelector => Schema.kubernetesSelector
  | .kubernetesDiscovery => Schema.kubernetesDiscovery
  | .consulDiscovery => Schema.consulDiscovery
  | .ec2Filter => Schema.ec2Filter
  | .ec2Discovery => Schema.ec2Discovery
  | .dnsDiscovery => Schema.dnsDiscovery
  | .fileDiscovery => Schema.fileDiscovery
  | .queueConfig => Schema.queueConfig
  | .metadataConfig => Schema.metadataConfig
  | .remoteWrite => Schema.remoteWrite
  | .remoteRead => Schema.remoteRead
  | .staticConfig => Schema.staticConfig
  | .scrapeConfig => Schema.scrapeConfig
  | .serverGlobal => Schema.serverGlobal
  | .alertmanagerTarget => Schema.alertmanagerTarget
  | .alertingConfig => Schema.alertingConfig
  | .serverConfig => Schema.serverConfig
  | .recordingRule => Schema.recordingRule
  | .alertingRule => Schema.alertingRule
  | .ruleGroup => Schema.ruleGroup
  | .ruleFile => Schema.ruleFile
  | .emailConfig => Schema.emailConfig
  | .slackAction => Schema.slackAction
  | .slackField => Schema.slackField
  | .slackConfig => Schema.slackConfig
  | .pagerDutyImage => Schema.pagerDutyImage
  | .pagerDutyLink => Schema.pagerDutyLink
  | .pagerDutyConfig => Schema.pagerDutyConfig
  | .webhookConfig => Schema.webhookConfig
  | .opsGenieResponder => Schema.opsGenieResponder
  | .opsGenieConfig => Schema.opsGenieConfig
  | .receiver => Schema.receiver
  | .route => Schema.route
  | .timeRange => Schema.timeRange
  | .timeInterval => Schema.timeInterval
  | .muteTimeInterval => Schema.muteTimeInterval
  | .inhibitRule => Schema.inhibitRule
  | .alertingGlobal => Schema.alertingGlobal
  | .routingConfig => Schema.routingConfig
  | .objectMeta => Schema.objectMeta
  | .secretKeySelector => Schema.keySelector
  | .configMapKeySelector => Schema.keySelector
  | .secretOrConfigMap => Schema.secretOrConfigMap
  | .labelSelectorRequirement => Schema.labelSelectorRequirement
  | .labelSelector => Schema.labelSelector
  | .namespaceSelector => Schema.namespaceSelector
  | .safeTlsConfig => Schema.safeTlsConfig
  | .selectorAuth => Schema.selectorAuth
  | .selectorHttp => Schema.selectorHttp
  | .kubernetesObject => Schema.kubernetesObject
  | .endpoint => Schema.endpoint
  | .serviceMonitorSpec => Schema.serviceMonitorSpec
  | .serviceMonitor => Schema.serviceMonitor
  | .podEndpoint => Schema.podEndpoint
  | .podMonitorSpec => Schema.podMonitorSpec
  | .podMonitor => Schema.podMonitor
  | .ruleResourceSpec => Schema.ruleResourceSpec
  | .ruleResource => Schema.ruleResource
  | .operatorEmail => Schema.operatorEmail
  | .operatorSlack => Schema.operatorSlack
  | .operatorPagerDuty => Schema.operatorPagerDuty
  | .operatorWebhook => Schema.operatorWebhook
  | .operatorOpsGenie => Schema.operatorOpsGenie
  | .operatorReceiver => Schema.operatorReceiver
  | .operatorInhibitRule => Schema.operatorInhibitRule
  | .routingResourceSpec => Schema.routingResourceSpec
  | .routingResource => Schema.routingResource
  | .configMap => Schema.configMap
  | .kubernetesSecret => Schema.kubernetesSecret
  | .target => Schema.target
  | .panel => Schema.panel
  | .row => Schema.row
  | .templateVariable => Schema.templateVariable
  | .dashboard => Schema.dashboard
  | .validationResult => Schema.validationResult
  | .resolvedRoute => Schema.resolvedRoute
  | .sampleInner => Schema.sampleInner
  | .samplePinned => Schema.samplePinned
  | .sampleOuter => Schema.sampleOuter
  | .sampleCamel => Schema.sampleCamel

namespace Value

/-- The value of a field of an entity, by the name of the field. -/
def field? (v : Value) (name : String) : Option Value :=
  match v with
  | entity kind fields => (kind.schema.position? name).bind fun i => fields[i]?
  | _ => none

/-- The value of a field that is asked for. -/
def field (v : Value) (name : String) : Except Failure Value :=
  match v.field? name with
  | some w => .ok w
  | none => .error (.plain .noSuchMember)

/-- The entity with another value in a field. -/
def setField (v : Value) (name : String) (value : Value) : Value :=
  match v with
  | entity kind fields =>
    match kind.schema.position? name with
    | some i => entity kind (fields.set i value)
    | none => v
  | v => v

/-- An entity given by the fields that are not at their defaults. -/
def build (kind : Kind) (given : List (String × Value)) : Value :=
  entity kind (kind.schema.fields.map fun f =>
    (given.lookup f.name).getD (f.default?.getD null))

end Value

end MonitoringConfig
