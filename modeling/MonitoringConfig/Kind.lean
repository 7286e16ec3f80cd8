/-!
# Kinds of entity

The entities that configurations are made of. Two kinds may share a name where one is written into
files of the server and the other into resources of the operator.
-/

namespace MonitoringConfig

/-- The kinds of entity. -/
inductive Kind where
  -- clients of the web
  | basicAuth | authorization | tlsConfig | httpConfig
  -- the monitoring server
  | relabelConfig | kubernetesNamespaces | kubernetesSelector | kubernetesDiscovery
  | consulDiscovery | ec2Filter | ec2Discovery | dnsDiscovery | fileDiscovery
  | queueConfig | metadataConfig | remoteWrite | remoteRead | staticConfig | scrapeConfig
  | serverGlobal | alertmanagerTarget | alertingConfig | serverConfig
  -- rules
  | recordingRule | alertingRule | ruleGroup | ruleFile
  -- the alert manager
  | emailConfig | slackAction | slackField | slackConfig | pagerDutyImage | pagerDutyLink
  | pagerDutyConfig | webhookConfig | opsGenieResponder | opsGenieConfig | receiver
  | route | timeRange | timeInterval | muteTimeInterval | inhibitRule
  | alertingGlobal | routingConfig
  -- the operator
  | objectMeta | secretKeySelector | configMapKeySelector | secretOrConfigMap
  | labelSelectorRequirement | labelSelector | namespaceSelector | safeTlsConfig
  | selectorAuth | selectorHttp | kubernetesObject
  | endpoint | serviceMonitorSpec | serviceMonitor | podEndpoint | podMonitorSpec | podMonitor
  | ruleResourceSpec | ruleResource
  | operatorEmail | operatorSlack | operatorPagerDuty | operatorWebhook | operatorOpsGenie
  | operatorReceiver | operatorInhibitRule | routingResourceSpec | routingResource
  | configMap | kubernetesSecret
  -- dashboards
  | target | panel | row | templateVariable | dashboard
  -- results of computations
  | validationResult | resolvedRoute
  -- samples of every kind of field
  | sampleInner | samplePinned | sampleOuter | sampleCamel
  deriving DecidableEq, Repr, Inhabited

namespace Kind

/-- The name of a kind of entity. -/
def name : Kind → String
  | basicAuth => "BasicAuth"
  | authorization => "Authorization"
  | tlsConfig => "TLSConfig"
  | httpConfig => "HTTPConfig"
  | relabelConfig => "RelabelConfig"
  | kubernetesNamespaces => "KubernetesNamespaces"
  | kubernetesSelector => "KubernetesSelector"
  | kubernetesDiscovery => "KubernetesSDConfig"
  | consulDiscovery => "ConsulSDConfig"
  | ec2Filter => "EC2Filter"
  | ec2Discovery => "EC2SDConfig"
  | dnsDiscovery => "DNSSDConfig"
  | fileDiscovery => "FileSDConfig"
  | queueConfig => "QueueConfig"
  | metadataConfig => "MetadataConfig"
  | remoteWrite => "RemoteWriteConfig"
  | remoteRead => "RemoteReadConfig"
  | staticConfig => "StaticConfig"
  | scrapeConfig => "ScrapeConfig"
  | serverGlobal => "GlobalConfig"
  | alertmanagerTarget => "AlertmanagerTarget"
  | alertingConfig => "AlertingConfig"
  | serverConfig => "PrometheusConfig"
  | recordingRule => "RecordingRule"
  | alertingRule => "AlertingRule"
  | ruleGroup => "RuleGroup"
  | ruleFile => "RuleFile"
  | emailConfig => "EmailConfig"
  | slackAction => "SlackAction"
  | slackField => "SlackField"
  | slackConfig => "SlackConfig"
  | pagerDutyImage => "PagerDutyImage"
  | pagerDutyLink => "PagerDutyLink"
  | pagerDutyConfig => "PagerDutyConfig"
  | webhookConfig => "WebhookConfig"
  | opsGenieResponder => "OpsGenieResponder"
  | opsGenieConfig => "OpsGenieConfig"
  | receiver => "Receiver"
  | route => "Route"
  | timeRange => "TimeRange"
  | timeInterval => "TimeInterval"
  | muteTimeInterval => "MuteTimeInterval"
  | inhibitRule => "InhibitRule"
  | alertingGlobal => "GlobalConfig"
  | routingConfig => "AlertmanagerConfig"
  | objectMeta => "ObjectMeta"
  | secretKeySelector => "SecretKeySelector"
  | configMapKeySelector => "ConfigMapKeySelector"
  | secretOrConfigMap => "SecretOrConfigMap"
  | labelSelectorRequirement => "LabelSelectorRequirement"
  | labelSelector => "LabelSelector"
  | namespaceSelector => "NamespaceSelector"
  | safeTlsConfig => "SafeTLSConfig"
  | selectorAuth => "BasicAuth"
  | selectorHttp => "HTTPConfig"
  | kubernetesObject => "KubernetesObject"
  | endpoint => "Endpoint"
  | serviceMonitorSpec => "ServiceMonitorSpec"
  | serviceMonitor => "ServiceMonitor"
  | podEndpoint => "PodMetricsEndpoint"
  | podMonitorSpec => "PodMonitorSpec"
  | podMonitor => "PodMonitor"
  | ruleResourceSpec => "PrometheusRuleSpec"
  | ruleResource => "PrometheusRule"
  | operatorEmail => "OperatorEmailConfig"
  | operatorSlack => "OperatorSlackConfig"
  | operatorPagerDuty => "OperatorPagerDutyConfig"
  | operatorWebhook => "OperatorWebhookConfig"
  | operatorOpsGenie => "OperatorOpsGenieConfig"
  | operatorReceiver => "OperatorReceiver"
  | operatorInhibitRule => "OperatorInhibitRule"
  | routingResourceSpec => "AlertmanagerConfigSpec"
  | routingResource => "AlertmanagerConfig"
  | configMap => "ConfigMap"
  | kubernetesSecret => "KubernetesSecret"
  | target => "Target"
  | panel => "Panel"
  | row => "Row"
  | templateVariable => "TemplateVariable"
  | dashboard => "Dashboard"
  | validationResult => "ValidationResult"
  | resolvedRoute => "ResolvedRoute"
  | sampleInner => "Inner"
  | samplePinned => "Pinned"
  | sampleOuter => "Outer"
  | sampleCamel => "CamelOuter"

/-- Whether entities of a kind are part of a dashboard. -/
def isDashboard : Kind → Bool
  | target | panel | row | templateVariable | dashboard => true
  | _ => false

/-- Whether entities of a kind are results, which are not written into files. -/
def isResult : Kind → Bool
  | validationResult | resolvedRoute => true
  | _ => false

/-- Whether entities of a kind are written as mappings by their schema. -/
def isProjected (k : Kind) : Bool :=
  !k.isDashboard && !k.isResult

end Kind

end MonitoringConfig
