import MonitoringConfig.Schema.Basic
/-!
# The monitoring server

What the server scrapes, how it finds its targets, what it does to their labels, and where it
sends samples and alerts.
-/

namespace MonitoringConfig.Schema

/-! ### Relabelling -/

/-- One step of relabelling. -/
def relabelConfig : Schema where
  fields := [.list "source_labels" .text, .text "separator", .text "regex", .whole "modulus",
    .text "target_label", .text "replacement", .optional "action" (.choice .relabelAction)]

/-! ### Discovery of targets -/

/-- Namespaces of a cluster. -/
def kubernetesNamespaces : Schema where
  fields := [.optional "own_namespace" .flag, .list "names" .text]

/-- Labels and fields that limit what is discovered. -/
def kubernetesSelector : Schema where
  fields := [.required "role" (.choice .kubernetesRole), .text "label", .text "field"]

/-- Discovery in a cluster. -/
def kubernetesDiscovery : Schema where
  fields := [.required "role" (.choice .kubernetesRole),
    .optional "namespaces" (.entity .kubernetesNamespaces),
    .list "selectors" (.entity .kubernetesSelector), .text "api_server", .text "kubeconfig_file",
    .optional "tls_config" (.entity .tlsConfig), .optional "basic_auth" (.entity .basicAuth),
    .optional "bearer_token" .secret, .text "bearer_token_file", .text "proxy_url",
    .optional "follow_redirects" .flag, .optional "enable_http2" .flag]

/-- Discovery in a catalogue of services. -/
def consulDiscovery : Schema where
  fields := [.text "server", .optional "token" .secret, .text "datacenter", .text "namespace",
    .text "partition", .text "scheme", .list "services" .text, .list "tags" .text,
    .map "node_meta" .text, .text "tag_separator", .optional "allow_stale" .flag,
    .optional "refresh_interval" .duration, .optional "tls_config" (.entity .tlsConfig),
    .optional "basic_auth" (.entity .basicAuth), .text "proxy_url",
    .optional "follow_redirects" .flag, .optional "enable_http2" .flag]

/-- A property of machines and the values it may have. -/
def ec2Filter : Schema where
  fields := [.required "name" .text, .required "values" (.listOf .text)]

/-- Discovery among rented machines. -/
def ec2Discovery : Schema where
  fields := [.text "region", .text "endpoint", .text "access_key", .optional "secret_key" .secret,
    .text "profile", .text "role_arn", .optional "refresh_interval" .duration, .whole "port",
    .list "filters" (.entity .ec2Filter)]

/-- Discovery by names. -/
def dnsDiscovery : Schema where
  fields := [.required "names" (.listOf .text), .optional "type" (.choice .dnsRecordType),
    .whole "port", .optional "refresh_interval" .duration]

/-- Discovery in files. -/
def fileDiscovery : Schema where
  fields := [.required "files" (.listOf .text), .optional "refresh_interval" .duration]

/-! ### Scraping -/

/-- A fixed group of targets. -/
def staticConfig : Schema where
  fields := [.required "targets" (.listOf .text), .map "labels" .text]

/-- A scrape job. -/
def scrapeConfig : Schema where
  fields := [.required "job_name" .text, .optional "scrape_interval" .duration,
    .optional "scrape_timeout" .duration, .text "metrics_path", .text "scheme",
    .optional "honor_labels" .flag, .optional "honor_timestamps" .flag,
    .map "params" (.listOf .text), .optional "basic_auth" (.entity .basicAuth),
    .optional "authorization" (.entity .authorization), .optional "bearer_token" .secret,
    .text "bearer_token_file", .optional "tls_config" (.entity .tlsConfig), .text "proxy_url",
    .optional "follow_redirects" .flag, .list "static_configs" (.entity .staticConfig),
    .list "kubernetes_sd_configs" (.entity .kubernetesDiscovery),
    .list "consul_sd_configs" (.entity .consulDiscovery),
    .list "ec2_sd_configs" (.entity .ec2Discovery), .list "dns_sd_configs" (.entity .dnsDiscovery),
    .list "file_sd_configs" (.entity .fileDiscovery),
    .list "relabel_configs" (.entity .relabelConfig),
    .list "metric_relabel_configs" (.entity .relabelConfig), .whole "sample_limit",
    .whole "target_limit", .whole "label_limit", .whole "label_name_length_limit",
    .whole "label_value_length_limit"]

/-! ### Remote storage -/

/-- The queue of samples on their way to remote storage. -/
def queueConfig : Schema where
  fields := [.whole "capacity", .whole "max_shards", .whole "min_shards",
    .whole "max_samples_per_send", .optional "batch_send_deadline" .duration,
    .optional "min_backoff" .duration, .optional "max_backoff" .duration,
    .optional "retry_on_http_429" .flag]

/-- What is sent to remote storage about metrics. -/
def metadataConfig : Schema where
  fields := [((Field.flag "send").withDefault (.bool true)).kept,
    .optional "send_interval" .duration, .whole "max_samples_per_send"]

/-- Remote storage that samples are written to. -/
def remoteWrite : Schema where
  fields := [.required "url" .text, .text "name", .optional "remote_timeout" .duration,
    .map "headers" .text, .list "write_relabel_configs" (.entity .relabelConfig),
    .optional "basic_auth" (.entity .basicAuth), .optional "bearer_token" .secret,
    .text "bearer_token_file", .optional "tls_config" (.entity .tlsConfig), .text "proxy_url",
    .optional "queue_config" (.entity .queueConfig),
    .optional "metadata_config" (.entity .metadataConfig)]

/-- Remote storage that samples are read from. -/
def remoteRead : Schema where
  fields := [.required "url" .text, .text "name", .optional "remote_timeout" .duration,
    .map "headers" .text, .optional "read_recent" .flag, .map "required_matchers" .text,
    .optional "filter_external_labels" .flag, .optional "basic_auth" (.entity .basicAuth),
    .optional "bearer_token" .secret, .text "bearer_token_file",
    .optional "tls_config" (.entity .tlsConfig), .text "proxy_url"]

/-! ### The server as a whole -/

/-- What every scrape job and rule group inherits. -/
def serverGlobal : Schema where
  fields := [.optional "scrape_interval" .duration, .optional "scrape_timeout" .duration,
    .optional "evaluation_interval" .duration, .map "external_labels" .text,
    .text "query_log_file"]

/-- Alert managers that alerts are sent to. -/
def alertmanagerTarget : Schema where
  fields := [.list "static_configs" (.entity .staticConfig), .text "scheme", .text "path_prefix",
    .optional "timeout" .duration, .text "api_version", .optional "basic_auth" (.entity .basicAuth),
    .optional "tls_config" (.entity .tlsConfig), .list "relabel_configs" (.entity .relabelConfig)]

/-- Where alerts are sent. -/
def alertingConfig : Schema where
  fields := [.list "alert_relabel_configs" (.entity .relabelConfig),
    .list "alertmanagers" (.entity .alertmanagerTarget)]

/-- The configuration of a server. -/
def serverConfig : Schema where
  fields := [.optional "global_" (.entity .serverGlobal),
    .list "scrape_configs" (.entity .scrapeConfig), .list "rule_files" .text,
    .optional "alerting" (.entity .alertingConfig), .list "remote_write" (.entity .remoteWrite),
    .list "remote_read" (.entity .remoteRead)]

/-! ### Rules -/

/-- A rule that records an expression as a series. -/
def recordingRule : Schema where
  fields := [.required "record" .text, .required "expr" .text, .map "labels" .text]
  style? := some .snake

/-- A rule that alerts while an expression has samples. -/
def alertingRule : Schema where
  fields := [.required "alert" .text, .required "expr" .text, .optional "for_" .duration,
    .optional "keep_firing_for" .duration, .map "labels" .text, .map "annotations" .text]
  style? := some .snake

/-- Rules that are evaluated together. -/
def ruleGroup : Schema where
  fields := [.required "name" .text, .optional "interval" .duration, .whole "limit",
    (Field.list "rules" .rule).kept]
  style? := some .snake

/-- A file of rules. -/
def ruleFile : Schema where
  fields := [(Field.list "groups" (.entity .ruleGroup)).kept]
  style? := some .snake

end MonitoringConfig.Schema
