import MonitoringConfig.Builder.Arguments
/-!
# Builders for the server

Builders for the usual ways to find targets, for jobs with fixed targets, and for where alerts are
sent.
-/

namespace MonitoringConfig.Server

/-- A member of a choice as a field. -/
def member (c : Choice) (v : Value) : Except Failure Value := c.memberOf v

/-- Discovery in a cluster, in the given namespaces if there are any. -/
def kubernetes (role : Value) (namespaces : List Value) : Except Failure Value := do
  let role ← member .kubernetesRole role
  if namespaces.isEmpty then Entity.of .kubernetesDiscovery [("role", role)]
  else
    let within ← Entity.of .kubernetesNamespaces [("names", .list namespaces)]
    Entity.of .kubernetesDiscovery [("role", role), ("namespaces", within)]

/-- Filters of machines, given as a mapping of properties to values. -/
def machineFilters (v : Value) : Except Failure (List Value) :=
  match v with
  | .map entries => entries.mapM fun (name, values) => do
      Entity.of .ec2Filter [("name", name), ("values", .list (← values.items))]
  | v => if v.isTruthy then .error (.plain .noSuchMember) else .ok []

/-- A group of fixed targets. -/
def targetGroup (targets : List Value) (labels : List (Value × Value)) : Except Failure Value :=
  Entity.of .staticConfig [("targets", .list targets), ("labels", .map labels)]

/-- A job that scrapes fixed targets. -/
def staticJob (name interval : Value) (targets : List Value) : Except Failure Value := do
  Entity.of .scrapeConfig [("job_name", name), ("scrape_interval", interval),
    ("static_configs", .list [← targetGroup targets []])]

/-- Fixed addresses that alerts are sent to. -/
def alertingTo (targets : List Value) (path : Value) : Except Failure Value := do
  let endpoint ← Entity.of .alertmanagerTarget
    [("static_configs", .list [← targetGroup targets []]), ("path_prefix", path)]
  Entity.of .alertingConfig [("alertmanagers", .list [endpoint])]

/-- Builders for the server, by name. -/
def builders : List (String × Builder) := [
  ("kubernetes_sd", .withRest ["role"] [] fun a => kubernetes (a.get "role") a.rest),
  ("consul_sd", .withRest ["server"] [] fun a =>
    Entity.of .consulDiscovery [("server", a.get "server"), ("services", .list a.rest)]),
  ("ec2_sd", .of ["region"] [("port", .int 0), ("filters", .null)] fun a => do
    Entity.of .ec2Discovery [("region", a.get "region"), ("port", a.get "port"),
      ("filters", .list (← machineFilters (a.get "filters")))]),
  ("dns_sd", .withRest [] [("record_type", .member .dnsRecordType "SRV"), ("port", .int 0)]
    fun a => do
      Entity.of .dnsDiscovery [("names", .list a.rest),
        ("type", ← member .dnsRecordType (a.get "record_type")), ("port", a.get "port")]),
  ("file_sd", .withRest [] [("refresh_interval", .null)] fun a =>
    Entity.of .fileDiscovery [("files", .list a.rest),
      ("refresh_interval", a.get "refresh_interval")]),
  ("static_job", .withRest ["job_name"] [("interval", .null)] fun a =>
    staticJob (a.get "job_name") (a.get "interval") a.rest),
  ("alertmanager_target", .withRest [] [("path_prefix", .text "")] fun a =>
    alertingTo a.rest (a.get "path_prefix"))]

end MonitoringConfig.Server
