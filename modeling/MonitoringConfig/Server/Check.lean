import MonitoringConfig.Logged
import MonitoringConfig.Projection.Wire
/-!
# Checking the configuration of a server

The names of scrape jobs are unique, and no scrape may take longer than the time between scrapes.
Times that a job does not say are those of the whole server, and those that the server does not say
are a minute between scrapes and ten seconds for each.

* `Server.check` lists what is wrong.
-/

namespace MonitoringConfig.Server

open Logged

/-- The time between scrapes, and the time for each. -/
structure Times where
  interval : Value
  timeout : Value
  deriving Repr

/-- The times of a server that says nothing. -/
def Times.standard : Times :=
  ⟨.duration (.of 0 0 1 0 0), .duration (.of 0 0 0 10 0)⟩

/-- The times that hold for all jobs. -/
def Times.ofGlobal (v : Value) : Except Failure Times := do
  if !v.isTruthy then return .standard
  else return ⟨(← v.field "scrape_interval").orElse Times.standard.interval,
    (← v.field "scrape_timeout").orElse Times.standard.timeout⟩

/-- The times of a job. A time for each scrape that the job does not say is never longer than the
time between its scrapes. -/
def Times.ofJob (defaults : Times) (job : Value) : Except Failure Times := do
  let interval := (← job.field "scrape_interval").orElse defaults.interval
  let own ← job.field "scrape_timeout"
  if own.isTruthy then return ⟨interval, own⟩
  else
    let shorter ← interval.isLess defaults.timeout
    return ⟨interval, if shorter then interval else defaults.timeout⟩

/-- What is wrong with the times of a job. -/
def timesIssues (name : Value) (t : Times) : Except Failure (List String) := do
  if ← t.interval.isLess t.timeout then
    return ["job " ++ name.quoted ++ ": scrape_timeout " ++ t.timeout.shown
      ++ " exceeds scrape_interval " ++ t.interval.shown]
  else return []

/-- What is wrong with jobs, given the names of the jobs before them. -/
def jobIssues (defaults : Times) (seen : List Value) : List Value → Except Failure (List String)
  | [] => .ok []
  | job :: jobs => do
    let name ← job.field "job_name"
    if !name.canBeKey then .error (.plain .wrongType)
    let repeated := if name.isAmong seen then ["duplicate job_name " ++ name.quoted] else []
    let times ← timesIssues name (← defaults.ofJob job)
    return repeated ++ times ++ (← jobIssues defaults (name :: seen) jobs)

/-- What is wrong with the configuration of a server. -/
def issues (config : Value) : Except Failure (List String) := do
  let defaults ← Times.ofGlobal (← config.field "global_")
  jobIssues defaults [] (← (← config.field "scrape_configs").items)

/-- The event of something that is wrong. -/
def issueEvent (issue : String) : Event :=
  ⟨.warning, "prometheus_config_issue", [("issue", .text issue)]⟩

/-- Checks the configuration of a server: whether it is valid, and what is wrong, which is also
logged. -/
def check (config : Value) : Logged Value := do
  let found ← ofExcept (issues config)
  let result := Value.entity .validationResult [.bool found.isEmpty, .texts found]
  ⟨found.map issueEvent, .ok result⟩

end MonitoringConfig.Server
