import Mathlib.Data.Finset.Card
import MonitoringConfig.Proofs.Routing.Reference
import MonitoringConfig.Server.Check
/-!
# The jobs of a server

What the check finds in the jobs of a server is told here job by job, without the values that it
fills in on the way.

* `Server.intervalOf` : the time between the scrapes of a job, from what the job says, what all jobs
  share and a standard.
* `Server.issuesBehind` : what is wrong with jobs, given the names of the jobs before them.
* `Server.check_jobs` : **a server is valid just if the names of its jobs are distinct and no job
  gives itself more time for a scrape than there is between two.** Every other job with a name is
  reported once, and every job with too much time.
-/

namespace MonitoringConfig

namespace Value

/-- The jobs of a server. -/
def jobs (config : Value) : List Value :=
  (config.get "scrape_configs").elements

/-- The names of the jobs of a server. -/
def jobNames (config : Value) : List String :=
  config.jobs.map fun job => (job.get "job_name").shown

/-- The time that a field says, unless it is missing or zero. -/
def time? (v : Value) (field : String) : Option Duration :=
  match v.get field with
  | duration d => if d.isZero then none else some d
  | _ => none

theorem eq_duration_of_fits {v : Value} (h : v.fits .duration = true) : ∃ d, v = duration d := by
  cases v with
  | duration d => exact ⟨d, rfl⟩
  | _ => cases h

/-- A field for a time says one, or counts as false. -/
theorem time_cases {v : Value} {field : String}
    (h : (v.get field).fits (.optional .duration) = true) :
    (∃ d, v.time? field = some d ∧ v.get field = duration d ∧ (v.get field).isTruthy = true) ∨
      (v.time? field = none ∧ (v.get field).isTruthy = false) := by
  rw [time?]
  obtain hnull | hthere := fits_optional h
  · exact .inr (by rw [hnull]; exact ⟨rfl, rfl⟩)
  · obtain ⟨d, hd⟩ := eq_duration_of_fits hthere
    simp only [hd, isTruthy]
    cases hzero : d.isZero with
    | true => exact .inr ⟨rfl, rfl⟩
    | false => exact .inl ⟨d, rfl, rfl, rfl⟩

/-- A time that is missing or zero gives way to another one. -/
theorem orElse_time {v : Value} {field : String}
    (h : (v.get field).fits (.optional .duration) = true) (default : Duration) :
    (v.get field).orElse (duration default) = duration ((v.time? field).getD default) := by
  rw [orElse]
  obtain ⟨d, htime, hget, htruthy⟩ | ⟨htime, hfalse⟩ := time_cases h
  · rw [htruthy, htime, hget]
    rfl
  · rw [hfalse, htime]
    rfl

@[simp] theorem isLess_duration (a b : Duration) :
    (duration a).isLess (duration b) = .ok (decide (a.nanoseconds < b.nanoseconds)) := by
  rw [isLess, order, orderLeaf, Except.map]
  · congr 1
    rw [Bool.eq_iff_iff, beq_iff_eq, Option.some.injEq, decide_eq_true_eq]
    exact Std.compare_eq_lt
  · simp
  · simp

end Value

namespace Server

/-! ### What the check finds -/

/-- The time between the scrapes of jobs that do not say it: what all jobs share, or a minute. -/
def sharedInterval (config : Value) : Duration :=
  ((config.get "global_").time? "scrape_interval").getD (.of 0 0 1 0 0)

/-- The time between the scrapes of a job. -/
def intervalOf (config job : Value) : Duration :=
  (job.time? "scrape_interval").getD (sharedInterval config)

/-- Whether a job gives itself more time for a scrape than there is between two. -/
def overruns (config job : Value) : Bool :=
  (job.time? "scrape_timeout").any fun timeout =>
    (intervalOf config job).nanoseconds < timeout.nanoseconds

theorem overruns_eq_false {config job : Value} :
    overruns config job = false ↔ ∀ timeout, job.time? "scrape_timeout" = some timeout →
      timeout.nanoseconds ≤ (intervalOf config job).nanoseconds := by
  rw [overruns]
  cases job.time? "scrape_timeout" <;> simp

/-- The report of a name that another job has. -/
def nameIssue (job : Value) : String :=
  "duplicate job_name " ++ (job.get "job_name").quoted

/-- The report of a job with too much time for a scrape. -/
def timesIssue (config job : Value) : String :=
  "job " ++ (job.get "job_name").quoted ++ ": scrape_timeout " ++ (job.get "scrape_timeout").shown
    ++ " exceeds scrape_interval " ++ (intervalOf config job).format

/-- What is wrong with jobs, given the names of the jobs before them. -/
def issuesBehind (config : Value) (seen : List String) : List Value → List String
  | [] => []
  | job :: jobs =>
    (if (job.get "job_name").shown ∈ seen then [nameIssue job] else [])
      ++ (if overruns config job then [timesIssue config job] else [])
      ++ issuesBehind config ((job.get "job_name").shown :: seen) jobs

/-! ### The check -/

variable {config job : Value} {seen : List String} {jobs : List Value}

/-- The time for a scrape of a job that says none: what all jobs share, cut to the interval of the
job. -/
def fallbackTimeout (config job : Value) (shared : Duration) : Duration :=
  if (intervalOf config job).nanoseconds < shared.nanoseconds then intervalOf config job else shared

/-- The times of a job, filled in from those that all jobs share. -/
theorem ofJob_eq (hjob : job.fits (.entity .scrapeConfig) = true) (shared : Duration) :
    Times.ofJob ⟨.duration (sharedInterval config), .duration shared⟩ job =
      .ok ⟨.duration (intervalOf config job),
        .duration ((job.time? "scrape_timeout").getD (fallbackTimeout config job shared))⟩ := by
  have hinterval := Value.orElse_time
    (Value.get_fits hjob (rfl : Kind.scrapeConfig.schema.type? "scrape_interval" = _)).2
    (sharedInterval config)
  rw [Times.ofJob, Value.field_of_fits hjob "scrape_interval" rfl,
    Value.field_of_fits hjob "scrape_timeout" rfl]
  simp only [bind, Except.bind, pure, Except.pure, hinterval, Value.isLess_duration]
  obtain ⟨timeout, htime, hget, htruthy⟩ | ⟨htime, hfalse⟩ := Value.time_cases
    (Value.get_fits hjob (rfl : Kind.scrapeConfig.schema.type? "scrape_timeout" = _)).2
  · rw [if_pos htruthy, htime, hget]
    rfl
  · rw [if_neg (Bool.eq_false_iff.1 hfalse), htime, Option.getD_none, fallbackTimeout,
      apply_ite Value.duration]
    simp only [decide_eq_true_eq, intervalOf]
    rfl

/-- **Only a time that the job says itself can be too long.** -/
theorem timesIssues_eq (hjob : job.fits (.entity .scrapeConfig) = true) (shared : Duration) :
    timesIssues (job.get "job_name") ⟨.duration (intervalOf config job),
        .duration ((job.time? "scrape_timeout").getD (fallbackTimeout config job shared))⟩ =
      .ok (if overruns config job then [timesIssue config job] else []) := by
  simp only [timesIssues, Value.isLess_duration, bind, Except.bind, pure, Except.pure]
  obtain ⟨timeout, htime, hget, -⟩ | ⟨htime, -⟩ := Value.time_cases
    (Value.get_fits hjob (rfl : Kind.scrapeConfig.schema.type? "scrape_timeout" = _)).2
  · have hissue : overruns config job =
        decide ((intervalOf config job).nanoseconds < timeout.nanoseconds) := by
      rw [overruns, htime]
      rfl
    rw [hissue, htime, Option.getD_some, timesIssue, hget]
    split <;> rfl
  · have hnone : overruns config job = false := by
      rw [overruns, htime]
      rfl
    -- What is inherited has been cut to the interval.
    have hle : ¬ (intervalOf config job).nanoseconds <
        (fallbackTimeout config job shared).nanoseconds := by
      rw [fallbackTimeout]
      split <;> omega
    rw [hnone, htime, Option.getD_none, if_neg (by simpa using hle)]
    rfl

/-- The times that all jobs share. -/
theorem ofGlobal_eq (h : config.fits (.entity .serverConfig) = true) :
    ∃ shared, Times.ofGlobal (config.get "global_") =
      .ok ⟨.duration (sharedInterval config), .duration shared⟩ := by
  have hglobal : (config.get "global_").fits (.optional (.entity .serverGlobal)) = true :=
    (Value.get_fits h rfl).2
  obtain hnull | hthere := Value.fits_optional hglobal
  · refine ⟨.of 0 0 0 10 0, ?_⟩
    rw [sharedInterval, hnull]
    rfl
  · have hinterval := Value.orElse_time
      (Value.get_fits hthere (rfl : Kind.serverGlobal.schema.type? "scrape_interval" = _)).2
      (.of 0 0 1 0 0)
    have htimeout := Value.orElse_time
      (Value.get_fits hthere (rfl : Kind.serverGlobal.schema.type? "scrape_timeout" = _)).2
      (.of 0 0 0 10 0)
    have htruthy : (config.get "global_").isTruthy = true := by
      obtain ⟨fields, hfields, -⟩ := Value.eq_entity_of_fits hthere
      rw [hfields]
      rfl
    refine ⟨((config.get "global_").time? "scrape_timeout").getD (.of 0 0 0 10 0), ?_⟩
    rw [Times.ofGlobal, Value.field_of_fits hthere "scrape_interval" rfl,
      Value.field_of_fits hthere "scrape_timeout" rfl, htruthy]
    simp only [bind, Except.bind, Times.standard, hinterval, htimeout]
    rfl

/-- The name of a job is a text. -/
theorem get_jobName (hjob : job.fits (.entity .scrapeConfig) = true) :
    job.get "job_name" = .text (job.get "job_name").shown := by
  obtain ⟨name, hname⟩ := Value.eq_text_of_fits
    (Value.get_fits hjob (rfl : Kind.scrapeConfig.schema.type? "job_name" = _)).2
  rw [hname]
  rfl

/-- A name is among names just if it is one of them. -/
theorem isAmong_texts (name : String) (seen : List String) :
    (Value.text name).isAmong (seen.map .text) = decide (name ∈ seen) := by
  rw [Bool.eq_iff_iff, decide_eq_true_eq,
    Value.isAmong_iff rfl (by simp [Value.fits, FieldType.inner])]
  simp

/-- What the check finds in a job, and in the jobs behind it. -/
theorem jobIssues_cons {times own : Times} {seen : List Value} {late behind : List String}
    (hjob : job.fits (.entity .scrapeConfig) = true) (htimes : Times.ofJob times job = .ok own)
    (hlate : timesIssues (job.get "job_name") own = .ok late)
    (hbehind : jobIssues times (job.get "job_name" :: seen) jobs = .ok behind) :
    jobIssues times seen (job :: jobs) = .ok
      ((if (job.get "job_name").isAmong seen then [nameIssue job] else []) ++ late ++ behind) := by
  have hkey : (job.get "job_name").canBeKey = true := by
    rw [get_jobName hjob]
    rfl
  rw [jobIssues, Value.field_of_fits hjob "job_name" rfl]
  simp only [bind, Except.bind, hkey, htimes, hlate, hbehind]
  rfl

/-- **The check of the jobs comes to what is wrong with them.** -/
theorem jobIssues_eq (shared : Duration)
    (hjobs : ∀ job ∈ jobs, job.fits (.entity .scrapeConfig) = true) :
    jobIssues ⟨.duration (sharedInterval config), .duration shared⟩ (seen.map .text) jobs =
      .ok (issuesBehind config seen jobs) := by
  induction jobs generalizing seen with
  | nil => rfl
  | cons job jobs ih =>
    have hjob := hjobs job List.mem_cons_self
    have hname := get_jobName hjob
    have hbehind := @ih ((job.get "job_name").shown :: seen)
      fun j hj => hjobs j (List.mem_cons_of_mem _ hj)
    rw [List.map_cons, ← hname] at hbehind
    have hamong := isAmong_texts (job.get "job_name").shown seen
    rw [← hname] at hamong
    rw [jobIssues_cons hjob (ofJob_eq hjob shared) (timesIssues_eq hjob shared) hbehind]
    simp only [issuesBehind, hamong, decide_eq_true_eq]

/-! ### What is found -/

/-- Whether an issue opens with a text. -/
def opensWith (front issue : String) : Bool :=
  front.toList.isPrefixOf issue.toList

@[simp] theorem opensWith_nameIssue (job : Value) :
    opensWith "duplicate job_name " (nameIssue job) = true ∧
      opensWith "job " (nameIssue job) = false := by
  have hissue : (nameIssue job).toList =
      "duplicate job_name ".toList ++ (job.get "job_name").quoted.toList := String.toList_append
  rw [opensWith, opensWith, hissue]
  exact ⟨rfl, rfl⟩

@[simp] theorem opensWith_timesIssue (config job : Value) :
    opensWith "duplicate job_name " (timesIssue config job) = false ∧
      opensWith "job " (timesIssue config job) = true := by
  simp only [opensWith, timesIssue, String.toList_append, List.append_assoc]
  exact ⟨rfl, rfl⟩

/-- Nothing is wrong just if no name comes twice, nor after itself, and no job overruns. -/
theorem issuesBehind_eq_nil :
    issuesBehind config seen jobs = [] ↔
      (∀ job ∈ jobs, (job.get "job_name").shown ∉ seen) ∧
      (jobs.map fun job => (job.get "job_name").shown).Nodup ∧
      ∀ job ∈ jobs, overruns config job = false := by
  induction jobs generalizing seen with
  | nil => simp [issuesBehind]
  | cons job jobs ih =>
    simp only [issuesBehind, List.append_eq_nil_iff, ih, List.map_cons,
      List.nodup_cons, List.mem_map, List.mem_cons, ite_eq_right_iff, List.cons_ne_nil]
    grind

/-- What is found is the report of a name or of the times of a job. -/
theorem opensWith_of_mem_issuesBehind {issue : String}
    (h : issue ∈ issuesBehind config seen jobs) :
    opensWith "duplicate job_name " issue = true ∨ opensWith "job " issue = true := by
  induction jobs generalizing seen with
  | nil => cases h
  | cons job jobs ih =>
    simp only [issuesBehind, List.mem_append, List.mem_ite_nil_right, List.mem_singleton] at h
    obtain (⟨-, rfl⟩ | ⟨-, rfl⟩) | hbehind := h
    · exact .inl (opensWith_nameIssue job).1
    · exact .inr (opensWith_timesIssue config job).2
    · exact ih hbehind

/-- The jobs that overrun are reported, in their order. -/
theorem filter_issuesBehind :
    (issuesBehind config seen jobs).filter (opensWith "job ") =
      (jobs.filter (overruns config)).map (timesIssue config) := by
  induction jobs generalizing seen with
  | nil => rfl
  | cons job jobs ih =>
    simp only [issuesBehind, List.filter_append, ih]
    have hname : (if (job.get "job_name").shown ∈ seen then [nameIssue job] else []).filter
        (opensWith "job ") = [] := by
      split <;> simp
    have htimes : (if overruns config job then [timesIssue config job] else []).filter
        (opensWith "job ") = if overruns config job then [timesIssue config job] else [] := by
      split <;> simp
    rw [hname, htimes, List.filter_cons]
    split <;> rfl

/-- A name is reported for each job but the first that has it. -/
theorem countP_issuesBehind :
    (issuesBehind config seen jobs).countP (opensWith "duplicate job_name ") +
        ((jobs.map fun job => (job.get "job_name").shown).toFinset \ seen.toFinset).card =
      jobs.length := by
  induction jobs generalizing seen with
  | nil => simp [issuesBehind]
  | cons job jobs ih =>
    have hbehind := @ih ((job.get "job_name").shown :: seen)
    have htimes : (if overruns config job then [timesIssue config job] else []).countP
        (opensWith "duplicate job_name ") = 0 := by
      split <;> simp
    -- Behind this job its name counts as seen, so there it is erased from the new names.
    rw [List.toFinset_cons, Finset.sdiff_insert] at hbehind
    rw [issuesBehind, List.countP_append, List.countP_append, htimes, List.map_cons,
      List.toFinset_cons, List.length_cons]
    by_cases hseen : (job.get "job_name").shown ∈ seen
    · have hgone : (job.get "job_name").shown ∉
          (jobs.map fun job => (job.get "job_name").shown).toFinset \ seen.toFinset := by
        simp [hseen]
      rw [Finset.erase_eq_of_notMem hgone] at hbehind
      rw [if_pos hseen, Finset.insert_sdiff_of_mem _ (List.mem_toFinset.2 hseen)]
      simp
      omega
    · rw [if_neg hseen, Finset.insert_sdiff_of_notMem _ (by simpa using hseen),
        Finset.card_insert_eq_ite, List.countP_nil]
      split
      · next hmem =>
        have := Finset.card_erase_add_one hmem
        omega
      · next hmem =>
        rw [Finset.erase_eq_of_notMem hmem] at hbehind
        omega

/-- **A server is valid just if the names of its jobs are distinct and no job gives itself more time
for a scrape than there is between two.** What is found is logged. Just the jobs that overrun are
reported for their times, and a name once for each job but the first that has it. -/
theorem check_jobs (hconfig : config.fits (.entity .serverConfig) = true) :
    ∃ found, (check config).result =
        .ok (.entity .validationResult [.bool found.isEmpty, .texts found]) ∧
      (check config).events = found.map issueEvent ∧
      (found = [] ↔ config.jobNames.Nodup ∧ ∀ job ∈ config.jobs, ∀ timeout,
        job.time? "scrape_timeout" = some timeout →
          timeout.nanoseconds ≤ (intervalOf config job).nanoseconds) ∧
      (∀ issue ∈ found,
        opensWith "duplicate job_name " issue = true ∨ opensWith "job " issue = true) ∧
      found.filter (opensWith "job ") =
        (config.jobs.filter (overruns config)).map (timesIssue config) ∧
      found.countP (opensWith "duplicate job_name ") + config.jobNames.toFinset.card =
        config.jobs.length := by
  obtain ⟨hlist, hjobs⟩ := Value.elements_fits hconfig
    (rfl : Kind.serverConfig.schema.type? "scrape_configs" = _)
  obtain ⟨shared, hshared⟩ := ofGlobal_eq hconfig
  have hissues : issues config = .ok (issuesBehind config [] config.jobs) := by
    rw [issues, Value.field_of_fits hconfig "global_" rfl,
      Value.field_of_fits hconfig "scrape_configs" rfl]
    simp only [bind, Except.bind, hshared, Value.items_eq_elements hlist]
    exact @jobIssues_eq config [] config.jobs shared hjobs
  refine ⟨issuesBehind config [] config.jobs, ?_, ?_, ?_,
    fun _ => opensWith_of_mem_issuesBehind, filter_issuesBehind, ?_⟩
  · rw [check, hissues]
    rfl
  · rw [check, hissues]
    simp [Logged.ofExcept, bind, Logged.andThen]
  · rw [issuesBehind_eq_nil]
    simp [Value.jobNames, overruns_eq_false]
  · have hcount := @countP_issuesBehind config [] config.jobs
    simpa [Value.jobNames] using hcount

/-- Two jobs share a name, and one job takes longer than all jobs may; that the time that all jobs
share for a scrape is too long does not matter. -/
theorem check_jobs_threeJobs :
    let config := Value.build .serverConfig [
      ("global_", .build .serverGlobal [("scrape_interval", .duration (.of 0 0 0 30 0)),
        ("scrape_timeout", .duration (.of 0 0 2 0 0))]),
      ("scrape_configs", .list [.build .scrapeConfig [("job_name", .text "node")],
        .build .scrapeConfig [("job_name", .text "web"),
          ("scrape_timeout", .duration (.of 0 0 0 45 0))],
        .build .scrapeConfig [("job_name", .text "node"),
          ("scrape_timeout", .duration (.of 0 0 0 0 0))]])]
    config.fits (.entity .serverConfig) = true ∧
      ∃ found, (check config).result =
          .ok (.entity .validationResult [.bool false, .texts found]) ∧
        found.filter (opensWith "job ") =
          ["job 'web': scrape_timeout 45s exceeds scrape_interval 30s"] ∧
        found.countP (opensWith "duplicate job_name ") = 1 := by
  intro config
  have hconfig : config.fits (.entity .serverConfig) = true := by decide
  have hnames : config.jobNames.toFinset.card = 2 := by decide
  have hjobs : config.jobs.length = 3 := by decide
  have hlate : (config.jobs.filter (overruns config)).map (timesIssue config) =
      ["job 'web': scrape_timeout 45s exceeds scrape_interval 30s"] := by decide +kernel
  obtain ⟨found, hresult, -, -, -, hreports, hcount⟩ := check_jobs hconfig
  have hsome : found.isEmpty = false := by
    cases found with
    | nil =>
      rw [hlate] at hreports
      cases hreports
    | cons => rfl
  rw [hsome] at hresult
  refine ⟨hconfig, found, hresult, hreports.trans hlate, ?_⟩
  omega

end Server

end MonitoringConfig
