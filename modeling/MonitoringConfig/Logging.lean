import MonitoringConfig.Logged
/-!
# Log lines

Events that a program reports become lines, each a mapping. A program sets a threshold, below which
nothing is written, and may bind fields that all of its lines carry.

* `Logging.threshold` reads a threshold.
* `Logging.Report.line?` is the line of a report.
-/

namespace MonitoringConfig

namespace Level

/-- The name of a level. -/
def name : Level → String
  | debug => "debug"
  | info => "info"
  | warning => "warning"
  | error => "error"
  | critical => "critical"

/-- How severe events of a level are. -/
def severity : Level → Int
  | debug => 10
  | info => 20
  | warning => 30
  | error => 40
  | critical => 50

/-- The level of a report, by what the report is called. -/
def ofReport? (name : String) : Option Level :=
  [("debug", debug), ("info", info), ("warning", warning), ("warn", warning), ("error", error),
    ("exception", error), ("critical", critical), ("fatal", critical)].lookup name

end Level

namespace Logging

/-- The severities that can be asked for by name. -/
def namedSeverity? (name : String) : Option Int :=
  [("CRITICAL", 50), ("FATAL", 50), ("ERROR", 40), ("WARN", 30), ("WARNING", 30), ("INFO", 20),
    ("DEBUG", 10), ("NOTSET", 0)].lookup name

/-- The severity below which nothing is written: a number, or a name in capital letters. -/
def threshold (v : Value) : Except Failure Int :=
  match v with
  | .int n => .ok n
  | .bool b => .ok (if b then 1 else 0)
  | .text name =>
    match namedSeverity? name with
    | some n => .ok n
    | none => .error (.plain .badValue)
  | _ => .error (.plain .wrongType)

/-- Something that a program reports. -/
structure Report where
  level : Level
  /-- What happened; nothing if the report does not say. -/
  event : Value
  fields : List (String × Value)
  deriving Inhabited

namespace Report

/-- A report with fields. What happened is said by the report and by no field. -/
def of (level : Level) (event : Value) (fields : List (String × Value)) : Except Failure Report :=
  if fields.any fun (name, _) => name == "event" then .error (.plain .wrongType)
  else .ok ⟨level, event, fields⟩

/-- The fields that lines do not carry: they ask for more about an error or about the caller, of
which there is nothing to say here. -/
def isRequest (name : String) : Bool :=
  name == "exc_info" || name == "stack_info"

/-- The fields of a line. Those of the report hide the bound ones, and what happened, the level and
the time hide both. -/
def entries (bound : List (String × Value)) (time : Value) (r : Report) :
    List (Value × Value) :=
  let given := (bound ++ r.fields).filter fun (name, _) => !isRequest name
  let event := if r.event.isNull then [] else [("event", r.event)]
  let own := event ++ [("level", .text r.level.name), ("timestamp", time)]
  Value.insertEntries [] ((given ++ own).map fun (name, v) => (.text name, v))

/-- The line of a report, unless it is below the threshold. -/
def line? (threshold : Int) (bound : List (String × Value)) (time : Value) (r : Report) :
    Option Value :=
  if threshold ≤ r.level.severity then some (.map (r.entries bound time)) else none

end Report

end Logging

end MonitoringConfig
