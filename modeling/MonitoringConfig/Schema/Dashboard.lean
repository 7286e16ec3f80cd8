import MonitoringConfig.Schema.Basic
/-!
# Dashboards

The parts of a dashboard, and results of computations that have named fields.
-/

namespace MonitoringConfig.Schema

/-- A text with a default. -/
def textOf (name default : String) : Field :=
  (Field.text name).withDefault (.text default)

/-- A number with a default. -/
def wholeOf (name : String) (default : Int) : Field :=
  (Field.whole name).withDefault (.int default)

/-- A query of a panel. -/
def target : Schema where
  fields := [.required "expr" .any, .text "legend_format", textOf "ref_id" "A",
    .optional "interval" .text, .flag "instant", .optional "datasource_uid" .text]

/-- A panel. -/
def panel : Schema where
  fields := [.required "title" .text, .required "targets" (.listOf (.entity .target)),
    textOf "panel_type" "timeseries", .optional "description" .text, .optional "unit" .text,
    .optional "decimals" .whole, .optional "min" .real, .optional "max" .real,
    .optional "thresholds" (.listOf .any), wholeOf "width" 12, wholeOf "height" 8]

/-- A row, with the panels below it. -/
def row : Schema where
  fields := [.required "title" .text, .flag "collapsed", .list "panels" (.entity .panel)]

/-- A variable that the viewer chooses. -/
def templateVariable : Schema where
  fields := [.required "name" .text, .required "query" .text, .text "label",
    textOf "var_type" "query", .optional "datasource" .text, .flag "multi", .flag "include_all",
    wholeOf "refresh" 1]

/-- A dashboard. -/
def dashboard : Schema where
  fields := [.required "title" .text, .list "panels" (.entity .panel),
    .list "rows" (.entity .row), .list "template_variables" (.entity .templateVariable),
    .optional "uid" .text, .optional "description" .text, .list "tags" .text,
    textOf "timezone" "browser", (Field.flag "editable").withDefault (.bool true),
    textOf "time_from" "now-6h", textOf "time_to" "now", textOf "refresh" "30s"]

/-- What a check of a server's configuration finds. -/
def validationResult : Schema where
  fields := [.required "is_valid" .flag, .required "issues" (.listOf .text)]

/-- A route with what it inherits filled in. -/
def resolvedRoute : Schema where
  fields := [.required "receiver" .text, .required "group_by" (.listOf .text),
    .required "group_wait" .duration, .required "group_interval" .duration,
    .required "repeat_interval" .duration, .required "mute_time_intervals" (.listOf .text),
    .required "active_time_intervals" (.listOf .text), .required "route" (.entity .route)]

end MonitoringConfig.Schema
