import MonitoringConfig.Dashboard.Grid
import MonitoringConfig.Json.Write
import MonitoringConfig.Projection.Read
/-!
# Dashboards as plain data

The document of a dashboard: its panels and rows with their places, its variables, and what is set
about it as a whole. What is empty is left out.

* `Value.toData?` is the document of a dashboard or of a part of it.
* `slug` is the name of a dashboard in file names.
-/

namespace MonitoringConfig.Dashboard

open Value (record)

/-- The value of a field of an entity; every part of a dashboard has the fields asked for. -/
def get (v : Value) (name : String) : Value :=
  (v.field? name).getD .null

/-- An entry, unless the value counts as false. -/
def present (key : String) (v : Value) : List (String × Value) :=
  if v.isTruthy then [(key, v)] else []

/-- An entry, unless the value is nothing. -/
def given (key : String) (v : Value) : List (String × Value) :=
  if v.isNull then [] else [(key, v)]

/-- The reference to a source of data. -/
def sourceOf (uid : Value) : List (String × Value) :=
  if uid.isTruthy then
    [("datasource", record [("type", .text "prometheus"), ("uid", uid)])]
  else []

/-- The document of a query. -/
def target (v : Value) : Except Failure (List (String × Value)) := do
  let expr ← renderExpr (get v "expr")
  let instant := if (get v "instant").isTruthy then [("instant", Value.bool true)] else []
  return [("expr", expr), ("refId", get v "ref_id")]
    ++ present "legendFormat" (get v "legend_format") ++ present "interval" (get v "interval")
    ++ instant ++ sourceOf (get v "datasource_uid")

/-- The letter of a position: `A`, and behind it the characters in their order. Where there is no
further character there is no letter. -/
def letter (position : Nat) : Except Failure Value :=
  let number := 'A'.toNat + position
  if number.isValidChar then .ok (.text (String.singleton (Char.ofNat number)))
  else .error (.plain .badValue)

/-- The reference of the query at a position of a panel with `count` queries: the default one is
replaced by the letter of the position where there are several. -/
def refId (count position : Nat) (own : Value) : Except Failure Value :=
  if 1 < count && own.equal (.text "A") then letter position else .ok own

/-- The documents of the queries of a panel, from a position on. -/
def targets (count : Nat) : Nat → List Value → Except Failure (List Value)
  | _, [] => .ok []
  | position, v :: vs => do
    let .entity .target _ := v | .error (.plain .noSuchMember)
    let own ← target v
    let id ← refId count position (get v "ref_id")
    let entries := own.map fun (k, w) => if k == "refId" then (k, id) else (k, w)
    return record entries :: (← targets count (position + 1) vs)

/-- What is set about the looks of panels of a type. -/
def optionsOf : Value → List (String × Value)
  | .text "timeseries" =>
    [("options", record [("tooltip", record [("mode", .text "multi")]),
      ("legend", record [("displayMode", .text "list"), ("placement", .text "bottom")])])]
  | .text "gauge" =>
    [("options", record [("showThresholdLabels", .bool false),
      ("showThresholdMarkers", .bool true)])]
  | .text "stat" =>
    [("options", record [("graphMode", .text "area"), ("colorMode", .text "value"),
      ("orientation", .text "auto")])]
  | _ => []

/-- The document of a panel as it depends on its number and its place. -/
abbrev Placed := (id x y : Value) → Value

/-- The document of a panel. -/
def panel (v : Value) : Except Failure Placed := do
  let queries ← (get v "targets").items
  let queries ← targets queries.length 0 queries
  let thresholds := get v "thresholds"
  let steps := if thresholds.isTruthy then
      [("thresholds", record [("mode", .text "absolute"), ("steps", thresholds)])]
    else []
  let defaults := present "unit" (get v "unit") ++ given "decimals" (get v "decimals")
    ++ given "min" (get v "min") ++ given "max" (get v "max") ++ steps
  let config := if defaults.isEmpty then [] else
    [("fieldConfig", record [("defaults", record defaults), ("overrides", .list [])])]
  let type := get v "panel_type"
  if !type.canBeKey then .error (.plain .wrongType)
  return fun id x y => record ([("id", id), ("title", get v "title"), ("type", type),
    ("targets", .list queries),
    ("gridPos", record [("h", get v "height"), ("w", get v "width"), ("x", x), ("y", y)])]
    ++ present "description" (get v "description") ++ config ++ optionsOf type)

/-- The document of the header of a row. -/
def row (v id y : Value) : Value :=
  record [("id", id), ("type", .text "row"), ("title", get v "title"),
    ("collapsed", get v "collapsed"),
    ("gridPos", record [("h", .int 1), ("w", .int gridWidth), ("x", .int 0), ("y", y)]),
    ("panels", .list [])]

/-- The document of a variable. -/
def templateVariable (v : Value) : Value :=
  let label := get v "label"
  record ([("name", get v "name"), ("label", if label.isTruthy then label else get v "name"),
    ("type", get v "var_type"), ("query", get v "query"), ("multi", get v "multi"),
    ("includeAll", get v "include_all"), ("refresh", get v "refresh")]
    ++ sourceOf (get v "datasource"))

/-- A whole number of columns or lines. -/
def measure (v : Value) : Except Failure Int :=
  match v with
  | .int n => .ok n
  | .bool b => .ok (if b then 1 else 0)
  | _ => .error (.plain .wrongType)

/-- The size of a panel. -/
def sizeOf? (v : Value) : Except Failure Size := do
  let .entity .panel _ := v | .error (.plain .noSuchMember)
  return ⟨← measure (get v "width"), ← measure (get v "height")⟩

/-- The sizes and the documents of panels, looked at one after the other. -/
def panels (v : Value) : Except Failure (List (Size × Placed)) := do
  (← (get v "panels").items).mapM fun p => do return (← sizeOf? p, ← panel p)

/-- The panels of a row. -/
def rowPanels (v : Value) : Except Failure (List (Size × Placed)) := do
  let .entity .row _ := v | .error (.plain .noSuchMember)
  panels v

/-- The documents of panels at their places. -/
def placed (panels : List (Size × Placed)) (cells : List Cell) : List Value :=
  (panels.zip cells).map fun ((_, p), cell) => p (.int cell.id) (.int cell.x) (.int cell.y)

/-- The documents of the panels and rows of a dashboard. -/
def arranged (v : Value) : Except Failure (List Value) := do
  let above ← panels v
  let rows ← (get v "rows").items
  let below ← rows.mapM rowPanels
  let (cells, rowCells) := layout (above.map (·.1)) (below.map (·.map (·.1)))
  let lines := ((rows.zip below).zip rowCells).map fun ((r, ps), (header, cells)) =>
    row r (.int header.id) (.int header.y) :: placed ps cells
  return placed above cells ++ lines.flatten

/-- The document of a dashboard. -/
def dashboard (v : Value) : Except Failure Value := do
  let panels ← arranged v
  let tags ← (get v "tags").items
  let given := get v "template_variables"
  let templating ← if given.isTruthy then do
      let vars ← (← given.items).mapM fun w =>
        match w with
        | .entity .templateVariable _ => .ok (templateVariable w)
        | _ => .error (.plain .noSuchMember)
      pure [("templating", record [("list", .list vars)])]
    else pure []
  return record ([("title", get v "title"), ("panels", .list panels),
    ("editable", get v "editable"), ("timezone", get v "timezone"), ("tags", .list tags),
    ("time", record [("from", get v "time_from"), ("to", get v "time_to")]),
    ("refresh", get v "refresh"), ("schemaVersion", .int 38), ("version", .int 0)]
    ++ present "uid" (get v "uid") ++ present "description" (get v "description") ++ templating)

/-- The document of a part of a dashboard that is looked at by itself. -/
def document (v : Value) : Except Failure Value :=
  match v with
  | .entity .target _ => (target v).map record
  | .entity .panel _ => do return (← panel v) (.int 0) (.int 0) (.int 0)
  | .entity .row _ => .ok (row v (.int 0) (.int 0))
  | .entity .templateVariable _ => .ok (templateVariable v)
  | .entity .dashboard _ => dashboard v
  | _ => .error (.plain .noSuchMember)

/-- The name of a dashboard in file names: what identifies it, or the words of its title in lower
case. -/
def slug (v : Value) : Except Failure Value :=
  let uid := get v "uid"
  if uid.isTruthy then .ok uid
  else do
    let title ← (get v "title").ownText
    return .text ("-".intercalate ((Text.words (Text.lower title.toList)).map String.ofList))

/-- The document of a dashboard as JSON. -/
def toJson (v : Value) (indent : Json.Indent) : Except Failure String := do
  match Json.write indent 0 (← dashboard v) with
  | .ok s => .ok s
  | .error _ => .error (.plain .wrongType)

end MonitoringConfig.Dashboard
