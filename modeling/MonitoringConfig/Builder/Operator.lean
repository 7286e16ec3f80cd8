import MonitoringConfig.Builder.Arguments
import MonitoringConfig.Document
/-!
# Builders of resources

Builders of resources by their names, of resources of rule files, and of public objects that hold a
dashboard.
-/

namespace MonitoringConfig.Operator

/-! ### Mappings from what callers give -/

/-- An entry given as a pair. -/
def pair (v : Value) : Except Failure (Value × Value) :=
  match v.items? with
  | some [key, value] => if key.canBeKey then .ok (key, value) else .error (.plain .wrongType)
  | some _ => .error (.plain .badValue)
  | none => .error (.plain .wrongType)

/-- The entries of a mapping, or of a list of pairs; what counts as false has none. -/
def entriesOf (v : Value) : Except Failure (List (Value × Value)) :=
  match v with
  | .map entries => .ok entries
  | v =>
    if !v.isTruthy then .ok []
    else do return Value.insertEntries [] (← (← v.items).mapM pair)

/-! ### Resources -/

/-- The metadata of a resource. -/
def metadata (name space labels annotations : Value) : Except Failure Value := do
  Entity.of .objectMeta [("name", name), ("namespace", space),
    ("labels", .map (← entriesOf labels)), ("annotations", .map (← entriesOf annotations))]

/-- The builder of the resources of a kind by name; its fields are given by name. -/
def named (kind : Kind) : Builder where
  signature :=
    { positional := Signature.required ["name"] ++ Signature.optional
        [("namespace", .text ""), ("labels", .null), ("annotations", .null)]
      keywords := true }
  build a := do
    let about ← metadata (a.get "name") (a.get "namespace") (a.get "labels") (a.get "annotations")
    if (a.keywords.lookup "metadata").isSome then Logged.failPlain .wrongType
    else kind.builder.call [] (("metadata", about) :: a.keywords)

/-- The rule groups of a value. -/
def groupsOf (v : Value) : Except Failure (List Value) :=
  match v.field? "groups" with
  | some groups => groups.items
  | none => .error (.plain .noSuchMember)

/-- The resource of the groups of a rule file. -/
def ofRuleFile (name space file labels : Value) : Except Failure Value := do
  let spec ← Entity.of .ruleResourceSpec [("groups", .list (← groupsOf file))]
  let about ← metadata name space labels .null
  Entity.of .ruleResource [("metadata", about), ("spec", spec)]

/-- The document of a dashboard that is to be stored: the one of a dashboard, a text as it is, and
other data as JSON. -/
def dashboardBody (dashboard : Value) : Except Failure Value := do
  let spaces := Json.spaces ({} : Settings).jsonIndent
  match dashboard with
  | .entity .dashboard _ => (Dashboard.toJson dashboard spaces).map .text
  | v =>
    if v.asText?.isSome then .ok v
    else match Json.write spaces 0 v with
      | .ok s => .ok (.text s)
      | .error _ => .error (.plain .wrongType)

/-- The public object of a dashboard, in a folder if one is given. -/
def dashboardObject (name space dashboard folder labels : Value) : Except Failure Value := do
  let body ← dashboardBody dashboard
  let labels := Value.insertEntries [(.text "grafana_dashboard", .text "1")] (← entriesOf labels)
  let annotations := if folder.isTruthy then [("grafana_folder", folder)] else []
  let about ← metadata name space (.map labels) (.record annotations)
  Entity.of .configMap [("metadata", about), ("data", .record [(name.shown ++ ".json", body)])]

/-- Builders of resources, by name. -/
def builders : List (String × Builder) := [
  ("dashboard_configmap", .of ["name", "namespace", "dashboard"]
    [("folder", .null), ("labels", .null)] fun a =>
    dashboardObject (a.get "name") (a.get "namespace") (a.get "dashboard") (a.get "folder")
      (a.get "labels"))]

/-- The builder of resources of rule files. -/
def ruleFileBuilder : Builder :=
  .of ["name", "namespace", "rule_file"] [("labels", .null)] fun a =>
    ofRuleFile (a.get "name") (a.get "namespace") (a.get "rule_file") (a.get "labels")

end MonitoringConfig.Operator
