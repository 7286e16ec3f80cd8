import MonitoringConfig.Builder.Arguments
/-!
# Steps of relabelling

Builders for the usual steps: targets are kept or dropped by a label or by an annotation, and labels
are copied, hashed, renamed or removed.
-/

namespace MonitoringConfig.Relabel

/-- A name as it stands in the names of labels found in discovery: dots, slashes and dashes become
underscores. -/
def sanitize (name : String) : String :=
  name.map fun c => if c == '.' || c == '/' || c == '-' then '_' else c

/-- The text that a name is. -/
def nameText (v : Value) : Except Failure String :=
  match v.asText? with
  | some s => .ok s
  | none => .error (.plain .wrongType)

/-- The label that holds an annotation of a container group. -/
def annotationLabel (v : Value) : Except Failure Value := do
  return .text ("__meta_kubernetes_pod_annotation_" ++ sanitize (← nameText v))

/-- The label that holds a label of a container group. -/
def podLabel (v : Value) : Except Failure Value := do
  return .text ("__meta_kubernetes_pod_label_" ++ sanitize (← nameText v))

/-- An action of a step. -/
def action (name : String) : String × Value :=
  ("action", .member .relabelAction name)

/-- A step with an action. -/
def step (name : String) (given : List (String × Value)) : Except Failure Value :=
  Entity.of .relabelConfig (action name :: given)

/-- A step on one label and a pattern. -/
def byLabel (name : String) (label regex : Value) : Except Failure Value :=
  step name [("source_labels", .list [label]), ("regex", regex)]

/-- A step from one label to another. -/
def fromTo (name : String) (source target : Value) : Except Failure Value :=
  step name [("source_labels", .list [source]), ("target_label", target)]

/-- The builders of steps, by name. -/
def builders : List (String × Builder) := [
  ("sanitize_annotation", .of ["name"] [] fun a => do
    return .text (sanitize (← nameText (a.get "name")))),
  ("keep_by_label", .of ["label", "regex"] [] fun a =>
    byLabel "keep" (a.get "label") (a.get "regex")),
  ("drop_by_label", .of ["label", "regex"] [] fun a =>
    byLabel "drop" (a.get "label") (a.get "regex")),
  ("label_from_meta", .of ["meta_label", "target"] [] fun a =>
    fromTo "replace" (a.get "meta_label") (a.get "target")),
  ("rename_label", .of ["source", "target"] [] fun a =>
    fromTo "replace" (a.get "source") (a.get "target")),
  ("replace", .of ["source_labels", "regex", "target", "replacement"] [] fun a => do
    let labels ← (a.get "source_labels").items
    step "replace" [("source_labels", .list labels), ("regex", a.get "regex"),
      ("target_label", a.get "target"), ("replacement", a.get "replacement")]),
  ("drop_labels", .of ["regex"] [] fun a => step "labeldrop" [("regex", a.get "regex")]),
  ("keep_labels", .of ["regex"] [] fun a => step "labelkeep" [("regex", a.get "regex")]),
  ("label_map", .of ["regex"] [("replacement", .text "$1")] fun a =>
    step "labelmap" [("regex", a.get "regex"), ("replacement", a.get "replacement")]),
  ("hash_mod", .of ["source_labels", "modulus"] [("target", .text "__tmp_hash")] fun a => do
    step "hashmod" [("source_labels", .list (← (a.get "source_labels").items)),
      ("modulus", a.get "modulus"), ("target_label", a.get "target")]),
  ("lowercase", .of ["source", "target"] [] fun a =>
    fromTo "lowercase" (a.get "source") (a.get "target")),
  ("uppercase", .of ["source", "target"] [] fun a =>
    fromTo "uppercase" (a.get "source") (a.get "target")),
  ("keep_equal", .of ["source", "target"] [] fun a =>
    fromTo "keepequal" (a.get "source") (a.get "target")),
  ("drop_equal", .of ["source", "target"] [] fun a =>
    fromTo "dropequal" (a.get "source") (a.get "target")),
  ("drop_metrics", .of ["regex"] [] fun a => byLabel "drop" (.text "__name__") (a.get "regex")),
  ("keep_metrics", .of ["regex"] [] fun a => byLabel "keep" (.text "__name__") (a.get "regex")),
  ("keep_by_annotation", .of ["annotation"] [("value", .text "true")] fun a => do
    byLabel "keep" (← annotationLabel (a.get "annotation")) (a.get "value")),
  ("set_from_annotation", .of ["annotation", "target"] [] fun a => do
    step "replace" [("source_labels", .list [← annotationLabel (a.get "annotation")]),
      ("regex", .text "(.+)"), ("target_label", a.get "target")]),
  ("keep_by_pod_label", .of ["label", "value"] [] fun a => do
    byLabel "keep" (← podLabel (a.get "label")) (a.get "value")),
  ("set_port", .of ["annotation"] [] fun a => do
    step "replace" [
      ("source_labels", .list [← annotationLabel (a.get "annotation"),
        .text "__meta_kubernetes_pod_ip"]),
      ("separator", .text ":"), ("regex", .text "(.+):(.+)"), ("target_label", .text "__address__"),
      ("replacement", .text "$2:$1")])]

end MonitoringConfig.Relabel
