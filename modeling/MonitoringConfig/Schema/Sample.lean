import MonitoringConfig.Schema.Basic
/-!
# Sample entities

Entities with every kind of field, for looking at how fields are written and read.
-/

namespace MonitoringConfig.Schema

/-- A small entity without a style of its own. -/
def sampleInner : Schema where
  fields := [.list "source_labels" .text, .text "target_label"]

/-- An entity that is always written in the snake style. -/
def samplePinned : Schema where
  fields := [.text "keep_firing_for", .optional "inner_part" (.entity .sampleInner)]
  style? := some .snake

/-- An entity with a field of every type. -/
def sampleOuter : Schema where
  fields := [.required "job_name" .text, .optional "interval" .duration,
    .optional "honor_labels" .flag, .whole "limit",
    { name := "ratio", type := .real, default? := some (.float (.zero false)) },
    .text "class_", (Field.text "api_url").withCamel "apiURL",
    { Field.text "odd_name" with key? := some "odd-key" },
    { name := "wait", type := .duration, default? := some (.duration .zero) },
    { name := "token", type := .secret, default? := some (.secret ⟨""⟩) },
    .flag "flag", .map "labels" .text, .map "weights" .real,
    { name := "pair", type := .tupleOf .text, default? := some (.tuple []) },
    .list "steps" (.entity .sampleInner), .map "by_name" (.entity .sampleInner),
    .list "matchers" .matcher, .list "waits" .duration,
    { name := "either", type := .oneOf, default? := some .null },
    .optional "op" (.choice .matchType), .optional "pinned" (.entity .samplePinned),
    { name := "extra", type := .any, default? := some .null },
    (Field.list "keep" .text).kept]

/-- An entity that is always written in the camel style. -/
def sampleCamel : Schema where
  fields := [.required "job_name" .text, .list "steps" (.entity .sampleInner),
    .list "matchers" .matcher, .optional "pinned_part" (.entity .samplePinned)]
  style? := some .camel

end MonitoringConfig.Schema
