import MonitoringConfig.Dashboard.Write
import MonitoringConfig.Settings
import MonitoringConfig.Yaml.OfValue
/-!
# Written entities

The texts of entities, as they stand in files. Writing says what it does: how much was written, or
that nothing could be.

* `Value.serialize` writes a value as YAML.
* `Value.toJson` writes it as JSON.
-/

namespace MonitoringConfig

open Logged

namespace Value

/-- A value as plain data, without a style of its own. -/
def toData (v : Value) : Value :=
  v.encode .snake

/-- The text of a value as it is, without making plain data of it first. -/
def dumpYaml (v : Value) (s : Settings) : Except Failure String :=
  v.writeYaml s.literalMultiline s.yamlWidth.toNat

/-- The event of a value that could not be written, for the given reason if it is known. -/
def failedEvent (kind : String) (reason? : Option String) : Event :=
  ⟨.error, "serialization_failed", ("kind", .text kind) ::
    (reason?.map fun r => ("error", Value.text r)).toList⟩

/-- The event of a text that was written. -/
def serializedEvent (kind : String) (text : String) : Event :=
  ⟨.debug, "serialized", [("kind", .text kind), ("size", .int text.utf8ByteSize)]⟩

/-- The YAML text of a value. -/
def serialize (v : Value) (s : Settings) : Logged String := do
  let kind := v.typeName
  if v.containsItself then
    say (failedEvent kind (some "recursion"))
    fail (.cyclic kind)
  else match v.toData.dumpYaml s with
    | .ok written =>
      say (serializedEvent kind written)
      return written
    | .error _ =>
      say (failedEvent kind none)
      fail (.unwritable kind)

/-- The YAML text of a value, where failing to write is a defect of the caller. -/
def mustSerialize (v : Value) (s : Settings) : Logged String :=
  let x := v.serialize s
  match x.result with
  | .ok _ => x
  | .error f =>
    ⟨x.events ++ [⟨.critical, "must_serialize_failed", [("kind", .text v.typeName)]⟩],
      .error (.gaveUp (f.message?.getD ""))⟩

/-- The plain data that JSON is written of: that of a dashboard is its document. -/
def jsonData (v : Value) : Except Failure Value :=
  match v with
  | .entity kind _ => if kind.isDashboard then Dashboard.document v else .ok v.toData
  | v => if v.containsItself then .error (.plain .tooDeep) else .ok v.toData

/-- The JSON text of a value. -/
def toJson (v : Value) (s : Settings) : Except Failure String := do
  match Json.write (Json.spaces s.jsonIndent) 0 (← v.jsonData) with
  | .ok written => .ok written
  | .error reason => .error (.notJson v.typeName reason)

end Value

end MonitoringConfig
