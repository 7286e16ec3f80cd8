import MonitoringConfig.Projection.Read
import MonitoringConfig.Yaml.ToValue
/-!
# Reading documents

An entity is read from the text of a document: first its plain data, then the entity from those.
-/

namespace MonitoringConfig

/-- The failure of a document of an entity. -/
def Yaml.Fault.toFailure (kind : Kind) : Yaml.Fault → Failure
  | .malformed => .notYaml kind.name
  | .meaningless category => .plain category

/-- The text of a document, which may be given as bytes. -/
def Value.documentText : Value → Except Failure String
  | text s => .ok s
  | member _ s => .ok s
  | bytes data =>
    match String.fromUTF8? ⟨data.toArray⟩ with
    | some s => .ok s
    | none => .error (.plain .notUtf8)
  | _ => .error (.plain .noSuchMember)

/-- Reads an entity from the text of a document, or from its bytes. -/
def Entity.parse (kind : Kind) (document : Value) : Logged Value := do
  let text ← Logged.ofExcept document.documentText
  let data ← Logged.ofExcept ((Value.ofYaml text).mapError (·.toFailure kind))
  Entity.read kind data .snake

end MonitoringConfig
