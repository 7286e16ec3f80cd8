import MonitoringConfig.Method.Expr
import MonitoringConfig.Method.Scalar
/-!
# The methods of values

`Value.method?` finds the method of a value with a name. The fields of an entity can be asked for
like methods without parameters.
-/

namespace MonitoringConfig.Value

/-- The methods of a value, apart from the fields of entities. -/
def methods : Value → List (String × Method)
  | duration _ => Method.duration
  | timeSpan _ => Method.timeSpan
  | secret _ => Method.secret
  | matcher _ => Method.matcher
  | member .. => Method.member
  | error .. => Method.error
  | expr e => Promql.methods e
  | entity kind _ => Method.ofKind kind
  | _ => []

/-- The method of a value with a name. -/
def method? (v : Value) (name : String) : Option Method :=
  match v.methods.lookup name with
  | some m => some m
  | none => (v.field? name).map fun w => .property fun _ => .ok w

/-- Calls the method of a value with a name. -/
def callMethod (v : Value) (name : String) (args : List Value) (given : List (String × Value)) :
    Logged Reply :=
  match v.method? name with
  | some m => m.call v args given
  | none => .failPlain .noSuchMember

end MonitoringConfig.Value
