import MonitoringConfig.Logged
import MonitoringConfig.Routing.Route
/-!
# Checking a routing configuration

A routing configuration names receivers and time intervals in its routes. `RoutingConfig.issues`
lists the names that are given twice or not defined.
-/

namespace MonitoringConfig

open Logged

/-- A routing configuration, as far as it is checked: what it defines, and its routes. -/
structure RoutingConfig where
  receivers : Value
  route : Value
  mutedTimes : Value
  activeTimes : Value
  deriving Repr, Inhabited

namespace RoutingConfig

/-- The names of parts of a configuration. -/
def namesOf (v : Value) : Except Failure (List Value) := do
  (← v.items).mapM (·.field "name")

/-- The names that are given more than once, each once. -/
def repeatedNames (names : List Value) : List Value :=
  (names.filter fun n => 1 < names.countP n.equal).foldl
    (fun seen n => if n.isAmong seen then seen else seen ++ [n]) []

/-- The issues of names that are given more than once. -/
def repeatIssues (names : List Value) : Except Failure (List String) := do
  let repeated := repeatedNames names
  if !Value.canBeKeys repeated then .error (.plain .wrongType)
  else match Value.sort? repeated with
    | some sorted => return sorted.map fun n => "duplicate receiver " ++ n.quoted
    | none => .error (.plain .wrongType)

/-- The names of time intervals, which must be fit for being looked up. -/
def intervalNames (v : Value) : Except Failure (List Value) := do
  let names ← namesOf v
  if Value.canBeKeys names then return names else .error (.plain .wrongType)

/-- The issues of the time intervals that a route names. -/
def intervalIssues (defined : List Value) : List Value → Except Failure (List String)
  | [] => .ok []
  | name :: names => do
    if !name.canBeKey then .error (.plain .wrongType)
    let rest ← intervalIssues defined names
    if name.isAmong defined then return rest
    else return ("route references undefined time interval " ++ name.quoted) :: rest

/-- The issues of the receiver that a route names. -/
def receiverIssues (defined : List Value) (name : Value) : List String :=
  if name.isTruthy && !name.isAmong defined then
    ["route references undefined receiver " ++ name.quoted]
  else []

/-- The issues of one route. -/
def routeIssues (receivers intervals : List Value) (r : RouteSettings) :
    Except Failure (List String) := do
  return receiverIssues receivers r.receiver
    ++ (← intervalIssues intervals (← (← r.muted.joined r.active).items))

/-- The issues of routes, looked at one after the other. -/
def routesIssues (receivers intervals : List Value) :
    List (Except Failure RouteSettings) → Except Failure (List String)
  | [] => .ok []
  | r :: rs => do
    let here ← routeIssues receivers intervals (← r)
    return here ++ (← routesIssues receivers intervals rs)

/-- What is wrong with a configuration. -/
def issues (c : RoutingConfig) : Except Failure (List String) := do
  let names ← namesOf c.receivers
  let repeated ← repeatIssues names
  if c.route.isNull then return repeated ++ ["missing root route"]
  else
    let receiver ← c.route.field "receiver"
    let unnamed := if receiver.isTruthy then [] else ["root route has no receiver"]
    let intervals := (← intervalNames c.mutedTimes) ++ (← intervalNames c.activeTimes)
    return repeated ++ unnamed
      ++ (← routesIssues names intervals (Route.ofValue c.route).walk)

/-- The event of something that is wrong. -/
def issueEvent (issue : String) : Event :=
  ⟨.warning, "alertmanager_config_issue", [("issue", .text issue)]⟩

/-- Checks a configuration; what is wrong is logged. -/
def validate (c : RoutingConfig) : Logged Unit := do
  let issues ← ofExcept c.issues
  if issues.isEmpty then return ()
  else ⟨issues.map issueEvent, .error (.invalidConfig issues)⟩

/-- The configuration that a value is. -/
def ofValue? : Value → Option RoutingConfig
  | .entity .routingConfig [_, route, receivers, _, muted, active, _] =>
    some ⟨receivers, route, muted, active⟩
  | _ => none

/-- The part of a list with a name. -/
def findNamed (parts : Value) (name : Value) : Except Failure Value := do
  let rec find : List Value → Except Failure Value
    | [] => .ok .null
    | v :: vs => do if (← v.field "name").equal name then return v else find vs
  find (← parts.items)

end RoutingConfig

end MonitoringConfig
