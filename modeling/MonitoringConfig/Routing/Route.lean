import MonitoringConfig.Routing.Labels
import MonitoringConfig.Schema
/-!
# The routing tree

An alert enters the tree at the root. It goes down into every child whose matchers hold, up to the
first that does not let it go on to its siblings, and is handled where no child takes it. What a
route does not say about notification it takes from the route above it.

* `Route.handling` are the routes that handle an alert, with what is in force there.
* `Route.walk` are all routes, each before its children.
-/

namespace MonitoringConfig

/-- What a route says itself about notification. -/
structure RouteSettings where
  receiver : Value
  groupBy : Value
  groupWait : Value
  groupInterval : Value
  repeatInterval : Value
  muted : Value
  active : Value
  deriving Repr, Inhabited

/-- A route and the routes below it. -/
inductive Route where
  | node (own : RouteSettings) (matchers : List MatcherSlot) (goesOn : Bool)
      (children : List Route)
  /-- Something else in the place of a route, with the failure of looking at it. -/
  | broken (cause : Failure)
  deriving Inhabited

/-- A route that handles an alert: where it stands below the root, and what is in force there. -/
structure Handler where
  path : List Nat
  receiver : Value
  groupBy : List Value
  groupWait : Value
  groupInterval : Value
  repeatInterval : Value
  muted : List Value
  active : List Value
  deriving Repr, Inhabited

namespace RouteSettings

/-- How long the first notification of a group waits, unless a route says it. -/
def defaultWait : Value := .duration (.of 0 0 0 30 0)

/-- How long further notifications of a group wait, unless a route says it. -/
def defaultInterval : Value := .duration (.of 0 0 5 0 0)

/-- After how long a notification is repeated, unless a route says it. -/
def defaultRepeat : Value := .duration (.of 0 4 0 0 0)

/-- A time that a route says itself, or the one in force above it. A time of zero is said. -/
def timing (own above : Value) : Value :=
  if own.isNull then above else own

/-- What is in force at a route, given what is in force above it. -/
def resolve (s : RouteSettings) (above? : Option Handler) (path : List Nat) :
    Except Failure Handler := do
  let groupBy ← if s.groupBy.isTruthy then s.groupBy.items
    else pure ((above?.map (·.groupBy)).getD [])
  let muted ← s.muted.items
  let active ← s.active.items
  return {
    path
    receiver := if s.receiver.isTruthy then s.receiver
      else (above?.map (·.receiver)).getD (.text "")
    groupBy
    groupWait := timing s.groupWait ((above?.map (·.groupWait)).getD defaultWait)
    groupInterval := timing s.groupInterval ((above?.map (·.groupInterval)).getD defaultInterval)
    repeatInterval := timing s.repeatInterval ((above?.map (·.repeatInterval)).getD defaultRepeat)
    muted
    active }

end RouteSettings

namespace Route

/-- Whether an alert that a route has taken goes on to its siblings. -/
def letsGoOn : Route → Bool
  | node _ _ goesOn _ => goesOn
  | broken _ => false

mutual

/-- The routes in a tree that handle an alert, given what is in force above the tree. -/
def handlingBelow (labels : Labels) (above? : Option Handler) (path : List Nat) :
    Route → Except Failure (List Handler)
  | broken cause => .error cause
  | node own matchers _ children => do
    if ← holdAll labels matchers then
      let here ← own.resolve above? path
      let found ← handlingAmong labels here 0 children
      return if found.isEmpty then [here] else found
    else return []

/-- The routes below the children of a route that handle an alert; `index` is the number of the
first of them. -/
def handlingAmong (labels : Labels) (above : Handler) (index : Nat) :
    List Route → Except Failure (List Handler)
  | [] => .ok []
  | child :: rest => do
    let found ← handlingBelow labels (some above) (above.path ++ [index]) child
    if !found.isEmpty && !child.letsGoOn then return found
    else return found ++ (← handlingAmong labels above (index + 1) rest)

end

/-- The routes that handle an alert. -/
def handling (r : Route) (labels : Labels) : Except Failure (List Handler) :=
  r.handlingBelow labels none []

/-- The receivers that are notified of an alert. -/
def receivers (r : Route) (labels : Labels) : Except Failure (List Value) :=
  (r.handling labels).map (·.map (·.receiver))

mutual

/-- All routes of a tree, each before its children. -/
def walk : Route → List (Except Failure RouteSettings)
  | broken cause => [.error cause]
  | node own _ _ children => .ok own :: walkAll children

/-- All routes of several trees. -/
def walkAll : List Route → List (Except Failure RouteSettings)
  | [] => []
  | r :: rs => walk r ++ walkAll rs

end

/-- What stands in the place of the children of a route that are no list. -/
def noChildren (v : Value) : List Route :=
  match v.items with
  | .ok items => items.map fun _ => broken (.plain .noSuchMember)
  | .error f => [broken f]

mutual

/-- The routing tree that a value is. -/
def ofValue : Value → Route
  | .entity .route [receiver, groupBy, groupWait, groupInterval, repeatInterval, matchers,
      goesOn, children, muted, active] =>
    node ⟨receiver, groupBy, groupWait, groupInterval, repeatInterval, muted, active⟩
      (MatcherSlot.ofValue matchers) goesOn.isTruthy
      (match children with
        | .list items => ofValues items
        | .tuple items => ofValues items
        | other => noChildren other)
  | _ => broken (.plain .noSuchMember)

/-- The routing trees that values are. -/
def ofValues : List Value → List Route
  | [] => []
  | v :: vs => ofValue v :: ofValues vs

end

end Route

/-- The route at a path below a route. -/
def Value.routeAt (v : Value) : List Nat → Value
  | [] => v
  | i :: path =>
    match (v.field? "routes").bind Value.items? with
    | some items => ((items[i]?).map fun child => child.routeAt path).getD .null
    | none => .null

end MonitoringConfig
