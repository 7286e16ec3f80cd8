import MonitoringConfig.Routing.Labels
import MonitoringConfig.Schema
/-!
# Inhibition

Alerts of one sort mute alerts of another while they have the same values for some labels.

* `Inhibition.inhibits` says whether one alert mutes another.
-/

namespace MonitoringConfig

/-- The alerts of one sort: those with given values of some labels for which all matchers hold. -/
structure AlertSort where
  values : Except Failure (List (Value × Value))
  matchers : List MatcherSlot

/-- A rule by which alerts mute others. -/
structure Inhibition where
  source : AlertSort
  target : AlertSort
  /-- The labels that both alerts must agree on. -/
  equal : Except Failure (List Value)

/-- Whether labels have the given values, looked at one after the other until one has not. -/
def haveValues (labels : Labels) : List (Value × Value) → Except Failure Bool
  | [] => .ok true
  | (key, v) :: rest => do
    if (← labels key).equal v then haveValues labels rest else return false

/-- Whether two label sets agree on labels, looked at one after the other until they do not. -/
def agreeOn (a b : Labels) : List Value → Except Failure Bool
  | [] => .ok true
  | key :: keys => do
    let x ← a key
    let y ← b key
    if x.equal y then agreeOn a b keys else return false

/-- Whether an alert is of a sort. -/
def AlertSort.has (s : AlertSort) (labels : Labels) : Except Failure Bool := do
  if ← haveValues labels (← s.values) then holdAll labels s.matchers else return false

namespace Inhibition

/-- Whether an alert mutes another. -/
def inhibits (r : Inhibition) (source target : Labels) : Except Failure Bool := do
  if ← r.source.has source then
    if ← r.target.has target then agreeOn source target (← r.equal) else return false
  else return false

/-- The entries of a value that is asked for them. -/
def entriesOf (v : Value) : Except Failure (List (Value × Value)) :=
  match v with
  | .map entries => .ok entries
  | _ => .error (.plain .noSuchMember)

/-- The rule that a value is. -/
def ofValue? : Value → Option Inhibition
  | .entity .inhibitRule [sourceMatchers, targetMatchers, equal, sourceValues, targetValues] =>
    some ⟨⟨entriesOf sourceValues, MatcherSlot.ofValue sourceMatchers⟩,
      ⟨entriesOf targetValues, MatcherSlot.ofValue targetMatchers⟩, equal.items⟩
  | _ => none

end Inhibition

end MonitoringConfig
