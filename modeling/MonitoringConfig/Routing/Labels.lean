import MonitoringConfig.Pattern.Match
import MonitoringConfig.Pattern.Read
import MonitoringConfig.Value.Order
/-!
# Label sets

What an alert says of itself. A label that is missing counts as the empty text.

* `Matcher.holds` asks one matcher about a label set, and `holdAll` asks several.
-/

namespace MonitoringConfig

/-- The value of every label, if it can be told. -/
abbrev Labels := Value → Except Failure Value

namespace Labels

/-- The label set of a mapping of labels to values. -/
def ofEntries (entries : List (Value × Value)) : Labels := fun key =>
  if key.canBeKey then .ok ((Value.lookup? key entries).getD (.text ""))
  else .error (.plain .wrongType)

/-- The label set that a value is; one that is no mapping cannot tell the value of a label. -/
def ofValue : Value → Labels
  | .map entries => ofEntries entries
  | _ => fun _ => .error (.plain .noSuchMember)

end Labels

namespace Matcher

/-- Whether a value matches a pattern as a whole. -/
def valueMatches (pattern : String) (v : Value) : Except Failure Bool := do
  let p ← Pattern.read pattern
  match v.asText? with
  | some s => return p.matchesAll s
  | none => .error (.plain .wrongType)

/-- Whether a matcher holds of a label set. -/
def holds (m : Matcher) (labels : Labels) : Except Failure Bool := do
  let actual ← labels (.text m.name)
  match m.op with
  | .equal => return actual.equal (.text m.value)
  | .notEqual => return !actual.equal (.text m.value)
  | .regex => valueMatches m.value actual
  | .notRegex => (valueMatches m.value actual).map (!·)

end Matcher

/-- What stands among matchers: a matcher, or the failure of looking at something else. -/
abbrev MatcherSlot := Except Failure Matcher

/-- The matchers that a value is. -/
def MatcherSlot.ofValue (v : Value) : List MatcherSlot :=
  match v.items with
  | .ok items => items.map fun item =>
      match item with
      | .matcher m => .ok m
      | _ => .error (.plain .noSuchMember)
  | .error f => [.error f]

/-- Whether all matchers hold of a label set, asked one after the other until one does not. -/
def holdAll (labels : Labels) : List MatcherSlot → Except Failure Bool
  | [] => .ok true
  | slot :: slots => do
    let m ← slot
    if ← m.holds labels then holdAll labels slots else return false

end MonitoringConfig
