import MonitoringConfig.Number.Text
import MonitoringConfig.Text.Quoted
/-!
# Failures

Everything that can go wrong, by its cause. A failure has a category, and most have a message and
details, which are pairs of a name and a text.

* `Failure.message?` is the wording, the one place where a cause becomes text.
* `Failure.formatted?` is the message with its details behind it.
-/

namespace MonitoringConfig

/-- The kinds of failure that callers tell apart. -/
inductive Category where
  | library | validation | malformedDuration | malformedMatcher | serialization | fileWrite
  | wrongType | noSuchMember | missingKey | badValue | tooLarge | noSuchPosition
  | notUtf8 | notRepresentable | unknownZone | noSuchFile | isDirectory | notDirectory
  | alreadyExists | badName | badPattern
  | tooDeep | fatal
  deriving DecidableEq, Repr

/-- A cause of failure. -/
inductive Failure where
  /-- A failure of which only the category is known. -/
  | plain (category : Category)
  /-- Something else than a text, shown here, stands for a duration. -/
  | durationNotText (shown : String)
  /-- Nothing stands behind the sign of a duration. -/
  | emptyDuration (text : String)
  /-- From a position on, the text of a duration cannot be read. -/
  | malformedDuration (text : String) (position : Nat)
  /-- What is shown here is no matcher. -/
  | malformedMatcher (shown : String)
  /-- An entity was to be read from something that is no mapping. -/
  | notMapping (entity got : String)
  /-- A mapping lacks fields that an entity cannot do without. -/
  | missingFields (entity : String) (fields : List String)
  /-- A rule names neither what it records nor what it alerts; its keys are shown. -/
  | namelessRule (keys : String)
  /-- A resource of another kind was expected. -/
  | otherResource (expected got : String)
  /-- A value has no written form. -/
  | unwritable (entity : String)
  /-- A value contains itself. -/
  | cyclic (entity : String)
  /-- A value has no form as JSON. -/
  | notJson (entity reason : String)
  /-- A text is not YAML. -/
  | notYaml (entity : String)
  /-- Writing was given up because of a failure with a message. -/
  | gaveUp (message : String)
  /-- A file cannot be written. -/
  | fileWrite (path reason : String)
  /-- A time of day has no such text. -/
  | invalidTime (shown text : String)
  /-- A range of a calendar has no such text. -/
  | invalidRange (shown text : String)
  /-- A routing configuration names what it does not define. -/
  | invalidConfig (issues : List String)
  /-- What is shown here is no member of a choice. -/
  | notAMember (shown choice : String)
  /-- A value of a type that is no expression was used as one. -/
  | notAnExpression (typeName : String)
  /-- There is no such binary operator. -/
  | unknownOperator (shown : String)
  /-- Labels to match on and labels to ignore are both given. -/
  | bothLabelLists
  /-- Grouping to the left and grouping to the right are both asked for. -/
  | bothGroupings
  /-- Grouping is asked for without labels to match. -/
  | groupingWithoutLabels
  /-- A truth value is asked of an operator that compares nothing. -/
  | boolWithoutComparison (shown : String)
  /-- An aggregation keeps labels and drops labels at once. -/
  | bothAggregationLists (op : String)
  /-- A range selector has no window. -/
  | noWindow
  /-- Settings are rejected, each by the name of the field and the rule it breaks. -/
  | settings (issues : List (String × String))
  deriving DecidableEq, Repr

namespace Failure

/-- The category of a failure. -/
def category : Failure → Category
  | plain c => c
  | durationNotText _ | emptyDuration _ | malformedDuration .. => .malformedDuration
  | malformedMatcher _ => .malformedMatcher
  | notMapping .. | missingFields .. | namelessRule _ | otherResource .. | unwritable _ | cyclic _
  | notJson .. | notYaml _ => .serialization
  | gaveUp _ => .fatal
  | fileWrite .. => .fileWrite
  | invalidTime .. | invalidRange .. | invalidConfig _ | settings _ => .validation
  | notAMember .. | unknownOperator _ | bothLabelLists | bothGroupings | groupingWithoutLabels
  | boolWithoutComparison _ | bothAggregationLists _ | noWindow => .badValue
  | notAnExpression _ => .wrongType

/-- Names in quotes, as they are listed: `'a'`, `'a' and 'b'`, `'a', 'b', and 'c'`. -/
def listed : List String → String
  | [] => ""
  | [a] => Text.quoted a
  | [a, b] => Text.quoted a ++ " and " ++ Text.quoted b
  | names =>
    ", ".intercalate (names.dropLast.map Text.quoted) ++ ", and "
      ++ Text.quoted (names.getLastD "")

/-- What is wrong with an entity that lacks fields. -/
def missingReason (entity : String) (fields : List String) : String :=
  entity ++ ".__init__() missing " ++ String.ofList (digitsText fields.length)
    ++ " required positional argument" ++ (if fields.length == 1 then "" else "s") ++ ": "
    ++ listed fields

/-- The message of a failure, unless it has none. -/
def message? : Failure → Option String
  | plain _ | settings _ => none
  | durationNotText _ => some "Duration must be a string"
  | emptyDuration _ => some "Empty duration"
  | malformedDuration text _ => some ("Malformed duration " ++ Text.quoted text)
  | malformedMatcher shown => some ("Malformed matcher " ++ shown)
  | notMapping entity _ => some ("Expected a mapping for " ++ entity)
  | missingFields entity fields =>
    some ("Cannot build " ++ entity ++ " from mapping: " ++ missingReason entity fields)
  | namelessRule _ => some "Rule has neither 'record' nor 'alert'"
  | otherResource expected got => some ("Expected kind " ++ expected ++ ", got " ++ got)
  | unwritable entity => some ("Cannot serialize " ++ entity)
  | cyclic entity => some ("Cannot serialize " ++ entity ++ ": cyclic graph")
  | notJson entity reason => some ("Cannot encode " ++ entity ++ " as JSON: " ++ reason)
  | notYaml entity => some ("Invalid YAML for " ++ entity)
  | gaveUp message => some ("must_serialize: " ++ message)
  | fileWrite path reason => some ("Cannot write " ++ path ++ ": " ++ reason)
  | invalidTime shown _ => some ("Invalid time " ++ shown)
  | invalidRange shown _ => some ("Invalid range " ++ shown)
  | invalidConfig _ => some "Invalid Alertmanager config"
  | notAMember shown choice => some (shown ++ " is not a valid " ++ choice)
  | notAnExpression typeName => some ("Cannot use " ++ typeName ++ " as a PromQL expression")
  | unknownOperator shown => some ("Unknown binary operator " ++ shown)
  | bothLabelLists => some "'on' and 'ignoring' are mutually exclusive"
  | bothGroupings => some "'group_left' and 'group_right' are mutually exclusive"
  | groupingWithoutLabels => some "group modifiers require 'on' or 'ignoring'"
  | boolWithoutComparison shown => some ("'bool' only applies to comparisons, not " ++ shown)
  | bothAggregationLists op => some (op ++ ": 'by' and 'without' are mutually exclusive")
  | noWindow => some "Range vector requires a window"

/-- The details of a failure: what each is called, and its text. -/
def details : Failure → List (String × String)
  | durationNotText shown => [("value", shown)]
  | emptyDuration text => [("value", text)]
  | malformedDuration text position =>
    [("value", text), ("position", String.ofList (digitsText position))]
  | malformedMatcher shown => [("value", shown)]
  | notMapping _ got => [("got", got)]
  | missingFields entity _ => [("entity", entity)]
  | namelessRule keys => [("keys", keys)]
  | otherResource _ got => [("kind", got)]
  | cyclic entity => [("kind", entity)]
  | notJson entity _ => [("kind", entity)]
  | fileWrite path _ => [("path", path)]
  | invalidTime _ text => [("value", text)]
  | invalidRange _ text => [("value", text)]
  | invalidConfig issues => [("issues", "; ".intercalate issues)]
  | _ => []

/-- A message with details behind it. -/
def withDetails (message : String) (details : List (String × String)) : String :=
  if details.isEmpty then message
  else message ++ " (" ++ ", ".intercalate (details.map fun (k, v) => k ++ "=" ++ v) ++ ")"

/-- Whether a failure belongs to the library, so that its message is shown with details. -/
def isOwn (f : Failure) : Bool :=
  match f.category with
  | .library | .validation | .malformedDuration | .malformedMatcher | .serialization
  | .fileWrite => true
  | _ => false

/-- The message of a failure with its details, for failures of the library whose cause is known in
full. -/
def formatted? (f : Failure) : Option String :=
  match f with
  | unwritable _ | notYaml _ | settings _ => none
  | f => if f.isOwn then f.message?.map (withDetails · f.details) else none

end Failure

end MonitoringConfig
