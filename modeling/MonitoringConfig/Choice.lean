import MonitoringConfig.Matcher
/-!
# Choices

A choice is a fixed list of texts of which a field takes one. Every member has a label besides its
text.
-/

namespace MonitoringConfig

/-- The choices that fields are declared with. -/
inductive Choice where
  | matchType | weekday | month | kubernetesRole | dnsRecordType | relabelAction
  deriving DecidableEq, Repr, Inhabited

namespace Choice

/-- All choices. -/
def all : List Choice :=
  [matchType, weekday, month, kubernetesRole, dnsRecordType, relabelAction]

/-- The name of a choice. -/
def name : Choice → String
  | matchType => "MatchType"
  | weekday => "Weekday"
  | month => "Month"
  | kubernetesRole => "KubernetesRole"
  | dnsRecordType => "DNSRecordType"
  | relabelAction => "RelabelAction"

/-- The texts of the weekdays, the first day of the week first. -/
def weekdays : List String :=
  ["sunday", "monday", "tuesday", "wednesday", "thursday", "friday", "saturday"]

/-- The texts of the months. -/
def months : List String :=
  ["january", "february", "march", "april", "may", "june", "july", "august", "september",
    "october", "november", "december"]

/-- The texts of a choice. -/
def texts : Choice → List String
  | matchType => MatchType.all.map MatchType.symbol
  | weekday => weekdays
  | month => months
  | kubernetesRole => ["node", "service", "pod", "endpoints", "endpointslice", "ingress"]
  | dnsRecordType => ["SRV", "A", "AAAA", "MX", "NS"]
  | relabelAction =>
    ["replace", "keep", "drop", "hashmod", "labelmap", "labeldrop", "labelkeep", "lowercase",
      "uppercase", "keepequal", "dropequal"]

/-- The label of the member with a text: the text in capital letters, unless it has none. -/
def label (c : Choice) (text : String) : String :=
  match c with
  | matchType =>
    match text with
    | "=" => "EQUAL"
    | "!=" => "NOT_EQUAL"
    | "=~" => "REGEX"
    | _ => "NOT_REGEX"
  | _ => text.map Char.toUpper

/-- Whether a text is a member of a choice. -/
def holds (c : Choice) (text : String) : Bool :=
  c.texts.contains text

/-- The member with a label, as it is named in full. -/
def labelled? (c : Choice) (name : String) : Option String :=
  c.texts.find? (c.label · == name)

end Choice

end MonitoringConfig
