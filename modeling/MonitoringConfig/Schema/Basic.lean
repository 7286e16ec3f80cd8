import MonitoringConfig.Text.Case
import MonitoringConfig.Value
/-!
# Fields and schemas

A schema is the list of the fields of a kind of entity, in the order in which they are written,
with what is said about each: its type, its default, and its key.

* `Style` is one of the two ways of writing keys; `camelCase` turns the one into the other.
* `Field.key` is the key of a field in a style.
-/

namespace MonitoringConfig

/-- The two ways of writing keys: `scrape_interval` and `scrapeInterval`. -/
inductive Style where
  | snake | camel
  deriving DecidableEq, Repr, Inhabited

/-- What a field is declared to hold. -/
inductive FieldType where
  /-- Anything, taken as it is. -/
  | any
  /-- One of several types, taken as it is; nothing is among them. -/
  | oneOf
  | text | flag | whole | real
  | duration | secret | matcher
  | choice (c : Choice)
  | entity (kind : Kind)
  | listOf (item : FieldType)
  | tupleOf (item : FieldType)
  | mapOf (item : FieldType)
  /-- A rule, of one sort or the other. -/
  | rule
  /-- A type whose values may be missing. -/
  | optional (type : FieldType)
  deriving DecidableEq, Repr, Inhabited

/-- Whether nothing is among the values of a type. -/
def FieldType.isOptional : FieldType → Bool
  | optional _ | oneOf => true
  | _ => false

/-- A field of an entity. -/
structure Field where
  name : String
  type : FieldType
  /-- The value of a field that is not given; a field without one must be given. -/
  default? : Option Value := none
  /-- Whether the field is written even when it is empty. -/
  always : Bool := false
  /-- The key in every style. -/
  key? : Option String := none
  /-- The key in the camel style. -/
  camel? : Option String := none
  deriving Repr, Inhabited

/-- The parts of a text between the characters equal to `separator`. -/
def splitAtChar (separator : Char) : List Char → List (List Char)
  | [] => [[]]
  | c :: cs =>
    if c == separator then [] :: splitAtChar separator cs
    else match splitAtChar separator cs with
      | [] => [[c]]
      | part :: parts => (c :: part) :: parts

/-- A text with its first character in upper case. -/
def capitalized : List Char → List Char
  | [] => []
  | c :: cs => Text.upperChar c ++ cs

/-- The camel style of a name: every part behind an underscore is capitalized. -/
def camelCase (name : String) : String :=
  match splitAtChar '_' name.toList with
  | [] => ""
  | head :: rest => String.ofList (head ++ rest.flatMap capitalized)

/-- A name without the underscores at its end. -/
def dropUnderscores (name : String) : String :=
  String.ofList (name.toList.reverse.dropWhile (· == '_')).reverse

/-- The key of a field in a style. -/
def Field.key (f : Field) (style : Style) : String :=
  let base := f.key?.getD (dropUnderscores f.name)
  match style with
  | .snake => base
  | .camel => f.camel?.getD (camelCase base)

/-- Whether a field must be given. -/
def Field.isRequired (f : Field) : Bool :=
  f.default?.isNone

/-- The envelope of a resource: the version of its interface and the name of its kind. -/
structure Envelope where
  apiVersion : String
  kind : String
  deriving DecidableEq, Repr, Inhabited

/-- What is said about a kind of entity. -/
structure Schema where
  fields : List Field
  /-- The style of the keys, wherever the entity stands; otherwise it is that of what it stands
  in. -/
  style? : Option Style := none
  envelope? : Option Envelope := none
  deriving Repr, Inhabited

namespace Field

/-- A text, empty by default. -/
def text (name : String) : Field :=
  { name, type := .text, default? := some (.text "") }

/-- A whole number, zero by default. -/
def whole (name : String) : Field :=
  { name, type := .whole, default? := some (.int 0) }

/-- A truth value, false by default. -/
def flag (name : String) : Field :=
  { name, type := .flag, default? := some (.bool false) }

/-- A list, empty by default. -/
def list (name : String) (item : FieldType) : Field :=
  { name, type := .listOf item, default? := some (.list []) }

/-- A mapping, empty by default. -/
def map (name : String) (item : FieldType) : Field :=
  { name, type := .mapOf item, default? := some (.map []) }

/-- A field that is nothing by default. -/
def optional (name : String) (type : FieldType) : Field :=
  { name, type := .optional type, default? := some .null }

/-- A field that must be given. -/
def required (name : String) (type : FieldType) : Field :=
  { name, type }

/-- The field written even when it is empty. -/
def kept (f : Field) : Field :=
  { f with always := true }

/-- The field with a key of its own in the camel style. -/
def withCamel (f : Field) (key : String) : Field :=
  { f with camel? := some key }

/-- The field with another default. -/
def withDefault (f : Field) (v : Value) : Field :=
  { f with default? := some v }

end Field

namespace Schema

/-- The style in force inside an entity, given the one around it. -/
def styleIn (s : Schema) (outer : Style) : Style :=
  s.style?.getD outer

/-- The entries that an envelope puts in front. -/
def envelopeEntries (s : Schema) : List (Value × Value) :=
  match s.envelope? with
  | some e => [(.text "apiVersion", .text e.apiVersion), (.text "kind", .text e.kind)]
  | none => []

/-- The position of a field. -/
def position? (s : Schema) (name : String) : Option Nat :=
  s.fields.findIdx? (·.name == name)

/-- The values of the fields of an entity of which nothing is given. -/
def defaults (s : Schema) : List Value :=
  s.fields.map fun f => f.default?.getD .null

/-- The names of the fields. -/
def names (s : Schema) : List String :=
  s.fields.map (·.name)

/-- The schema with some fields declared anew, each in its old place, and new fields behind. -/
def redeclare (s : Schema) (changed : List Field) : Schema :=
  let old := s.fields.map fun f => (changed.find? (·.name == f.name)).getD f
  { s with fields := old ++ changed.filter fun f => !s.names.contains f.name }

end Schema

end MonitoringConfig
