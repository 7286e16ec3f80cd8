import MonitoringConfig.Logged
import MonitoringConfig.Projection.Wire
/-!
# Entities from plain data

* `Entity.make?` makes an entity of the values of its fields. Texts that are given for durations,
  secrets and matchers are read, and the expression of a rule becomes its text.
* `Value.decode` reads a value of a declared type from plain data; `Entity.read` reads an entity
  from a mapping. Keys that the entity does not have are passed over, which is logged.

Reading follows the data: every part of a value becomes a `Decoder`, which reads it once its type is
known.
-/

namespace MonitoringConfig

open Logged

/-! ### Making entities -/

/-- A value for a field of a declared type: texts and time spans given for durations, secrets and
matchers are read. -/
def FieldType.coerce : FieldType → Value → Except Failure Value
  | _, .null => .ok .null
  | .optional t, v => t.coerce v
  | .listOf t, .list items => (items.mapM t.coerce).map .list
  | .duration, v => readWire v fun v => (Duration.ofValue v).map .duration
  | .secret, v => readWire v fun v => .ok (.secret (.ofValue v))
  | .matcher, v => readWire v fun v => (Matcher.ofValue v).map .matcher
  | _, v => .ok v
where
  /-- Reads texts and time spans, and leaves other values as they are. -/
  readWire (v : Value) (read : Value → Except Failure Value) : Except Failure Value :=
    match v with
    | .text _ | .member .. | .timeSpan _ => read v
    | v => .ok v

/-- The values of fields, each for the type of its field. -/
def coerceFields : List Field → List Value → Except Failure (List Value)
  | f :: fs, v :: vs => do
    let w ← f.type.coerce v
    return w :: (← coerceFields fs vs)
  | _, _ => .ok []

/-- A value in place of which an expression is written. -/
def renderExpr : Value → Except Failure Value
  | .expr e => e.written?.map .text
  | v => .ok v

namespace Entity

/-- The name of the field of a kind in which expressions are written. -/
def exprField? : Kind → Option String
  | .recordingRule | .alertingRule => some "expr"
  | _ => none

/-- The entity with the given values of its fields. -/
def make? (kind : Kind) (fields : List Value) : Except Failure Value := do
  let fields ← match exprField? kind with
    | none => pure fields
    | some name => (kind.schema.fields.zip fields).mapM fun (f, v) =>
        if f.name == name then renderExpr v else pure v
  if kind.isProjected then return .entity kind (← coerceFields kind.schema.fields fields)
  else return .entity kind fields

/-- The fields of a kind that must be given and are not among the given ones. -/
def missing (kind : Kind) (given : List (String × Value)) : List String :=
  (kind.schema.fields.filter fun f => f.isRequired && (given.lookup f.name).isNone).map (·.name)

/-- The values of the fields of a kind, those that are not given at their defaults. -/
def complete (kind : Kind) (given : List (String × Value)) : List Value :=
  kind.schema.fields.map fun f => (given.lookup f.name).getD (f.default?.getD .null)

end Entity

/-! ### Reading -/

/-- Reads a part of the data as a value of a type, in a style. -/
abbrev Decoder := FieldType → Style → Logged Value

/-- An entry of a mapping with the ways to read its key and its value. -/
structure DecodedEntry where
  key : Value
  value : Value
  readKey : Decoder
  read : Decoder

/-- Reads a value as it is declared, the types with parts apart. -/
def decodeScalar (v : Value) : FieldType → Logged Value
  | .duration => ofExcept ((Duration.ofValue v).map .duration)
  | .secret => .value (.secret (.ofValue v))
  | .matcher => ofExcept ((Matcher.ofValue v).map .matcher)
  | .choice c => ofExcept (c.memberOf v)
  | .text =>
    match v with
    | .int n => .value (.text (intText n))
    | .float x => .value (.text x.text)
    | v => .value v
  | .real =>
    match v with
    | .int n =>
      let x := Binary64.ofInt n
      if x.isFinite then .value (.float x) else failPlain .tooLarge
    | v => .value v
  | _ => .value v

namespace Entity

/-- The event of keys that are passed over. -/
def unknownKeysEvent (kind : Kind) (keys : List String) : Event :=
  ⟨.debug, "ignored_unknown_keys", [("entity", .text kind.name), ("keys", .texts keys)]⟩

/-- The entry of a key, unless its value is nothing. -/
def entry? (entries : List DecodedEntry) (key : String) : Option DecodedEntry :=
  (entries.find? fun e => e.key.equal (.text key)).filter fun e => !e.value.isNull

/-- Reads the fields that have an entry, in the order of the schema. -/
def readFields (entries : List DecodedEntry) (style : Style) :
    List Field → Logged (List (String × Value))
  | [] => .value []
  | f :: fs =>
    match entry? entries (f.key style) with
    | none => readFields entries style fs
    | some e => do
      let v ← e.read f.type style
      return (f.name, v) :: (← readFields entries style fs)

/-- Makes an entity of the fields that were read. -/
def finish (kind : Kind) (given : List (String × Value)) : Logged Value :=
  match missing kind given with
  | [] => ofExcept (make? kind (complete kind given))
  | names => fail (.missingFields kind.name names)

/-- Checks that the envelope of a mapping is that of the kind. -/
def checkEnvelope (kind : Kind) (entries : List DecodedEntry) : Except Failure Unit :=
  match kind.schema.envelope?, entry? entries "kind" with
  | some envelope, some e =>
    if e.value.isTruthy && !e.value.equal (.text envelope.kind) then
      .error (.otherResource envelope.kind e.value.shown)
    else .ok ()
  | _, _ => .ok ()

/-- The entries of a mapping without those of an envelope. -/
def dropEnvelope (kind : Kind) (entries : List DecodedEntry) : List DecodedEntry :=
  if kind.schema.envelope?.isSome then
    entries.filter fun e => !(e.key.equal (.text "apiVersion") || e.key.equal (.text "kind"))
  else entries

/-- The rules of a group; what counts as false is no rules. -/
def readRules (entries : List DecodedEntry) (style : Style) : Logged Value :=
  match entry? entries "rules" with
  | some e => if e.value.isTruthy then e.read (.listOf .rule) style else .value (.list [])
  | none => .value (.list [])

/-- Reads an entity from the entries of a mapping. The rules of a group are read before the rest of
it. -/
def readEntries (kind : Kind) (entries : List DecodedEntry) (outer : Style) : Logged Value := do
  ofExcept (checkEnvelope kind entries)
  let entries := dropEnvelope kind entries
  let style := kind.schema.styleIn outer
  let fields := kind.schema.fields
  let first ← if kind == .ruleGroup then (readRules entries style).map fun v => [("rules", v)]
    else pure []
  let given ← readFields entries style (fields.filter fun f => (first.lookup f.name).isNone)
  let known := fields.map fun f => f.key style
  let unknown := (entries.filter fun e => !(known.any fun k => e.key.equal (.text k))).map
    fun e => e.key.shown
  if !unknown.isEmpty then say (unknownKeysEvent kind (Value.sortTexts unknown))
  finish kind (first ++ given)

end Entity

/-- The pieces of one list inside another. -/
def isInfix (part : List Char) : List Char → Bool
  | [] => part.isEmpty
  | c :: cs => part.isPrefixOf (c :: cs) || isInfix part cs

/-- Whether a name stands in a value: as a key, as an item, or as a part of a text. -/
def Value.mentions? (v : Value) (name : String) : Option Bool :=
  match v with
  | .map entries => some (entries.any fun (k, _) => k.equal (.text name))
  | .list items | .tuple items | .set items =>
    some (items.any fun item => item.equal (.text name))
  | .text s | .member _ s => some (isInfix name.toList s.toList)
  | _ => none

/-- Reads a rule, of the sort that it names. -/
def readRule (v : Value) (entries? : Option (List DecodedEntry)) : Logged Value :=
  let read (kind : Kind) : Logged Value :=
    match entries? with
    | some entries => Entity.readEntries kind entries .snake
    | none => fail (.notMapping kind.name v.typeName)
  match v.mentions? "alert", v.mentions? "record" with
  | some true, _ => read .alertingRule
  | some false, some true => read .recordingRule
  | some false, _ =>
    match v.items?.bind Value.sort? with
    | some keys => fail (.namelessRule (Value.list keys).quoted)
    | none => failPlain .wrongType
  | none, _ => failPlain .wrongType

/-- Reads a value of a type, given how its items and entries are read, if it has any. -/
def decodeBy (v : Value) (items? : Option (List Decoder)) (entries? : Option (List DecodedEntry)) :
    FieldType → Style → Logged Value
  | .optional t, style => decodeBy v items? entries? t style
  | .listOf t, style =>
    match items? with
    | some items => do return .list (← Logged.all (items.map fun read => read t style))
    | none => failPlain .wrongType
  | .tupleOf t, style =>
    match items? with
    | some items => do return .tuple (← Logged.all (items.map fun read => read t style))
    | none => failPlain .wrongType
  | .mapOf t, style =>
    match entries? with
    | some entries => do
      let values ← Logged.all (entries.map fun e =>
        (e.read t style).map fun w => (Value.text e.key.shown, w))
      return .map (Value.insertEntries [] values)
    | none => failPlain .noSuchMember
  | .entity kind, style =>
    match entries? with
    | some entries => Entity.readEntries kind entries style
    | none => fail (.notMapping kind.name v.typeName)
  | .rule, _ => readRule v entries?
  | t, _ => decodeScalar v t

/-- Reads a text of a type; as a list it is the list of its characters. -/
def decodeText (v : Value) (cs : List Char) : FieldType → Style → Logged Value
  | .optional t, style => decodeText v cs t style
  | .listOf t, style => do
    return .list (← Logged.all (cs.map fun c =>
      decodeText (.text (String.singleton c)) [c] t style))
  | .tupleOf t, style => do
    return .tuple (← Logged.all (cs.map fun c =>
      decodeText (.text (String.singleton c)) [c] t style))
  | t, style => decodeBy v none none t style

namespace Value

mutual

/-- Reads a value from plain data. -/
def decode : Value → Decoder
  | .null => fun t _ => match t with
    | .rule => failPlain .wrongType
    | _ => .value .null
  | .list items => decodeBy (.list items) (some (decodeItems items)) none
  | .tuple items => decodeBy (.tuple items) (some (decodeItems items)) none
  | .set items => decodeBy (.set items) (some (decodeItems items)) none
  | .map entries =>
    decodeBy (.map entries) (some (decodeKeys entries)) (some (decodeEntries entries))
  | .text s => decodeText (.text s) s.toList
  | .member c s => decodeText (.member c s) s.toList
  | .bytes data =>
    decodeBy (.bytes data) (some (data.map fun b => decodeBy (.int b.toNat) none none)) none
  | v => decodeBy v none none

/-- The ways to read the items of a list. -/
def decodeItems : List Value → List Decoder
  | [] => []
  | v :: vs => decode v :: decodeItems vs

/-- The ways to read the keys of a mapping, which are its items. -/
def decodeKeys : List (Value × Value) → List Decoder
  | [] => []
  | (k, _) :: rest => decode k :: decodeKeys rest

/-- The ways to read the entries of a mapping. -/
def decodeEntries : List (Value × Value) → List DecodedEntry
  | [] => []
  | (k, v) :: rest => ⟨k, v, decode k, decode v⟩ :: decodeEntries rest

end

end Value

/-- Reads an entity from plain data; nothing is read as an empty mapping, except that a group must
be given. Only entities that are written by their schema are read. -/
def Entity.read (kind : Kind) (v : Value) (style : Style) : Logged Value :=
  if !kind.isProjected then failPlain .noSuchMember
  else match v with
  | .null =>
    if kind == .ruleGroup then fail (.notMapping kind.name v.typeName)
    else Entity.readEntries kind [] style
  | v => v.decode (.entity kind) style

end MonitoringConfig
