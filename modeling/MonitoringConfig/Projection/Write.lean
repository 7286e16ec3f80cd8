import MonitoringConfig.Projection.Wire
/-!
# Entities as plain data

`Value.encode` turns a value into plain data: mappings with texts as keys, lists, texts, numbers,
truth values and nothing. An entity becomes the mapping of its fields, in the order of its schema.
Nothing is never written; a field that is empty is left out unless it is required, optional, or
always kept.
-/

namespace MonitoringConfig

namespace Value

/-- Whether a value is empty, so that its field can be left out. -/
def isEmpty : Value → Bool
  | null => true
  | bool b => !b
  | int n => n == 0
  | float x => x.isZero
  | text s => s.isEmpty
  | member _ s => s.isEmpty
  | list items => items.isEmpty
  | tuple items => items.isEmpty
  | map entries => entries.isEmpty
  | duration d => d.isZero
  | secret s => s.isEmpty
  | _ => false

end Value

/-- Whether a field with a value is written. -/
def Field.isWritten (f : Field) (v : Value) : Bool :=
  !v.isNull && (f.always || f.isRequired || f.type.isOptional || !v.isEmpty)

namespace Value

/-- A value without parts as plain data. -/
def encodeLeaf (style : Style) : Value → Value
  | duration d => text d.format
  | secret s => text s.reveal
  | matcher m => m.toPlain style
  | member _ s => text s
  | v => v

mutual

/-- A value as plain data. -/
def encode (style : Style) : Value → Value
  | list items => list (encodeList style items)
  | tuple items => list (encodeList style items)
  | map entries => map (insertEntries [] (encodeEntries style entries))
  | entity kind fields =>
    if kind.isProjected then
      let inner := kind.schema.styleIn style
      map (kind.schema.envelopeEntries ++ encodeFields inner kind.schema.fields fields)
    else entity kind fields
  | v => encodeLeaf style v

/-- Values as plain data. -/
def encodeList (style : Style) : List Value → List Value
  | [] => []
  | v :: vs => encode style v :: encodeList style vs

/-- The entries of a mapping, with texts as keys. -/
def encodeEntries (style : Style) : List (Value × Value) → List (Value × Value)
  | [] => []
  | (k, v) :: rest => (text k.shown, encode style v) :: encodeEntries style rest

/-- The fields of an entity that are written, under their keys. -/
def encodeFields (style : Style) (fields : List Field) : List Value → List (Value × Value)
  | [] => []
  | v :: vs =>
    match fields with
    | [] => []
    | f :: fs =>
      let rest := encodeFields style fs vs
      if f.isWritten v then (text (f.key style), encode style v) :: rest else rest

end

end Value

end MonitoringConfig
