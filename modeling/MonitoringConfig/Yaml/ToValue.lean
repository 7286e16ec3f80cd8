import MonitoringConfig.Yaml.Meaning
import MonitoringConfig.Yaml.OfTokens
/-!
# Values of documents

The value of the tree of a document. Mappings first take in the entries of the mappings that they
merge; then every node is given its value. Of several faults the one that lies least deep counts,
and of those the first.

* `Value.ofYaml` is the value of the text of a document; an empty one has the value nothing.
-/

namespace MonitoringConfig

namespace Yaml

namespace Node

/-! ### Merging -/

/-- The entries of a mapping. -/
def entries? : Node → Option (List (Node × Node))
  | mapping _ entries _ => some entries
  | enclosing _ => some []
  | _ => none

/-- Whether a key asks to merge the mapping behind it. -/
def isMerge (n : Node) : Bool :=
  n.tag == .merge

/-- The entries of a mapping in which nothing is left to be merged. -/
def merged? (n : Node) : Option (List (Node × Node)) :=
  n.entries?.filter fun entries => !entries.any (·.1.isMerge)

/-- The entries that a mapping or a sequence of mappings has to give; the first of several mappings
comes last, so that its entries win. -/
def toMerge? : Node → Option (List (Node × Node))
  | sequence _ items _ => (items.mapM merged?).map fun parts => parts.reverse.flatten
  | n => n.merged?

/-- Entries with what they merge before them; they stay as they are if one of them cannot be
merged. -/
def mergeEntries (entries : List (Node × Node)) : List (Node × Node) :=
  match (entries.filter (·.1.isMerge)).mapM fun (_, v) => v.toMerge? with
  | some parts => parts.flatten ++ entries.filter fun (k, _) => !k.isMerge
  | none => entries

mutual

/-- A tree in which every mapping has taken in what it merges. -/
def merge : Node → Node
  | sequence tag items id => sequence tag (mergeItems items) id
  | mapping tag entries id => mapping tag (mergeEntries (mergeBelow entries)) id
  | n => n

/-- Trees in which every mapping has taken in what it merges. -/
def mergeItems : List Node → List Node
  | [] => []
  | n :: ns => n.merge :: mergeItems ns

/-- Entries below which every mapping has taken in what it merges. -/
def mergeBelow : List (Node × Node) → List (Node × Node)
  | [] => []
  | (k, v) :: rest => (k.merge, v.merge) :: mergeBelow rest

end

end Node

/-! ### Faults by depth -/

/-- A value, or a fault and how deep it lies. -/
abbrev AtDepth (α : Type) := Except (Nat × Fault) α

namespace AtDepth

/-- What is at a depth. -/
def lift {α : Type} (depth : Nat) (x : Except Fault α) : AtDepth α :=
  x.mapError (depth, ·)

/-- Two values, or the fault that lies less deep; of two that lie equally deep, the first. -/
def both {α β : Type} (x : AtDepth α) (y : AtDepth β) : AtDepth (α × β) :=
  match x, y with
  | .ok a, .ok b => .ok (a, b)
  | .error e, .ok _ => .error e
  | .ok _, .error e => .error e
  | .error e, .error f => .error (if f.1 < e.1 then f else e)

/-- A value in front of others. -/
def cons {α : Type} (x : AtDepth α) (y : AtDepth (List α)) : AtDepth (List α) :=
  (both x y).map fun (a, as) => a :: as

end AtDepth

namespace Node

/-! ### Values -/

/-- The text of a scalar. A mapping with the key that stands for its value is as good as that. -/
def text? : Node → Option String
  | scalar _ text _ _ => some text
  | mapping _ entries _ => textOf? entries
  | _ => none
where
  /-- The text behind the first key that stands for the value of a mapping. -/
  textOf? : List (Node × Node) → Option String
    | [] => none
    | (k, v) :: rest => if k.tag == .value then v.text? else textOf? rest

/-- Whether a tag is that of a collection. -/
def isCollectionTag : Tag → Bool
  | .sequence | .mapping | .set | .orderedMap | .pairs => true
  | _ => false

/-- The value of a node with the tag of a scalar. -/
def leafValue (depth : Nat) (n : Node) : AtDepth Value :=
  AtDepth.lift depth (match n.text? with
    | some text => scalarValue n.tag text n.id
    | none => .error .malformed)

/-- A key, or the fault of one that can be changed. The mark of a value is a text as a key. -/
def keyValue (depth : Nat) : Node → AtDepth Value
  | enclosing _ => .error (depth, .malformed)
  | n =>
    if isCollectionTag n.tag then .error (depth, .malformed)
    else match n with
      | scalar .value text _ _ => .ok (.text text)
      | n => n.leafValue depth

/-- The keys of a mapping or of a set, each of them once. -/
def keysOf (entries : List (Value × Value)) : List Value :=
  (Value.insertEntries [] entries).map (·.1)

mutual

/-- The value of a node that lies at a depth. -/
def toValue (depth : Nat) : Node → AtDepth Value
  | enclosing _ => .ok .enclosing
  | scalar tag text literal id =>
    if isCollectionTag tag then .error (depth + 1, .malformed)
    else (scalar tag text literal id).leafValue depth
  | sequence tag items id => match tag with
    | .sequence => (itemValues (depth + 1) items).map .list
    | .orderedMap | .pairs => (pairValues (depth + 1) items).map .list
    | .mapping | .set => .error (depth + 1, .malformed)
    | tag => (sequence tag items id).leafValue depth
  | mapping tag entries id =>
    if isCollectionTag tag && entries.any (·.1.isMerge) then .error (depth + 1, .malformed)
    else match tag with
    | .mapping => (entryValues (depth + 1) entries).map fun es =>
      .map (Value.insertEntries [] es)
    | .set => (entryValues (depth + 1) entries).map fun es => .set (keysOf es)
    | .sequence | .orderedMap | .pairs => .error (depth + 1, .malformed)
    | tag => (mapping tag entries id).leafValue depth

/-- The values of the items of a sequence. -/
def itemValues (depth : Nat) : List Node → AtDepth (List Value)
  | [] => .ok []
  | n :: ns => AtDepth.cons (toValue depth n) (itemValues depth ns)

/-- The values of mappings of one entry each, as pairs. -/
def pairValues (depth : Nat) : List Node → AtDepth (List Value)
  | [] => .ok []
  | mapping _ [(k, v)] _ :: ns =>
    let pair := (AtDepth.both (toValue depth k) (toValue depth v)).map fun (a, b) =>
      Value.tuple [a, b]
    AtDepth.cons pair (pairValues depth ns)
  | _ :: _ => .error (depth, .malformed)

/-- The values of the entries of a mapping. -/
def entryValues (depth : Nat) : List (Node × Node) → AtDepth (List (Value × Value))
  | [] => .ok []
  | (k, v) :: rest =>
    AtDepth.cons (AtDepth.both (k.keyValue depth) (toValue depth v)) (entryValues depth rest)

end

end Node

end Yaml

/-- The value of the text of a document. -/
def Value.ofYaml (text : String) : Except Yaml.Fault Value := do
  match ← Yaml.Node.ofText? text with
  | none => return .null
  | some n => (n.merge.toValue 0).mapError (·.2)

end MonitoringConfig
