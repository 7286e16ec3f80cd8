/-!
# Nodes of a document

A document is a tree of scalars, sequences and mappings. Each has a tag, which says what type of
data it stands for, and a number: nodes with the same number, zero apart, are one and the same node.
-/

namespace MonitoringConfig.Yaml

/-- What type of data a node stands for. -/
inductive Tag where
  | null | bool | int | float | text | timestamp | binary
  | merge | value | sequence | mapping | set | orderedMap | pairs
  | other (name : String)
  deriving DecidableEq, Repr, Inhabited

/-- The tag as it is written. -/
def Tag.shorthand : Tag → String
  | null => "!!null"
  | bool => "!!bool"
  | int => "!!int"
  | float => "!!float"
  | text => "!!str"
  | timestamp => "!!timestamp"
  | binary => "!!binary"
  | merge => "!!merge"
  | value => "!!value"
  | sequence => "!!seq"
  | mapping => "!!map"
  | set => "!!set"
  | orderedMap => "!!omap"
  | pairs => "!!pairs"
  | other name => name

/-- A node of a document. -/
inductive Node where
  /-- A text; `literal` asks for it to be written line by line. -/
  | scalar (tag : Tag) (text : String) (literal : Bool) (id : Nat)
  | sequence (tag : Tag) (items : List Node) (id : Nat)
  | mapping (tag : Tag) (entries : List (Node × Node)) (id : Nat)
  /-- A node that this one stands inside of. -/
  | enclosing (id : Nat)
  deriving Repr, Inhabited

namespace Node

/-- The number of a node. -/
def id : Node → Nat
  | scalar _ _ _ id => id
  | sequence _ _ id => id
  | mapping _ _ id => id
  | enclosing id => id

/-- The tag of a node. -/
def tag : Node → Tag
  | scalar tag .. => tag
  | sequence tag .. => tag
  | mapping tag .. => tag
  | enclosing _ => .null

mutual

/-- The numbers of the numbered nodes of a tree, in the order in which they are written. -/
def ids : Node → List Nat
  | scalar _ _ _ id => numbered id
  | sequence _ items id => numbered id ++ idsOfItems items
  | mapping _ entries id => numbered id ++ idsOfEntries entries
  | enclosing id => numbered id

/-- The numbers of the nodes of several trees. -/
def idsOfItems : List Node → List Nat
  | [] => []
  | n :: ns => n.ids ++ idsOfItems ns

/-- The numbers of the nodes of entries. -/
def idsOfEntries : List (Node × Node) → List Nat
  | [] => []
  | (k, v) :: rest => k.ids ++ v.ids ++ idsOfEntries rest

/-- A number, unless it is zero. -/
def numbered (id : Nat) : List Nat :=
  if id == 0 then [] else [id]

end

/-- The numbers that occur again, in the order in which they do so for the first time. -/
def repeated (seen again : List Nat) : List Nat → List Nat
  | [] => again
  | n :: ns =>
    if again.contains n then repeated seen again ns
    else if seen.contains n then repeated seen (again ++ [n]) ns
    else repeated (n :: seen) again ns

end Node

end MonitoringConfig.Yaml
