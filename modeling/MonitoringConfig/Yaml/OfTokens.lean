import MonitoringConfig.Yaml.Implicit
import MonitoringConfig.Yaml.Token.Lexer
/-!
# Documents of tokens

Puts the tokens of a text together to the tree of its one document. An alias becomes a copy of the
node that it names, with the number of that node; inside of that node it becomes a mark that it
stands there.

* `Node.ofText?` is the node of a text, if there is anything in it.

Every step takes a token, or is one of the few that are made between two tokens, which bounds their
number.
-/

namespace MonitoringConfig.Yaml

/-- The start of the names of the tags that the format defines. -/
def tagSpace : String :=
  "tag:yaml.org,2002:"

/-- The tag of a name. -/
def Tag.ofName (name : String) : Tag :=
  let known : List (String × Tag) := [("null", .null), ("bool", .bool), ("int", .int),
    ("float", .float), ("str", .text), ("timestamp", .timestamp), ("binary", .binary),
    ("merge", .merge), ("value", .value), ("seq", .sequence), ("map", .mapping), ("set", .set),
    ("omap", .orderedMap), ("pairs", .pairs)]
  ((known.map fun (short, tag) => (tagSpace ++ short, tag)).lookup name).getD (.other name)

/-- What is left to be read, and what was found on the way. -/
structure Reader where
  tokens : List Token
  /-- The fault behind the last token. -/
  fault : Fault := .malformed
  /-- What the handles of tags stand for. -/
  handles : List (String × String) := []
  /-- The named nodes. -/
  anchors : List (String × Node) := []
  /-- How many nodes there are so far. -/
  count : Nat := 0

/-- Reading that may end with a fault. -/
abbrev Reading := StateT Reader (Except Fault)

namespace Reading

/-- Gives up. -/
def malformed {α : Type} : Reading α :=
  throw .malformed

/-- The next token. -/
def peek : Reading Token := do
  let r ← get
  match r.tokens with
  | t :: _ => return t
  | [] => throw r.fault

/-- Goes past the next token. -/
def skip : Reading Unit :=
  modify fun r => { r with tokens := r.tokens.drop 1 }

/-- Goes past the next token if it is the given one. -/
def skipIf (t : Token) : Reading Bool := do
  if (← peek) == t then
    skip
    return true
  else return false

/-- Goes past a token that must be there. -/
def expect (t : Token) : Reading Unit := do
  if !(← skipIf t) then malformed

/-- A new number for a node. -/
def newId : Reading Nat := do
  let r ← get
  set { r with count := r.count + 1 }
  return r.count + 1

/-- Gives a node its name. -/
def name (anchor? : Option String) (n : Node) : Reading Unit :=
  match anchor? with
  | some anchor => modify fun r => { r with anchors := (anchor, n) :: r.anchors }
  | none => pure ()

/-- The tag that a handle and a name stand for; an exclamation mark alone stands for none. -/
def tagOf (handle? : Option String) (name : String) : Reading String := do
  match handle? with
  | none => return name
  | some handle =>
    match (← get).handles.lookup handle with
    | some start => return start ++ name
    | none => malformed

/-- What may stand before a node: its name and its tag, in either order. -/
structure Properties where
  anchor? : Option String := none
  tag? : Option String := none

/-- The tag that is asked for by name. -/
def Properties.named? (ps : Properties) : Option Tag :=
  (ps.tag?.filter (· != "!")).map Tag.ofName

/-- Reads what stands before a node. -/
def properties : Reading Properties := do
  match ← peek with
  | .anchor a =>
    skip
    match ← peek with
    | .tag handle? name =>
      skip
      return ⟨some a, some (← tagOf handle? name)⟩
    | _ => return ⟨some a, none⟩
  | .tag handle? name =>
    skip
    match ← peek with
    | .anchor a =>
      skip
      return ⟨some a, some (← tagOf handle? name)⟩
    | _ => return ⟨none, some (← tagOf handle? name)⟩
  | _ => return {}

/-- A scalar. A plain text without a tag stands for what it looks like, and so does any text behind
a lone exclamation mark. -/
def scalar (ps : Properties) (text : String) (plain : Bool) : Reading Node := do
  let looks := (plain && ps.tag?.isNone) || ps.tag? == some "!"
  let tag := ps.named?.getD (if looks then implicitTag text else .text)
  let n := Node.scalar tag text false (← newId)
  name ps.anchor? n
  return n

/-- The scalar that stands where nothing is written. -/
def nothing : Reading Node :=
  scalar {} "" true

/-- A collection; within it, its name stands for the collection around. -/
def collection {α : Type} (ps : Properties) (read : Reading α) (make : α → Nat → Node) :
    Reading Node := do
  let id ← newId
  name ps.anchor? (.enclosing id)
  let n := make (← read) id
  name ps.anchor? n
  return n

/-- A sequence. -/
def sequence (ps : Properties) (read : Reading (List Node)) : Reading Node :=
  collection ps read (.sequence (ps.named?.getD .sequence))

/-- A mapping. -/
def mapping (ps : Properties) (read : Reading (List (Node × Node))) : Reading Node :=
  collection ps read (.mapping (ps.named?.getD .mapping))

mutual

/-- Reads a node. `block` says whether it may be a block, and `item` whether that may be a sequence
whose items are not indented. -/
def node (block item : Bool) : Nat → Reading Node
  | 0 => malformed
  | n + 1 => do
    if let .alias name ← peek then
      skip
      let some target := (← get).anchors.lookup name | malformed
      return target
    let ps ← properties
    if let some a := ps.anchor? then
      if ((← get).anchors.lookup a).isSome then malformed
    match ← peek with
    | .scalar text plain =>
      skip
      scalar ps text plain
    | .flowSequence =>
      skip
      sequence ps (flowItems true n)
    | .flowMapping =>
      skip
      mapping ps (flowEntries true n)
    | .item => if item then sequence ps (items false n) else empty ps
    | .blockSequence =>
      if block then
        skip
        sequence ps (items true n)
      else empty ps
    | .blockMapping =>
      if block then
        skip
        mapping ps (entries n)
      else empty ps
    | _ => empty ps

/-- The empty scalar that may stand behind a name or a tag. -/
def empty (ps : Properties) : Reading Node :=
  if ps.anchor?.isSome || ps.tag?.isSome then
    scalar ps "" (ps.tag?.isNone || ps.tag? == some "!")
  else malformed

/-- Reads a node, unless one of the given tokens shows that none is written. -/
def nodeUnless (block item : Bool) (ends : List Token) : Nat → Reading Node
  | 0 => malformed
  | n + 1 => do
    if ends.contains (← peek) then nothing else node block item n

/-- Reads the items of a block; the token of its end is there if the items are indented. -/
def items (indented : Bool) : Nat → Reading (List Node)
  | 0 => malformed
  | n + 1 => do
    if ← skipIf .item then
      let ends : List Token := if indented then [.item, .blockEnd]
        else [.item, .key, .value, .blockEnd]
      let first ← nodeUnless true false ends n
      return first :: (← items indented n)
    if indented then expect .blockEnd
    return []

/-- Reads the entries of a block, of which the key or the value may be missing. -/
def entries : Nat → Reading (List (Node × Node))
  | 0 => malformed
  | n + 1 => do
    let ends : List Token := [.key, .value, .blockEnd]
    match ← peek with
    | .key =>
      skip
      let key ← nodeUnless true true ends n
      let value ← if ← skipIf .value then nodeUnless true true ends n else nothing
      return (key, value) :: (← entries n)
    | _ =>
      expect .blockEnd
      return []

/-- Reads the items between brackets. One with a colon is a mapping of one entry. -/
def flowItems (first : Bool) : Nat → Reading (List Node)
  | 0 => malformed
  | n + 1 => do
    if ← skipIf .flowSequenceEnd then return []
    if !first then expect .comma
    match ← peek with
    | .flowSequenceEnd =>
      skip
      return []
    | .key =>
      let item ← mapping {} (flowPair n)
      return item :: (← flowItems false n)
    | _ =>
      let item ← node false false n
      return item :: (← flowItems false n)

/-- Reads the one entry of a mapping that is an item between brackets. -/
def flowPair : Nat → Reading (List (Node × Node))
  | 0 => malformed
  | n + 1 => do
    skip
    let key ← nodeUnless false false [.value, .comma, .flowSequenceEnd] n
    let value ←
      if ← skipIf .value then nodeUnless false false [.comma, .flowSequenceEnd] n else nothing
    return [(key, value)]

/-- Reads the entries between braces. -/
def flowEntries (first : Bool) : Nat → Reading (List (Node × Node))
  | 0 => malformed
  | n + 1 => do
    if ← skipIf .flowMappingEnd then return []
    if !first then expect .comma
    match ← peek with
    | .flowMappingEnd =>
      skip
      return []
    | .key =>
      skip
      let key ← nodeUnless false false [.value, .comma, .flowMappingEnd] n
      let value ←
        if ← skipIf .value then nodeUnless false false [.comma, .flowMappingEnd] n else nothing
      return (key, value) :: (← flowEntries false n)
    | _ =>
      let key ← node false false n
      let value ← nothing
      return (key, value) :: (← flowEntries false n)

end

/-! ### Documents -/

/-- Reads the directives before a document. The version must be the first, and none may be given
twice. -/
def directives (version : Bool) : Nat → Reading Unit
  | 0 => malformed
  | n + 1 => do
    let .directive d ← peek | return
    skip
    match d with
    | .version major =>
      if version || major != 1 then malformed
      directives true n
    | .tag handle uri =>
      let r ← get
      if (r.handles.lookup handle).isSome then malformed
      set { r with handles := (handle, uri) :: r.handles }
      directives version n
    | .other => directives version n

/-- The handles that stand for something without being defined. -/
def defaultHandles : List (String × String) :=
  [("!", "!"), ("!!", tagSpace)]

/-- Reads the one document of a text. The mark of its start may be missing if it has no
directives. -/
def document : Reading (Option Node) := do
  let steps := 4 * (← get).tokens.length + 4
  let explicit := match ← peek with
    | .directive _ | .documentStart | .textEnd => true
    | _ => false
  if ← skipIf .textEnd then return none
  if explicit then
    directives false steps
    expect .documentStart
  modify fun r => { r with handles := r.handles ++ defaultHandles }
  let n ← match ← peek with
    | .directive _ | .documentStart | .documentEnd | .textEnd =>
      if explicit then nothing else malformed
    | _ => node true false steps
  documentEnds steps
  expect .textEnd
  return some n
where
  /-- Goes past the marks of the end of the document. -/
  documentEnds : Nat → Reading Unit
    | 0 => pure ()
    | n + 1 => do
      if ← skipIf .documentEnd then documentEnds n

end Reading

/-- The node of a text, if there is anything in it. -/
def Node.ofText? (text : String) : Except Fault (Option Node) :=
  let (tokens, fault) := tokens text
  (Reading.document.run { tokens, fault := fault.getD .malformed }).map (·.1)

end MonitoringConfig.Yaml
