import MonitoringConfig.Yaml.Layout
/-!
# Documents on the page

How the nodes of a document are written: sequences and mappings in block style, one item or entry
to a line, and empty ones in brackets. A node that occurs again is written once, with an anchor, and
referred to where it occurs again.
-/

namespace MonitoringConfig.Yaml

/-- Where a node stands. -/
structure Place where
  /-- How far the collection around it is indented, if there is one. -/
  indent? : Option Nat := none
  root : Bool := false
  inMapping : Bool := false
  /-- Whether it is a key on the line of its value. -/
  isKey : Bool := false
  deriving Inhabited

/-- A page together with the anchored nodes that are on it. -/
structure Sheet where
  page : Page := {}
  seen : List Nat := []
  deriving Inhabited

/-- What is the same for the whole document. -/
structure Setup where
  width : Nat
  /-- The numbers of the nodes that have anchors, in the order of the anchors. -/
  anchors : List Nat

/-- The name of the anchor of a node. -/
def Setup.anchor? (s : Setup) (id : Nat) : Option String :=
  (s.anchors.findIdx? (· == id)).map fun i => "id" ++ String.ofList (paddedIndex (i + 1))
where
  /-- A number with at least three digits. -/
  paddedIndex (n : Nat) : List Char :=
    let digits := Nat.toDigits 10 n
    List.replicate (3 - digits.length) '0' ++ digits

/-- The indentation of what stands inside a collection. -/
def deeper : Option Nat → Nat
  | none => 0
  | some n => n + 2

/-- The ways in which a scalar is put on a page. -/
inductive ScalarForm where
  | plain | single | double | literal
  deriving DecidableEq, Repr

/-- How a scalar is put on the page. -/
def scalarForm (tag : Tag) (text : String) (literal isKey : Bool) : ScalarForm :=
  let a := Analysis.of text
  if literal then
    if !isKey && a.block then .literal else .double
  else if tag == implicitTag text && a.plain && !(isKey && (a.empty || a.multiline)) then .plain
  else if a.single && !(isKey && a.multiline) then .single
  else .double

/-- Writes a scalar. -/
def writeScalar (s : Setup) (place : Place) (tag : Tag) (text : String) (literal : Bool)
    (p : Page) : Page :=
  let m : Measure :=
    { indent := (place.indent?.map (· + 2)).getD 2, width := s.width, split := !place.isKey }
  let form := scalarForm tag text literal place.isKey
  let tagged := if form == .plain then tag != implicitTag text else tag != .text
  let p := if tagged then p.mark tag.shorthand true false false else p
  match form with
  | .plain => p.plain m place.root text
  | .single => p.singleQuoted m text
  | .double => p.doubleQuoted m text
  | .literal => p.literal m text

/-- Whether a node can be a key on the line of its value. -/
def isSimpleKey (s : Setup) (seen : List Nat) (node : Node) : Bool :=
  let anchor := match s.anchor? node.id with
    | some name => name.length
    | none => 0
  if seen.contains node.id then anchor < 128
  else match node with
    | .scalar tag text _ _ =>
      let a := Analysis.of text
      anchor + tag.shorthand.length + text.length < 128 && !a.empty && !a.multiline
    | .sequence _ items _ => items.isEmpty
    | .mapping _ entries _ => entries.isEmpty
    | .enclosing _ => true

mutual

/-- Writes a node. -/
def writeNode (s : Setup) (place : Place) (node : Node) (sheet : Sheet) : Sheet :=
  match s.anchor? node.id with
  | some name =>
    if sheet.seen.contains node.id then
      { sheet with page := sheet.page.mark ("*" ++ name) true false false }
    else
      writeContent s place node
        ⟨sheet.page.mark ("&" ++ name) true false false, node.id :: sheet.seen⟩
  | none => writeContent s place node sheet
termination_by (sizeOf node, 1)

/-- Writes a node without its anchor. -/
def writeContent (s : Setup) (place : Place) (node : Node) (sheet : Sheet) : Sheet :=
  match node with
  | .scalar tag text literal _ =>
    { sheet with page := writeScalar s place tag text literal sheet.page }
  | .sequence _ items _ =>
    if items.isEmpty then
      { sheet with page := (sheet.page.mark "[" true true false).mark "]" false false false }
    else
      let indent :=
        if place.inMapping && !sheet.page.indented then place.indent?.getD 0
        else deeper place.indent?
      writeItems s indent items sheet
  | .mapping _ entries _ =>
    if entries.isEmpty then
      { sheet with page := (sheet.page.mark "\x7b" true true false).mark "\x7d" false false false }
    else writeEntries s (deeper place.indent?) entries sheet
  | .enclosing _ => sheet
termination_by (sizeOf node, 0)

/-- Writes the items of a sequence. -/
def writeItems (s : Setup) (indent : Nat) (items : List Node) (sheet : Sheet) : Sheet :=
  match items with
  | [] => sheet
  | item :: rest =>
    let page := (sheet.page.indent indent).mark "-" true false true
    let sheet := writeNode s { indent? := some indent } item { sheet with page }
    writeItems s indent rest sheet
termination_by (sizeOf items, 0)

/-- Writes the entries of a mapping. -/
def writeEntries (s : Setup) (indent : Nat) (entries : List (Node × Node)) (sheet : Sheet) :
    Sheet :=
  match entries with
  | [] => sheet
  | (key, value) :: rest =>
    let inside : Place := { indent? := some indent, inMapping := true }
    let page := sheet.page.indent indent
    let sheet :=
      if isSimpleKey s sheet.seen key then
        let sheet := writeNode s { inside with isKey := true } key { sheet with page }
        { sheet with page := sheet.page.mark ":" false false false }
      else
        let sheet := writeNode s inside key { sheet with page := page.mark "?" true false true }
        { sheet with page := (sheet.page.indent indent).mark ":" true false true }
    let sheet := writeNode s inside value sheet
    writeEntries s indent rest sheet
termination_by (sizeOf entries, 0)

end

/-- The text of a document. -/
def Node.write (node : Node) (width : Nat) : String :=
  let setup : Setup := ⟨width, Node.repeated [] [] node.ids⟩
  let sheet := writeNode setup { root := true } node {}
  let page := sheet.page.indent 0
  let page := if page.openEnded then (page.mark "..." true false false).indent 0 else page
  page.out

end MonitoringConfig.Yaml
