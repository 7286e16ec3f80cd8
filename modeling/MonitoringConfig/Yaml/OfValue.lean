import MonitoringConfig.Projection.Write
import MonitoringConfig.Text.Base64
import MonitoringConfig.Yaml.Write
/-!
# Values as documents

Plain data, durations, secrets and matchers become nodes of a document. Nothing else has a written
form.
-/

namespace MonitoringConfig

/-- Text in lines of at most 76 characters, each with a line break behind it. -/
def inLines (cs : List Char) : List Char :=
  match cs with
  | [] => []
  | c :: rest => (c :: rest).take 76 ++ '\n' :: inLines ((c :: rest).drop 76)
termination_by cs.length
decreasing_by simp only [List.length_drop, List.length_cons]; omega

namespace Value

/-- The text of a floating-point number in a document. -/
def documentFloat (x : Binary64) : String :=
  match x with
  | .nan => ".nan"
  | .infinite negative => if negative then "-.inf" else ".inf"
  | x =>
    let cs := x.text.toList
    if !cs.contains '.' && cs.contains 'e' then
      String.ofList (cs.takeWhile (· != 'e') ++ ['.', '0'] ++ cs.dropWhile (· != 'e'))
    else x.text

/-- A text as a node; texts of several lines are written line by line if `literal` says so. -/
def textNode (literal : Bool) (s : String) : Yaml.Node :=
  .scalar .text s (literal && s.toList.contains '\n') 0

/-- The number of the mapping that a value stands in. -/
def enclosingId : Nat := 1

/-- The number of a value read from a place of a document. -/
def sourceId (source : Nat) : Nat :=
  if source == 0 then 0 else source + enclosingId

/-- A value without parts as a node. -/
def leafNode (literal : Bool) : Value → Except Failure Yaml.Node
  | null => .ok (.scalar .null "null" false 0)
  | bool b => .ok (.scalar .bool (if b then "true" else "false") false 0)
  | int n => .ok (.scalar .int (intText n) false 0)
  | float x => .ok (.scalar .float (documentFloat x) false 0)
  | text s => .ok (textNode literal s)
  | duration d => .ok (.scalar .text d.format false 0)
  | secret s => .ok (.scalar .text s.reveal false 0)
  | matcher m => .ok (.scalar .text m.format false 0)
  | date d source => .ok (.scalar .timestamp d.text false (sourceId source))
  | moment m source => .ok (.scalar .timestamp (m.text " ") false (sourceId source))
  | bytes data => .ok (.scalar .binary (String.ofList (inLines (Text.base64 data))) true 0)
  | enclosing => .ok (.enclosing enclosingId)
  | _ => .error (.plain .notRepresentable)

mutual

/-- A value as a node. -/
def toNode (literal : Bool) : Value → Except Failure Yaml.Node
  | list items => (toNodes literal items).map fun ns => .sequence .sequence ns 0
  | tuple items => (toNodes literal items).map fun ns => .sequence .sequence ns 0
  | map entries => (toNodeEntries literal entries).map fun ns => .mapping .mapping ns 0
  | set items => (toNodes literal items).map fun ns =>
    .mapping .set (ns.map fun n => (n, .scalar .null "null" false 0)) 0
  | v => leafNode literal v

/-- Values as nodes. -/
def toNodes (literal : Bool) : List Value → Except Failure (List Yaml.Node)
  | [] => .ok []
  | v :: vs => do
    let n ← toNode literal v
    return n :: (← toNodes literal vs)

/-- Entries as nodes. -/
def toNodeEntries (literal : Bool) :
    List (Value × Value) → Except Failure (List (Yaml.Node × Yaml.Node))
  | [] => .ok []
  | (k, v) :: rest => do
    let nk ← toNode literal k
    let nv ← toNode literal v
    return (nk, nv) :: (← toNodeEntries literal rest)

end

/-- Whether a value is the mapping that it stands in. -/
def isEnclosing : Value → Bool
  | enclosing => true
  | _ => false

/-- Whether a mapping has itself among its values. -/
def containsItself : Value → Bool
  | map entries => entries.any fun (_, v) => v.isEnclosing
  | _ => false

/-- The text of a document of a value. -/
def writeYaml (v : Value) (literal : Bool) (width : Nat) : Except Failure String := do
  let node ← v.toNode literal
  let node := match node with
    | .mapping tag entries _ =>
      if v.containsItself then Yaml.Node.mapping tag entries enclosingId else node
    | node => node
  return node.write width

end Value

end MonitoringConfig
