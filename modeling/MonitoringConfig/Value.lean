import MonitoringConfig.Calendar.Date
import MonitoringConfig.Choice
import MonitoringConfig.Kind
import MonitoringConfig.Promql.Expr
import MonitoringConfig.Secret
/-!
# Values

What a field of a configuration can hold: plain data, the scalars of this library, expressions and
entities. A field holds any value, whatever type it is declared with, so values carry what they
are.

* `Value.equal` is equality as the callers see it: numbers by value, mappings in any order, a
  member of a choice like its text.
* `Value.isTruthy` is what counts as true where a truth value is asked for.
-/

namespace MonitoringConfig

/-- A value of a field. The fields of an entity stand in the order of its schema. -/
inductive Value where
  | null
  | bool (b : Bool)
  | int (n : Int)
  | float (x : Binary64)
  | text (s : String)
  | list (items : List Value)
  | tuple (items : List Value)
  | map (entries : List (Value × Value))
  /-- Values without an order, read from a document; they stand in the order of the document. -/
  | set (items : List Value)
  | duration (d : Duration)
  | timeSpan (t : TimeSpan)
  | secret (s : Secret)
  | matcher (m : Matcher)
  | member (choice : Choice) (text : String)
  | expr (e : Promql.Expr)
  | entity (kind : Kind) (fields : List Value)
  /-- A day read from a document; `source` tells days read at one place from those read at
  another. -/
  | date (d : Date) (source : Nat)
  /-- A moment read from a document. -/
  | moment (m : Moment) (source : Nat)
  | bytes (data : List UInt8)
  /-- An error of the library that was made to be looked at. -/
  | error (category : Category) (message : Value) (details : Value)
  /-- The mapping that the value stands in, from within itself. -/
  | enclosing
  deriving Repr, Inhabited

namespace Value

/-- A mapping with texts as keys. -/
def record (entries : List (String × Value)) : Value :=
  map (entries.map fun (k, v) => (text k, v))

/-- A list of texts. -/
def texts (items : List String) : Value :=
  list (items.map text)

/-- The text that a value is: a text, or a member of a choice. -/
def asText? : Value → Option String
  | text s => some s
  | member _ s => some s
  | _ => none

/-- The number that a value is, truth values being zero and one. -/
def asScalar? : Value → Option Promql.Scalar
  | bool b => some (.int (if b then 1 else 0))
  | int n => some (.int n)
  | float x => some (.float x)
  | _ => none

mutual

/-- Equality of values. -/
def equal : Value → Value → Bool
  | null, null => true
  | list a, list b => equalList a b
  | tuple a, tuple b => equalList a b
  | map a, map b => a.length == b.length && equalEntries a b
  | set a, set b => a.length == b.length && allAmong a b
  | duration a, duration b => a == b
  | timeSpan a, timeSpan b => a == b
  | secret a, secret b => a == b
  | matcher a, matcher b => a == b
  | member _ s, member _ t => s == t
  | member _ s, text t => s == t
  | text s, text t => s == t
  | text s, member _ t => s == t
  | expr a, expr b => a.equal b
  | entity k fs, entity k' fs' => k == k' && equalList fs fs'
  | date a _, date b _ => a == b
  | moment a _, moment b _ => a.equal b
  | bytes a, bytes b => a == b
  | bool a, b => match b.asScalar? with
    | some y => (Promql.Scalar.int (if a then 1 else 0)).equal y
    | none => false
  | int a, b => match b.asScalar? with
    | some y => (Promql.Scalar.int a).equal y
    | none => false
  | float a, b => match b.asScalar? with
    | some y => (Promql.Scalar.float a).equal y
    | none => false
  | _, _ => false

/-- Equality of lists of values. -/
def equalList : List Value → List Value → Bool
  | [], [] => true
  | a :: as, b :: bs => equal a b && equalList as bs
  | _, _ => false

/-- Whether every value is among the others. -/
def allAmong : List Value → List Value → Bool
  | [], _ => true
  | a :: as, others => others.any (fun b => equal a b) && allAmong as others

/-- Whether every entry is among the others. -/
def equalEntries : List (Value × Value) → List (Value × Value) → Bool
  | [], _ => true
  | (k, v) :: rest, others =>
    others.any (fun (k', v') => equal k k' && equal v v') && equalEntries rest others

end

/-- Whether a value is among others. -/
def isAmong (v : Value) (others : List Value) : Bool :=
  others.any v.equal

/-- What counts as true where a truth value is asked for: all but zeros and what is empty. -/
def isTruthy : Value → Bool
  | null => false
  | bool b => b
  | int n => n != 0
  | float x => !x.isZero
  | text s => !s.isEmpty
  | list items => !items.isEmpty
  | tuple items => !items.isEmpty
  | map entries => !entries.isEmpty
  | set items => !items.isEmpty
  | duration d => !d.isZero
  | timeSpan t => t.microseconds != 0
  | secret s => !s.isEmpty
  | member _ s => !s.isEmpty
  | bytes data => !data.isEmpty
  | _ => true

mutual

/-- Whether a value can be a key: what can be changed cannot. -/
def canBeKey : Value → Bool
  | list _ | map _ | set _ | entity .. | enclosing => false
  | tuple items => canBeKeys items
  | _ => true

/-- Whether several values can all be keys. -/
def canBeKeys : List Value → Bool
  | [] => true
  | v :: vs => canBeKey v && canBeKeys vs

end

/-- A value, or another where it counts as false. -/
def orElse (v default : Value) : Value :=
  if v.isTruthy then v else default

/-- Whether a value is nothing. -/
def isNull : Value → Bool
  | null => true
  | _ => false

/-- The value of a key, the last of its entries if there are several. -/
def lookup? (key : Value) (entries : List (Value × Value)) : Option Value :=
  (entries.find? fun (k, _) => k.equal key).map (·.2)

/-- The entries with one more: a key that is there already keeps its place and takes the value. -/
def insertEntry (entries : List (Value × Value)) (key value : Value) : List (Value × Value) :=
  if entries.any fun (k, _) => k.equal key then
    entries.map fun (k, v) => if k.equal key then (k, value) else (k, v)
  else entries ++ [(key, value)]

/-- The entries with others put on top of them, one after the other. -/
def insertEntries (entries more : List (Value × Value)) : List (Value × Value) :=
  more.foldl (fun es (k, v) => insertEntry es k v) entries

end Value

end MonitoringConfig
