import MonitoringConfig.Projection.Write
/-!
# Values as JSON

Plain data as JSON in ASCII: other characters are written by their UTF-16 units. With an indent
every item and every entry has a line of its own.
-/

namespace MonitoringConfig.Json

/-- A UTF-16 unit as an escape. -/
def unitEscape (n : Nat) : List Char :=
  '\\' :: 'u' :: Text.hexPadded 4 n

/-- A character in a text. -/
def charText (c : Char) : List Char :=
  let n := c.toNat
  match c with
  | '"' => ['\\', '"']
  | '\\' => ['\\', '\\']
  | '\n' => ['\\', 'n']
  | '\r' => ['\\', 'r']
  | '\t' => ['\\', 't']
  | c =>
    if n == 8 then ['\\', 'b']
    else if n == 12 then ['\\', 'f']
    else if 32 ≤ n && n < 127 then [c]
    else if n < 0x10000 then unitEscape n
    else unitEscape (0xD800 + (n - 0x10000) / 0x400) ++ unitEscape (0xDC00 + (n - 0x10000) % 0x400)

/-- A text. -/
def string (s : String) : String :=
  String.ofList ('"' :: s.toList.flatMap charText ++ ['"'])

/-- A floating-point number. -/
def number (x : Binary64) : String :=
  match x with
  | .nan => "NaN"
  | .infinite negative => if negative then "-Infinity" else "Infinity"
  | x => x.text

/-- How far a document is indented: by a text for every level, or not at all. -/
abbrev Indent := Option String

/-- The line break in front of an item, if items have lines of their own. -/
def lineStart (indent : Indent) (level : Nat) : String :=
  match indent with
  | none => ""
  | some unit => "\n" ++ String.join (List.replicate level unit)

/-- Items between brackets. -/
def enclosed (indent : Indent) (level : Nat) (opening closing : String) (items : List String) :
    String :=
  if items.isEmpty then opening ++ closing
  else
    let start := lineStart indent (level + 1)
    let separator := (if indent.isNone then ", " else ",") ++ start
    opening ++ start ++ separator.intercalate items ++ lineStart indent level ++ closing

/-- Why a value has no form as JSON. -/
def noForm (v : Value) : String :=
  "Object of type " ++ v.typeName ++ " is not JSON serializable"

/-- A key. Numbers, truth values and nothing stand as their texts. -/
def key (v : Value) : Except String String :=
  match v with
  | .text s | .member _ s => .ok (string s)
  | .int n => .ok (string (intText n))
  | .float x => .ok (string (number x))
  | .bool b => .ok (string (if b then "true" else "false"))
  | .null => .ok (string "null")
  | v => .error ("keys must be str, int, float, bool or None, not " ++ v.typeName)

/-- A value without parts. -/
def leaf (v : Value) : Except String String :=
  match v with
  | .text s | .member _ s => .ok (string s)
  | .int n => .ok (intText n)
  | .float x => .ok (number x)
  | .bool b => .ok (if b then "true" else "false")
  | .null => .ok "null"
  | v => .error (noForm v)

mutual

/-- The text of a value, or the reason why it has none. -/
def write (indent : Indent) (level : Nat) : Value → Except String String
  | .list items => (writeItems indent (level + 1) items).map (enclosed indent level "[" "]")
  | .tuple items => (writeItems indent (level + 1) items).map (enclosed indent level "[" "]")
  | .map entries =>
    (writeEntries indent (level + 1) entries).map (enclosed indent level "\x7b" "\x7d")
  | v => leaf v

/-- The texts of items. -/
def writeItems (indent : Indent) (level : Nat) : List Value → Except String (List String)
  | [] => .ok []
  | v :: vs => do
    let s ← write indent level v
    return s :: (← writeItems indent level vs)

/-- The texts of entries. -/
def writeEntries (indent : Indent) (level : Nat) :
    List (Value × Value) → Except String (List String)
  | [] => .ok []
  | (k, v) :: rest => do
    let ks ← key k
    let vs ← write indent level v
    return (ks ++ ": " ++ vs) :: (← writeEntries indent level rest)

end

/-- The indent of a number of spaces. -/
def spaces (n : Int) : Indent :=
  some (String.ofList (List.replicate n.toNat ' '))

end MonitoringConfig.Json
