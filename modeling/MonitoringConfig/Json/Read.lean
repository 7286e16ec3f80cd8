import MonitoringConfig.Value
/-!
# Reading JSON

`Json.read?` reads the text of a JSON document as plain data. The entries of objects keep their
order.
-/

namespace MonitoringConfig.Json

/-- A text without the blanks it starts with. -/
def dropBlank (cs : List Char) : List Char :=
  cs.dropWhile fun c => c == ' ' || c == '\t' || c == '\n' || c == '\r'

/-- The value of four digits to base sixteen at the front of a text. -/
def unit? : List Char → Option (Nat × List Char)
  | a :: b :: c :: d :: rest => do
    let digit (c : Char) : Option Nat :=
      if c.isDigit then some (c.toNat - '0'.toNat)
      else if 'a' ≤ c && c ≤ 'f' then some (c.toNat - 'a'.toNat + 10)
      else if 'A' ≤ c && c ≤ 'F' then some (c.toNat - 'A'.toNat + 10)
      else none
    return (((← digit a) * 16 + (← digit b)) * 256 + (← digit c) * 16 + (← digit d), rest)
  | _ => none

/-- The character of a pair of UTF-16 units. -/
def pairChar (high low : Nat) : Char :=
  Char.ofNat (0x10000 + (high - 0xD800) * 0x400 + (low - 0xDC00))

/-- The character of an escape, given what stands behind the backslash. -/
def escape? : List Char → Option (Char × List Char)
  | 'b' :: rest => some (Char.ofNat 8, rest)
  | 'f' :: rest => some (Char.ofNat 12, rest)
  | 'n' :: rest => some ('\n', rest)
  | 'r' :: rest => some ('\r', rest)
  | 't' :: rest => some ('\t', rest)
  | 'u' :: rest => do
    let (high, rest) ← unit? rest
    match rest with
    | '\\' :: 'u' :: more =>
      let (low, after) ← unit? more
      if 0xD800 ≤ high && high < 0xDC00 && 0xDC00 ≤ low && low < 0xE000 then
        return (pairChar high low, after)
      else return (Char.ofNat high, rest)
    | rest => return (Char.ofNat high, rest)
  | c :: rest => if c == '"' || c == '\\' || c == '/' then some (c, rest) else none
  | [] => none

/-- Reads a text behind its opening quote; what was read of it stands in reverse. -/
def readText : (fuel : Nat) → (done : List Char) → List Char → Option (String × List Char)
  | 0, _, _ => none
  | _ + 1, _, [] => none
  | fuel + 1, done, c :: cs =>
    if c == '"' then some (String.ofList done.reverse, cs)
    else if c == '\\' then do
      let (e, rest) ← escape? cs
      readText fuel (e :: done) rest
    else readText fuel (c :: done) cs

/-- Whether a character may stand in a number. -/
def isNumberChar (c : Char) : Bool :=
  c.isDigit || c == '-' || c == '+' || c == '.' || c == 'e' || c == 'E'

/-- The number that a text is. -/
def number? (cs : List Char) : Option Value :=
  let (negative, digits) := match cs with
    | '-' :: ds => (true, ds)
    | ds => (false, ds)
  if !digits.isEmpty && digits.all Char.isDigit then
    let n : Int := digits.foldl (fun n d => 10 * n + (d.toNat - '0'.toNat)) (0 : Nat)
    some (.int (if negative then -n else n))
  else (Binary64.read? cs).map .float

/-- A word or a number at the front of a text. -/
def atom? (cs : List Char) : Option (Value × List Char) :=
  match cs with
  | 't' :: 'r' :: 'u' :: 'e' :: rest => some (.bool true, rest)
  | 'f' :: 'a' :: 'l' :: 's' :: 'e' :: rest => some (.bool false, rest)
  | 'n' :: 'u' :: 'l' :: 'l' :: rest => some (.null, rest)
  | cs => (number? (cs.takeWhile isNumberChar)).map fun v => (v, cs.dropWhile isNumberChar)

mutual

/-- Reads the value at the front of a text. -/
def readValue : (fuel : Nat) → List Char → Option (Value × List Char)
  | 0, _ => none
  | fuel + 1, cs =>
    match dropBlank cs with
    | '"' :: rest => (readText (rest.length + 1) [] rest).map fun (s, rest) => (.text s, rest)
    | '[' :: rest =>
      match dropBlank rest with
      | ']' :: rest => some (.list [], rest)
      | rest => (readItems fuel [] rest).map fun (items, rest) => (.list items, rest)
    | '\x7b' :: rest =>
      match dropBlank rest with
      | '\x7d' :: rest => some (.map [], rest)
      | rest => (readEntries fuel [] rest).map fun (entries, rest) => (.map entries, rest)
    | cs => atom? cs

/-- Reads the items of a list, of which there is at least one more. -/
def readItems : (fuel : Nat) → (done : List Value) → List Char → Option (List Value × List Char)
  | 0, _, _ => none
  | fuel + 1, done, cs => do
    let (v, rest) ← readValue fuel cs
    match dropBlank rest with
    | ',' :: rest => readItems fuel (v :: done) rest
    | ']' :: rest => some ((v :: done).reverse, rest)
    | _ => none

/-- Reads the entries of an object, of which there is at least one more. -/
def readEntries : (fuel : Nat) → (done : List (Value × Value)) → List Char →
    Option (List (Value × Value) × List Char)
  | 0, _, _ => none
  | fuel + 1, done, cs =>
    match dropBlank cs with
    | '"' :: rest => do
      let (key, rest) ← readText (rest.length + 1) [] rest
      match dropBlank rest with
      | ':' :: rest => do
        let (v, rest) ← readValue fuel rest
        match dropBlank rest with
        | ',' :: rest => readEntries fuel ((.text key, v) :: done) rest
        | '\x7d' :: rest => some (((.text key, v) :: done).reverse, rest)
        | _ => none
      | _ => none
    | _ => none

end

/-- Reads a document: one value, with nothing behind it. -/
def read? (text : String) : Option Value :=
  let cs := text.toList
  match readValue (cs.length + 1) cs with
  | some (v, rest) => if (dropBlank rest).isEmpty then some v else none
  | none => none

end MonitoringConfig.Json
