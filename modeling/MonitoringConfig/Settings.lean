import MonitoringConfig.Number.Text
import MonitoringConfig.Projection.Write
import MonitoringConfig.Text.Integer
/-!
# Settings of the writer

How entities are written into files. Settings are made of values of any type: whole numbers are
taken from texts and from other numbers without a fraction, truth values from the usual words.
-/

namespace MonitoringConfig

/-- How entities are written. -/
structure Settings where
  /-- The permissions of written files. -/
  fileMode : Int := 420
  /-- Whether directories on the way to a file are made. -/
  createParents : Bool := true
  /-- How far JSON is indented. -/
  jsonIndent : Int := 2
  /-- The column at which texts in YAML are folded. -/
  yamlWidth : Int := 4096
  /-- Whether texts of several lines are written line by line. -/
  literalMultiline : Bool := true
  deriving DecidableEq, Repr, Inhabited

namespace Settings

/-- The digits of a number in which single underscores may stand between digits. -/
def plainDigits? : List Char → Option (List Char)
  | [] => none
  | [c] => if c.isDigit then some [c] else none
  | c :: '_' :: rest => if c.isDigit then (plainDigits? rest).map (c :: ·) else none
  | c :: rest => if c.isDigit then (plainDigits? rest).map (c :: ·) else none

/-- Reads a whole number; a fraction of zeros is passed over. -/
def readWhole (s : String) : Option Int :=
  let cs := Text.unpadded s.toList
  let (negative, cs) := match cs with
    | '-' :: cs => (true, cs)
    | '+' :: cs => (false, cs)
    | cs => (false, cs)
  let whole := cs.takeWhile (· != '.')
  let fraction := cs.dropWhile (· != '.')
  let plain := fraction.isEmpty || (2 ≤ fraction.length && (fraction.drop 1).all (· == '0'))
  if plain then (plainDigits? whole).map fun ds =>
      let n : Int := ds.foldl (fun n d => 10 * n + (d.toNat - '0'.toNat)) (0 : Nat)
      if negative then -n else n
  else none

/-- The integer that a floating-point number is. -/
def integral? (x : Binary64) : Option Int :=
  x.ratio?.bind fun (a, b) => if a % b == 0 then some (a / b) else none

/-- A whole number, or the rule that a value breaks. -/
def whole (v : Value) : Except String Int :=
  match v with
  | .bool b => .ok (if b then 1 else 0)
  | .int n => .ok n
  | .float x =>
    if !x.isFinite then .error "finite_number"
    else match integral? x with
      | some n => .ok n
      | none => .error "int_from_float"
  | .text s | .member _ s =>
    match readWhole s with
    | some n => .ok n
    | none => .error "int_parsing"
  | _ => .error "int_type"

/-- The truth value of a word. -/
def truthWord? (s : String) : Option Bool :=
  let word := s.map Char.toLower
  if ["1", "t", "true", "y", "yes", "on"].contains word then some true
  else if ["0", "f", "false", "n", "no", "off"].contains word then some false
  else none

/-- The truth value of a number, which must be zero or one. -/
def truthNumber (n : Int) : Except String Bool :=
  if n == 1 then .ok true else if n == 0 then .ok false else .error "bool_parsing"

/-- A truth value, or the rule that a value breaks. -/
def truth (v : Value) : Except String Bool :=
  match v with
  | .bool b => .ok b
  | .int n => truthNumber n
  | .float x =>
    match integral? x with
    | some n => truthNumber n
    | none => .error "bool_type"
  | .text s | .member _ s =>
    match truthWord? s with
    | some b => .ok b
    | none => .error "bool_parsing"
  | _ => .error "bool_type"

/-- A number within bounds, or the rule that it breaks. -/
def bounded (ok : Int → Bool) (rule : String) (n : Except String Int) : Except String Int :=
  n.bind fun n => if ok n then .ok n else .error rule

/-- A setting that was given, at its default otherwise. -/
def setting {α : Type} (given : List (String × Value)) (name : String) (default : α)
    (read : Value → Except String α) : Except String α :=
  match given.lookup name with
  | some v => read v
  | none => .ok default

/-- The rule that a setting breaks, by its name. -/
def issue {α : Type} (name : String) (r : Except String α) : List (String × String) :=
  match r with
  | .ok _ => []
  | .error rule => [(name, rule)]

/-- The settings that are given by name. -/
def ofGiven (given : List (String × Value)) : Except Failure Settings :=
  let d : Settings := {}
  let fileMode := setting given "file_mode" d.fileMode fun v =>
    bounded (fun n => 0 ≤ n && n ≤ 511) "value_error" (whole v)
  let createParents := setting given "create_parents" d.createParents truth
  let jsonIndent := setting given "json_indent" d.jsonIndent fun v =>
    bounded (0 ≤ ·) "greater_than_equal" (whole v)
  let yamlWidth := setting given "yaml_width" d.yamlWidth fun v =>
    bounded (20 < ·) "greater_than" (whole v)
  let literalMultiline := setting given "literal_multiline" d.literalMultiline truth
  match fileMode, createParents, jsonIndent, yamlWidth, literalMultiline with
  | .ok a, .ok b, .ok c, .ok e, .ok f => .ok ⟨a, b, c, e, f⟩
  | a, b, c, e, f =>
    .error (.settings (issue "file_mode" a ++ issue "create_parents" b ++ issue "json_indent" c
      ++ issue "yaml_width" e ++ issue "literal_multiline" f))

/-- Settings as values, by name. -/
def toEntries (s : Settings) : List (String × Value) :=
  [("file_mode", .int s.fileMode), ("create_parents", .bool s.createParents),
    ("json_indent", .int s.jsonIndent), ("yaml_width", .int s.yamlWidth),
    ("literal_multiline", .bool s.literalMultiline)]

end Settings

end MonitoringConfig
