import MonitoringConfig.Text.Blank
/-!
# Label matchers

A matcher says something about one label: that its value is, or is not, a given text, or matches,
or does not match, a pattern. Its text is the name, the operator and the value in double quotes
(`service=~"api|web"`).

* `Matcher.format` writes a matcher.
* `Matcher.parse?` reads one; blanks around the three parts and the quotes may be missing.
* `escape` and `unescape` put a value between quotes and take it out again.
-/

namespace MonitoringConfig

/-- The operators of a matcher. -/
inductive MatchType where
  | equal | notEqual | regex | notRegex
  deriving DecidableEq, Repr

namespace MatchType

/-- All operators. -/
def all : List MatchType := [.equal, .notEqual, .regex, .notRegex]

/-- The text of an operator. -/
def symbol : MatchType → String
  | .equal => "="
  | .notEqual => "!="
  | .regex => "=~"
  | .notRegex => "!~"

/-- The operator with a text. -/
def ofSymbol? (s : String) : Option MatchType :=
  all.find? (·.symbol == s)

end MatchType

/-- A label name, an operator and a value. -/
structure Matcher where
  name : String
  op : MatchType
  value : String
  deriving DecidableEq, Repr

namespace Matcher

/-! ### Values between quotes -/

/-- A value as it stands between double quotes: backslashes, quotes and line breaks are escaped. -/
def escape : List Char → List Char
  | [] => []
  | '\\' :: cs => '\\' :: '\\' :: escape cs
  | '"' :: cs => '\\' :: '"' :: escape cs
  | '\n' :: cs => '\\' :: 'n' :: escape cs
  | c :: cs => c :: escape cs

/-- The character that an escape stands for, given the letter behind the backslash. -/
def escaped : Char → Char
  | 'n' => '\n'
  | 't' => '\t'
  | c => c

/-- The value that stands between quotes; a backslash at the end stands for itself. -/
def unescape : List Char → List Char
  | [] => []
  | ['\\'] => ['\\']
  | '\\' :: c :: cs => escaped c :: unescape cs
  | c :: cs => c :: unescape cs

/-- What stands between quotes is read back as the value it was written for. -/
theorem unescape_escape (cs : List Char) : unescape (escape cs) = cs := by
  fun_induction escape cs with
  | case1 => rfl
  | case2 cs ih => simp [unescape, escaped, ih]
  | case3 cs ih => simp [unescape, escaped, ih]
  | case4 cs ih => simp [unescape, escaped, ih]
  | case5 c cs hc _ _ ih =>
    rw [unescape.eq_4 c _ (fun h _ => hc h) (fun _ _ h _ => hc h), ih]

/-! ### Writing and reading -/

/-- The text of a matcher. -/
def format (m : Matcher) : String :=
  m.name ++ m.op.symbol ++ String.ofList ('"' :: escape m.value.toList ++ ['"'])

/-- Whether a character may stand in the name at the front of a matcher's text. -/
def isNameChar (c : Char) : Bool :=
  !(c == '=' || c == '!' || c == '~' || c == '"' || Text.isBlank c)

/-- The operator at the front of a text and what follows it; one of two characters is preferred. -/
def readOp? : List Char → Option (MatchType × List Char)
  | '!' :: '~' :: cs => some (.notRegex, cs)
  | '!' :: '=' :: cs => some (.notEqual, cs)
  | '=' :: '~' :: cs => some (.regex, cs)
  | '=' :: cs => some (.equal, cs)
  | _ => none

/-- The text between the quotes around it, if it is quoted. -/
def unquote? : List Char → Option (List Char)
  | '"' :: cs => if cs.getLast? == some '"' then some cs.dropLast else none
  | _ => none

/-- The value of a matcher, given what stands behind the operator. -/
def readValue (cs : List Char) : List Char :=
  let cs := Text.trim cs
  match unquote? cs with
  | some inner => unescape inner
  | none => cs

/-- Reads the text of a matcher. -/
def parse? (text : String) : Option Matcher :=
  let cs := Text.dropBlank text.toList
  let name := cs.takeWhile isNameChar
  if name.isEmpty then none
  else
    match readOp? (Text.dropBlank (cs.dropWhile isNameChar)) with
    | some (op, rest) => some ⟨String.ofList name, op, String.ofList (readValue rest)⟩
    | none => none

end Matcher

end MonitoringConfig
