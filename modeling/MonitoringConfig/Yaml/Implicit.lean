import MonitoringConfig.Text.Digit
import MonitoringConfig.Yaml.Node
/-!
# What plain texts stand for

A plain text may stand for a truth value, a number, a time or nothing. The rules are those of
version 1.1 of the format: `yes` is true, `017` is a number to base eight, `17:00` one to base
sixty, and `1e5` is a text.
-/

namespace MonitoringConfig.Yaml

/-- Whether a character is an ASCII digit or an underscore. -/
def isDigitOrLine (c : Char) : Bool :=
  c.isDigit || c == '_'

/-- A text without a sign at its front. -/
def dropSign : List Char → List Char
  | '-' :: cs => cs
  | '+' :: cs => cs
  | cs => cs

/-- The words for the truth values. -/
def boolWord? : List Char → Option Bool := fun cs =>
  if ["yes", "Yes", "YES", "true", "True", "TRUE", "on", "On", "ON"].contains (String.ofList cs)
  then some true
  else if ["no", "No", "NO", "false", "False", "FALSE", "off", "Off", "OFF"].contains
    (String.ofList cs) then some false
  else none

/-- Whether a text is a word for nothing. -/
def isNullWord (cs : List Char) : Bool :=
  ["", "~", "null", "Null", "NULL"].contains (String.ofList cs)

/-- The parts of a text between colons. -/
def colonParts : List Char → List (List Char)
  | [] => [[]]
  | c :: cs =>
    if c == ':' then [] :: colonParts cs
    else match colonParts cs with
      | [] => [[c]]
      | part :: parts => (c :: part) :: parts

/-- Whether a text is a digit to base sixty: one decimal digit, or two of which the first is at most
five. -/
def isSixty : List Char → Bool
  | [c] => c.isDigit
  | [a, b] => '0' ≤ a && a ≤ '5' && b.isDigit
  | _ => false

/-- Whether a text is a row of at least two numbers to base sixty, the first of which is as
given. -/
def isSexagesimal (first : List Char → Bool) (cs : List Char) : Bool :=
  match colonParts cs with
  | head :: part :: parts => first head && (part :: parts).all isSixty
  | _ => false

/-- Whether a text is a power of ten, or nothing at all; its sign must be there. -/
def isExponent : List Char → Bool
  | [] => true
  | e :: s :: d :: ds =>
    (e == 'e' || e == 'E') && (s == '-' || s == '+') && (d :: ds).all Char.isDigit
  | _ => false

/-- Whether a text starts with a digit and goes on with digits and underscores. -/
def isDigits : List Char → Bool
  | [] => false
  | c :: cs => c.isDigit && cs.all isDigitOrLine

/-- Whether a text is a floating-point number. -/
def isFloatText (cs : List Char) : Bool :=
  let unsigned := dropSign cs
  let whole := unsigned.takeWhile (· != '.')
  match unsigned.dropWhile (· != '.') with
  | '.' :: rest =>
    let fraction := rest.takeWhile isDigitOrLine
    let behind := rest.dropWhile isDigitOrLine
    (isDigits whole && isExponent behind)
    || (cs.head? == some '.' && isDigits fraction && isExponent behind)
    || (isSexagesimal isDigits whole && behind.isEmpty)
    || (whole.isEmpty && ["inf", "Inf", "INF"].contains (String.ofList rest))
    || (cs.head? == some '.' && ["nan", "NaN", "NAN"].contains (String.ofList rest))
  | _ => false

/-- Whether a text starts with a digit that is not zero and goes on with digits and underscores. -/
def isPositiveDigits : List Char → Bool
  | c :: cs => '1' ≤ c && c ≤ '9' && cs.all isDigitOrLine
  | [] => false

/-- Whether a text is an integer. -/
def isIntText (cs : List Char) : Bool :=
  let unsigned := dropSign cs
  match unsigned with
  | '0' :: 'b' :: c :: rest => (c :: rest).all fun c => c == '0' || c == '1' || c == '_'
  | '0' :: 'x' :: c :: rest => (c :: rest).all fun c => Text.isHexDigit c || c == '_'
  | '0' :: rest => rest.all fun c => ('0' ≤ c && c ≤ '7') || c == '_'
  | unsigned => isPositiveDigits unsigned || isSexagesimal isPositiveDigits unsigned

/-! ### Times -/

/-- The parts of the text of a day, or of a moment of a day. -/
structure TimestampText where
  year : Nat
  month : Nat
  day : Nat
  clock? : Option (Nat × Nat × Nat × List Char) := none
  /-- The sign and the hours and minutes of the offset of the clock. -/
  offset? : Option (Bool × Nat × Nat) := none
  deriving Repr, Inhabited

/-- The number of a row of ASCII digits. -/
def natOf (ds : List Char) : Nat :=
  ds.foldl (fun n d => 10 * n + (d.toNat - '0'.toNat)) 0

/-- The digits at the front of a text, if their number is in a range. -/
def takeDigits (least most : Nat) (cs : List Char) : Option (Nat × List Char) :=
  let ds := (cs.takeWhile Char.isDigit).take most
  if least ≤ ds.length then some (natOf ds, cs.drop ds.length) else none

/-- What stands behind a given character. -/
def after (c : Char) : List Char → Option (List Char)
  | d :: cs => if d == c then some cs else none
  | [] => none

/-- A text without the spaces and tabs at its front. -/
def dropSpaces (cs : List Char) : List Char :=
  cs.dropWhile fun c => c == ' ' || c == '\t'

/-- The offset at the end of a time; a letter stands for universal time. -/
def offsetText? (cs : List Char) : Option (Option (Bool × Nat × Nat)) :=
  if cs.isEmpty then some none
  else match dropSpaces cs with
    | ['Z'] => some (some (false, 0, 0))
    | sign :: rest =>
      if sign == '-' || sign == '+' then do
        let (hours, rest) ← takeDigits 1 2 rest
        if rest.isEmpty then return some (sign == '-', hours, 0)
        else
          let (minutes, rest) ← takeDigits 2 2 (← after ':' rest)
          if rest.isEmpty then return some (sign == '-', hours, minutes) else none
      else none
    | [] => none

/-- The clock of a time and its offset. -/
def clockText? (cs : List Char) :
    Option ((Nat × Nat × Nat × List Char) × Option (Bool × Nat × Nat)) := do
  let (hour, cs) ← takeDigits 1 2 cs
  let (minute, cs) ← takeDigits 2 2 (← after ':' cs)
  let (second, cs) ← takeDigits 2 2 (← after ':' cs)
  let (fraction, cs) := match cs with
    | '.' :: rest => (rest.takeWhile Char.isDigit, rest.dropWhile Char.isDigit)
    | cs => ([], cs)
  let offset ← offsetText? cs
  return ((hour, minute, second, fraction), offset)

/-- Reads the text of a day or of a moment. -/
def timestampText? (cs : List Char) : Option TimestampText := do
  let (year, rest) ← takeDigits 4 4 cs
  let (month, rest) ← takeDigits 1 2 (← after '-' rest)
  let (day, rest) ← takeDigits 1 2 (← after '-' rest)
  if rest.isEmpty then return ⟨year, month, day, none, none⟩
  else
    let rest ← match rest with
      | 'T' :: rest => some rest
      | 't' :: rest => some rest
      | c :: rest => if c == ' ' || c == '\t' then some (dropSpaces rest) else none
      | [] => none
    let (clock, offset) ← clockText? rest
    return ⟨year, month, day, some clock, offset⟩

/-- Whether a plain text is a day or a moment; the month and the day of a day have two digits. -/
def isTimestampText (cs : List Char) : Bool :=
  match timestampText? cs with
  | some t => t.clock?.isSome || cs.length == 10
  | none => false

/-! ### The tag of a plain text -/

/-- The tag of a plain text. -/
def implicitTag (text : String) : Tag :=
  let cs := text.toList
  if (boolWord? cs).isSome then .bool
  else if isFloatText cs then .float
  else if isIntText cs then .int
  else if text == "<<" then .merge
  else if isNullWord cs then .null
  else if isTimestampText cs then .timestamp
  else if text == "=" then .value
  else .text

end MonitoringConfig.Yaml
