import MonitoringConfig.Number.Text
import MonitoringConfig.Text.Base64
import MonitoringConfig.Text.Integer
import MonitoringConfig.Value
import MonitoringConfig.Yaml.Implicit
import MonitoringConfig.Yaml.Token
/-!
# What scalars mean

The value of a scalar by its tag. A tag can be asked for by name, so its text need not have the form
that plain texts of the tag have.

* `scalarValue` is the value of a scalar.
-/

namespace MonitoringConfig.Yaml

/-- The fault of a text that stands for no value of its type. -/
def badValue : Fault :=
  .meaningless .badValue

/-- The value, or the fault of a text that stands for none. -/
def orBad {α : Type} : Option α → Except Fault α
  | some a => .ok a
  | none => .error badValue

/-- The sign of a number, and what stands behind it; there must be a text. -/
def splitSign : List Char → Except Fault (Bool × List Char)
  | [] => .error (.meaningless .noSuchPosition)
  | '-' :: cs => .ok (true, cs)
  | '+' :: cs => .ok (false, cs)
  | cs => .ok (false, cs)

/-- The integer that digits stand for without a sign: to base two, sixteen or eight with a mark at
the front, to base sixty with colons, and to base ten otherwise. -/
def unsignedInt (cs : List Char) : Except Fault Int :=
  match cs with
  | [] => .error (.meaningless .noSuchPosition)
  | ['0'] => .ok 0
  | '0' :: 'b' :: ds => orBad (Text.integerIn? 2 'b' ds)
  | '0' :: 'x' :: ds => orBad (Text.integerIn? 16 'x' ds)
  | '0' :: ds => orBad (Text.integerIn? 8 'o' ('0' :: ds))
  | cs =>
    if cs.contains ':' then
      orBad ((colonParts cs).foldlM (fun n part => (Text.integer? part).map (60 * n + ·)) 0)
    else orBad (Text.integer? cs)

/-- The integer that a text stands for. -/
def intMeaning (cs : List Char) : Except Fault Int := do
  let (negative, ds) ← splitSign (cs.filter (· != '_'))
  let n ← unsignedInt ds
  return if negative then -n else n

/-- The sum of numbers to base sixty, the last first; `power` is what the next one counts. -/
def sexagesimal (total : Binary64) (power : Nat) : List Binary64 → Binary64
  | [] => total
  | x :: xs => sexagesimal (total.add (x.mul (Binary64.ofInt power))) (60 * power) xs

/-- The floating-point number that a text stands for. -/
def floatMeaning (cs : List Char) : Except Fault Binary64 := do
  let (negative, ds) ← splitSign ((cs.filter (· != '_')).map Char.toLower)
  let x ←
    if ds == ".inf".toList then pure (.infinite false)
    else if ds == ".nan".toList then pure .nan
    else if ds.contains ':' then
      let parts ← orBad ((colonParts ds).mapM Binary64.read?)
      pure (sexagesimal (.zero false) 1 parts.reverse)
    else orBad (Binary64.read? ds)
  return if negative then x.neg else x

/-- The first six digits of a fraction as millionths. -/
def millionths (ds : List Char) : Nat :=
  let six := ds.take 6
  natOf six * Nat.pow 10 (6 - six.length)

/-- How many seconds a clock is ahead, if it is less than a day. -/
def offsetSeconds (negative : Bool) (hours minutes : Nat) : Option Int :=
  let seconds : Nat := hours * 3600 + minutes * 60
  if seconds < 86400 then some (if negative then -(seconds : Int) else seconds) else none

/-- A text without a line break at its end. -/
def dropLastBreak (cs : List Char) : List Char :=
  if cs.getLast? == some '\n' then cs.dropLast else cs

/-- The day or the moment that a text stands for; `source` is where it stands. -/
def timeMeaning (cs : List Char) (source : Nat) : Except Fault Value := do
  let some t := timestampText? (dropLastBreak cs) | .error (.meaningless .noSuchMember)
  let day : Date := ⟨t.year, t.month, t.day⟩
  let valid := day.isValid && 0 < t.year
  match t.clock? with
  | none => if valid then return .date day source else .error badValue
  | some (hour, minute, second, fraction) =>
    let offset ← match t.offset? with
      | none => pure none
      | some (negative, hours, minutes) =>
        (orBad (offsetSeconds negative hours minutes)).map some
    if valid && hour < 24 && minute < 60 && second < 60 then
      return .moment ⟨day, hour, minute, second, millionths fraction, offset⟩ source
    else .error badValue

/-- The bytes that a text stands for. -/
def binaryMeaning (cs : List Char) : Except Fault Value :=
  match Text.ofBase64? cs with
  | some data => if cs.all fun c => c.toNat < 128 then .ok (.bytes data) else .error .malformed
  | none => .error .malformed

/-- The value of a scalar; `source` is where it stands. -/
def scalarValue (tag : Tag) (text : String) (source : Nat) : Except Fault Value :=
  let cs := text.toList
  match tag with
  | .null => .ok .null
  | .bool => match boolWord? (cs.map Char.toLower) with
    | some b => .ok (.bool b)
    | none => .error (.meaningless .missingKey)
  | .int => (intMeaning cs).map .int
  | .float => (floatMeaning cs).map .float
  | .text => .ok (.text text)
  | .timestamp => timeMeaning cs source
  | .binary => binaryMeaning cs
  | _ => .error .malformed

end MonitoringConfig.Yaml
