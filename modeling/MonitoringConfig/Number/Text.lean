import MonitoringConfig.Number.Shortest
import MonitoringConfig.Text.Blank
import MonitoringConfig.Text.Digit
/-!
# Numbers in texts

How numbers are written and read. A floating-point number is written by its shortest decimal: with
a fraction where its magnitude allows, with a power of ten otherwise (`Binary64.text`), or always
with a fraction and without needless zeros (`Decimal.positional`).
-/

namespace MonitoringConfig

/-- The decimal digits of a natural number. -/
def digitsText (n : Nat) : List Char :=
  Nat.toDigits 10 n

/-- The text of an integer. -/
def intText (n : Int) : String :=
  String.ofList (if n < 0 then '-' :: digitsText n.natAbs else digitsText n.natAbs)

namespace Decimal

/-- The digits before the point and the digits behind it. -/
def parts (d : Decimal) : List Char × List Char :=
  let digits := digitsText d.digits
  if 0 ≤ d.exponent then (digits ++ List.replicate d.exponent.toNat '0', [])
  else
    let places := (-d.exponent).toNat
    let padded := List.replicate (places + 1 - digits.length) '0' ++ digits
    (padded.take (padded.length - places), padded.drop (padded.length - places))

/-- The sign of a decimal as it is written. -/
def signText (d : Decimal) : List Char :=
  if d.negative then ['-'] else []

/-- A decimal without a power of ten: its integer part and, where it has one, its fraction. -/
def positional (d : Decimal) : String :=
  let (whole, fraction) := d.parts
  String.ofList (d.signText ++ whole ++ if fraction.isEmpty then [] else '.' :: fraction)

/-- A power of ten behind its mark: a sign and at least two digits. -/
def powerText (power : Int) : List Char :=
  let digits := digitsText power.natAbs
  'e' :: (if power < 0 then '-' else '+') :: List.replicate (2 - digits.length) '0' ++ digits

/-- A decimal with one digit before the point and a power of ten. -/
def scientific (d : Decimal) : String :=
  let digits := digitsText d.digits
  let power := d.exponent + digits.length - 1
  let fraction := digits.drop 1
  String.ofList (d.signText ++ digits.take 1
    ++ (if fraction.isEmpty then [] else '.' :: fraction) ++ powerText power)

/-- Where the point stands, counted from the first digit. -/
def pointPosition (d : Decimal) : Int :=
  d.exponent + (digitsText d.digits).length

/-- A decimal as numbers are shown: positional where the point stands at most 16 digits behind the
first digit and less than four zeros before it, with a fraction in any case. -/
def shown (d : Decimal) : String :=
  if d.digits == 0 || (-4 < d.pointPosition && d.pointPosition ≤ 16) then
    if 0 ≤ d.exponent then d.positional ++ ".0" else d.positional
  else d.scientific

end Decimal

namespace Binary64

/-- The text of a floating-point number. -/
def text (x : Binary64) : String :=
  match x with
  | .nan => "nan"
  | .infinite negative => if negative then "-inf" else "inf"
  | x => match x.shortest? with
    | some d => d.shown
    | none => "nan"

/-- The decimal digits at the front of a text, single underscores between them allowed, as a number
with their count, and what follows. -/
def spanDigits (total count : Nat) : List Char → (Nat × Nat) × List Char
  | [] => ((total, count), [])
  | '_' :: c :: cs =>
    match Text.digitValue? c with
    | some d => if count == 0 then ((total, count), '_' :: c :: cs)
      else spanDigits (10 * total + d) (count + 1) cs
    | none => ((total, count), '_' :: c :: cs)
  | c :: cs =>
    match Text.digitValue? c with
    | some d => spanDigits (10 * total + d) (count + 1) cs
    | none => ((total, count), c :: cs)

/-- Reads the power of ten at the end of a number. -/
def readPower : List Char → Option Int
  | [] => some 0
  | c :: cs =>
    if c == 'e' || c == 'E' then
      let (negative, digits) := match cs with
        | '-' :: r => (true, r)
        | '+' :: r => (false, r)
        | r => (false, r)
      match spanDigits 0 0 digits with
      | ((power, count), []) =>
        if count == 0 then none else some (if negative then -(power : Int) else power)
      | _ => none
    else none

/-- Reads an unsigned number: digits, a fraction, a power of ten, or one of the words for infinity
and what is no number. -/
def readUnsigned (negative : Bool) (cs : List Char) : Option Binary64 :=
  match String.ofList (cs.map Char.toLower) with
  | "inf" | "infinity" => some (.infinite negative)
  | "nan" => some .nan
  | _ =>
    let ((whole, wholeCount), rest) := spanDigits 0 0 cs
    let ((total, count), rest) := match rest with
      | '.' :: r =>
        let ((fraction, places), rest) := spanDigits 0 0 r
        ((whole * Nat.pow 10 places + fraction, places), rest)
      | r => ((whole, 0), r)
    if wholeCount + count == 0 then none
    else (readPower rest).map fun power => ofDecimal negative total (power - count)

/-- Reads a floating-point number with blanks around it. -/
def read? (text : List Char) : Option Binary64 :=
  match Text.trim text with
  | '-' :: cs => readUnsigned true cs
  | '+' :: cs => readUnsigned false cs
  | cs => readUnsigned false cs

end Binary64

end MonitoringConfig
