import MonitoringConfig.Text.Ranges
import MonitoringConfig.Text.Case.Table
/-!
# Letter case

Lower and upper case of texts of any script. The one rule that looks at the neighbours is that of
the capital sigma: at the end of a word its lower case is the final sigma.
-/

namespace MonitoringConfig.Text

/-- The code point that a table of runs maps a code point to. -/
def shifted (runs : Array (Nat × Nat × Nat × Int)) (point : Nat) : Nat :=
  match runs.find? fun (first, last, step, _) =>
      first ≤ point && point ≤ last && (point - first) % step == 0 with
  | some (_, _, _, shift) => ((point : Int) + shift).toNat
  | none => point

/-- The lower case of a character that maps to one character, whatever stands beside it. -/
def lowerChar (c : Char) : Char :=
  if c.toNat < 128 then c.toLower
  else if c.toNat == 304 then 'i'
  else Char.ofNat (shifted lowerRuns c.toNat)

/-- The upper case of a character. -/
def upperChar (c : Char) : List Char :=
  if c.toNat < 128 then [c.toUpper]
  else match upperSpecial.find? (·.1 == c.toNat) with
    | some (_, points) => points.map Char.ofNat
    | none => [Char.ofNat (shifted upperRuns c.toNat)]

/-- Whether casing looks through the character to the one behind it. -/
def isCaseIgnorable (c : Char) : Bool :=
  covers caseIgnorableRanges c.toNat

/-- Whether the first character that casing does not look through has case. -/
def startsCased (cs : List Char) : Bool :=
  match cs.dropWhile isCaseIgnorable with
  | [] => false
  | c :: _ => covers casedRanges c.toNat

/-- `lowerFrom before cs` is the lower case of `cs`, which stands behind the reverse of `before`. -/
def lowerFrom (before : List Char) : List Char → List Char
  | [] => []
  | c :: cs =>
    let written :=
      if c.toNat == 0x3A3 then
        [if startsCased before && !startsCased cs then Char.ofNat 0x3C2 else Char.ofNat 0x3C3]
      else if c.toNat == 304 then ['i', Char.ofNat 775]
      else [lowerChar c]
    written ++ lowerFrom (c :: before) cs

/-- The lower case of a text. -/
def lower (cs : List Char) : List Char :=
  lowerFrom [] cs

/-- The upper case of a text. -/
def upper (cs : List Char) : List Char :=
  cs.flatMap upperChar

/-- The characters that count as the same letter as `c` when case is ignored, `c` being in lower
case. -/
def caseVariants (c : Char) : List Char :=
  match caseFolds.find? (·.1 == c.toNat) with
  | some (_, points) => c :: points.map Char.ofNat
  | none => [c]

end MonitoringConfig.Text
