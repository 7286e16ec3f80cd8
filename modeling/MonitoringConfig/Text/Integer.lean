import MonitoringConfig.Text.Blank
import MonitoringConfig.Text.Digit
/-!
# Integers in texts

An integer is written with blanks around it, at most one sign, and decimal digits of any script,
between which single underscores may stand. The separators of ASCII, though blank elsewhere, do not
stand around integers.
-/

namespace MonitoringConfig.Text

/-- Whether a character may stand around an integer. -/
def isPadding (c : Char) : Bool :=
  isBlank c && !(28 ≤ c.toNat && c.toNat ≤ 31)

/-- The text without what stands around an integer. -/
def unpadded (cs : List Char) : List Char :=
  ((cs.dropWhile isPadding).reverse.dropWhile isPadding).reverse

/-- Reads the digits behind a digit; `total` is what was read before them. -/
def readDigits (total : Nat) : List Char → Option Nat
  | [] => some total
  | '_' :: c :: cs =>
    match digitValue? c with
    | some d => readDigits (10 * total + d) cs
    | none => none
  | c :: cs =>
    match digitValue? c with
    | some d => readDigits (10 * total + d) cs
    | none => none

/-- Reads an unsigned number: a digit, then digits and single underscores between digits. -/
def natural? : List Char → Option Nat
  | [] => none
  | c :: cs =>
    match digitValue? c with
    | some d => readDigits d cs
    | none => none

/-- Reads an integer. -/
def integer? (text : List Char) : Option Int :=
  match unpadded text with
  | '-' :: cs => (natural? cs).map fun n => -(n : Int)
  | '+' :: cs => (natural? cs).map fun n => (n : Int)
  | cs => (natural? cs).map fun n => (n : Int)

/-- Reads digits to a base, at least one. -/
def naturalIn? (base : Nat) (cs : List Char) : Option Nat :=
  if cs.isEmpty then none
  else cs.foldlM (fun n c => (digitIn? base c).map (base * n + ·)) 0

/-- Reads an integer to a base; a zero and the letter of the base may stand before its digits. -/
def integerIn? (base : Nat) (letter : Char) (text : List Char) : Option Int :=
  let unmarked (cs : List Char) : List Char := match cs with
    | '0' :: c :: ds => if c.toLower == letter then ds else cs
    | cs => cs
  match unpadded text with
  | '-' :: cs => (naturalIn? base (unmarked cs)).map fun n => -(n : Int)
  | '+' :: cs => (naturalIn? base (unmarked cs)).map fun n => (n : Int)
  | cs => (naturalIn? base (unmarked cs)).map fun n => (n : Int)

end MonitoringConfig.Text
