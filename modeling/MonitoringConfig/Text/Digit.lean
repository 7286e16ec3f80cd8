/-!
# Digits

Every script's decimal digits stand in a run of ten code points, zero first, so the class is given
by its zeros. Digits to higher bases go on with the letters of ASCII.
-/

namespace MonitoringConfig.Text

/-- The code points of the zeros. -/
def digitZeros : Array Nat := #[
  48, 1632, 1776, 1984, 2406, 2534, 2662, 2790, 2918, 3046, 3174, 3302, 3430, 3558, 3664, 3792,
  3872, 4160, 4240, 6112, 6160, 6470, 6608, 6784, 6800, 6992, 7088, 7232, 7248, 42528, 43216,
  43264, 43472, 43504, 43600, 44016, 65296, 66720, 68912, 69734, 69872, 69942, 70096, 70384, 70736,
  70864, 71248, 71360, 71472, 71904, 72016, 72784, 73040, 73120, 92768, 92864, 93008, 120782,
  120792, 120802, 120812, 120822, 123200, 123632, 125264, 130032]

/-- The value of a decimal digit of any script. -/
def digitValue? (c : Char) : Option Nat :=
  (digitZeros.find? fun start => start ≤ c.toNat && c.toNat < start + 10).map (c.toNat - ·)

/-- Whether a character is a decimal digit of some script. -/
def isDecimalDigit (c : Char) : Bool :=
  (digitValue? c).isSome

/-- The value of an ASCII digit to base sixteen. -/
def hexValue? (c : Char) : Option Nat :=
  if c.isDigit then some (c.toNat - '0'.toNat)
  else if 'a' ≤ c && c ≤ 'f' then some (c.toNat - 'a'.toNat + 10)
  else if 'A' ≤ c && c ≤ 'F' then some (c.toNat - 'A'.toNat + 10)
  else none

/-- Whether a character is an ASCII digit to base sixteen. -/
def isHexDigit (c : Char) : Bool :=
  (hexValue? c).isSome

/-- The number of ASCII digits to base sixteen. -/
def hexNumber (ds : List Char) : Nat :=
  ds.foldl (fun n d => 16 * n + (hexValue? d).getD 0) 0

/-- The value of a digit to a base of at most sixteen, decimal digits being of any script. -/
def digitIn? (base : Nat) (c : Char) : Option Nat :=
  (digitValue? c <|> hexValue? c).filter (· < base)

end MonitoringConfig.Text
