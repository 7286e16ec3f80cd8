/-!
# Binary floating-point numbers

The numbers of the 64-bit binary format, by their exact values: a finite number is
`± mantissa · 2 ^ exponent`. Every operation rounds its exact result to the nearest number of the
format, a tie to the even mantissa, in `Nat` arithmetic.
-/

namespace MonitoringConfig

/-- A 64-bit binary floating-point number. A finite one has a mantissa below `2 ^ 53` and an
exponent from `-1074` to `971`; the mantissa is at least `2 ^ 52` unless the exponent is least. -/
inductive Binary64 where
  | nan
  | infinite (negative : Bool)
  | finite (negative : Bool) (mantissa : Nat) (exponent : Int)
  deriving DecidableEq, Repr, Inhabited

namespace Binary64

/-- The least exponent of a finite number. -/
def minExponent : Int := -1074

/-- The greatest exponent of a finite number. -/
def maxExponent : Int := 971

/-- Zero, with the given sign. -/
def zero (negative : Bool) : Binary64 :=
  .finite negative 0 minExponent

/-- The quotient of two numbers rounded to the nearest integer, a tie to the even one. -/
def roundedDiv (num den : Nat) : Nat :=
  let q := num / den
  let twice := 2 * (num % den)
  if twice < den then q
  else if den < twice then q + 1
  else q + q % 2

/-- `num / den` divided by `2 ^ exponent`, as a fraction. -/
def scaleDown (num den : Nat) (exponent : Int) : Nat × Nat :=
  if 0 ≤ exponent then (num, den * Nat.pow 2 exponent.toNat)
  else (num * Nat.pow 2 (-exponent).toNat, den)

/-- The exponent at which the mantissa of `num / den` has 53 binary digits, the least exponent if
that is smaller. -/
def exponentOf (num den : Nat) : Int :=
  let guess : Int := (Nat.log2 num : Int) - Nat.log2 den - 52
  let (n, d) := scaleDown num den guess
  max (if n < d * Nat.pow 2 52 then guess - 1 else guess) minExponent

/-- The number nearest to `± num / den`; what lies too far from zero becomes infinite. -/
def ofRatio (negative : Bool) (num den : Nat) : Binary64 :=
  if num == 0 then zero negative
  else
    let exponent := exponentOf num den
    let (n, d) := scaleDown num den exponent
    let mantissa := roundedDiv n d
    let (mantissa, exponent) :=
      if mantissa == Nat.pow 2 53 then (Nat.pow 2 52, exponent + 1) else (mantissa, exponent)
    if exponent > maxExponent then .infinite negative else .finite negative mantissa exponent

/-- The number nearest to an integer. -/
def ofInt (n : Int) : Binary64 :=
  ofRatio (n < 0) n.natAbs 1

/-- The number nearest to `± digits · 10 ^ exponent`. Beyond `10 ^ 310` and below `10 ^ -330` the
power is not computed: the one is infinite and the other zero. -/
def ofDecimal (negative : Bool) (digits : Nat) (exponent : Int) : Binary64 :=
  let magnitude := exponent + (Nat.toDigits 10 digits).length
  if digits == 0 || magnitude < -330 then zero negative
  else if 310 < magnitude then .infinite negative
  else if 0 ≤ exponent then ofRatio negative (digits * Nat.pow 10 exponent.toNat) 1
  else ofRatio negative digits (Nat.pow 10 (-exponent).toNat)

/-- Whether the number is finite. -/
def isFinite : Binary64 → Bool
  | .finite .. => true
  | _ => false

/-- Whether the number is zero, of either sign. -/
def isZero : Binary64 → Bool
  | .finite _ mantissa _ => mantissa == 0
  | _ => false

/-- The number with the other sign. -/
def neg : Binary64 → Binary64
  | .nan => .nan
  | .infinite negative => .infinite (!negative)
  | .finite negative mantissa exponent => .finite (!negative) mantissa exponent

/-- A finite number as a fraction of integers with a positive denominator. -/
def ratio? : Binary64 → Option (Int × Nat)
  | .finite negative mantissa exponent =>
    let sign : Int := if negative then -1 else 1
    if 0 ≤ exponent then some (sign * (mantissa * Nat.pow 2 exponent.toNat : Nat), 1)
    else some (sign * mantissa, Nat.pow 2 (-exponent).toNat)
  | _ => none

/-- The number nearest to a fraction with a positive denominator. -/
def ofFraction (num : Int) (den : Nat) : Binary64 :=
  ofRatio (num < 0) num.natAbs den

/-- The sum of two finite numbers. -/
def add (x y : Binary64) : Binary64 :=
  match x.ratio?, y.ratio? with
  | some (a, b), some (c, d) => ofFraction (a * d + c * b) (b * d)
  | _, _ => .nan

/-- The product of two finite numbers. -/
def mul (x y : Binary64) : Binary64 :=
  match x.ratio?, y.ratio? with
  | some (a, b), some (c, d) => ofFraction (a * c) (b * d)
  | _, _ => .nan

/-- How two numbers compare by value; nothing compares with what is not a number. -/
def compare? (x y : Binary64) : Option Ordering :=
  match x, y with
  | .nan, _ | _, .nan => none
  | .infinite a, .infinite b => some (if a == b then .eq else if a then .lt else .gt)
  | .infinite a, _ => some (if a then .lt else .gt)
  | _, .infinite b => some (if b then .gt else .lt)
  | x, y =>
    match x.ratio?, y.ratio? with
    | some (a, b), some (c, d) => some (compare (a * d) (c * b))
    | _, _ => none

/-- How a number compares by value with an integer. -/
def compareInt? (x : Binary64) (n : Int) : Option Ordering :=
  match x with
  | .nan => none
  | .infinite negative => some (if negative then .lt else .gt)
  | x => x.ratio?.map fun (a, b) => compare a (n * b)

/-- Equality by value: the two zeros are equal, and what is not a number equals nothing. -/
def equal (x y : Binary64) : Bool :=
  x.compare? y == some .eq

end Binary64

end MonitoringConfig
