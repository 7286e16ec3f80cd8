import MonitoringConfig.Number.Binary64
/-!
# Shortest decimals

The decimal that stands for a binary floating-point number in texts: of the decimals that read back
as the number it has the fewest digits, and of those it lies nearest, a tie going to the even last
digit.

A decimal reads back as `m · 2 ^ e` when it lies between the midpoints to the neighbouring numbers,
the midpoints themselves included when `m` is even. All is compared in quarters of a unit in the
last place: `4 m` is the number, `4 m + 2` the upper midpoint and `4 m - 2` the lower one, which is
`4 m - 1` where the exponent changes below the number.
-/

namespace MonitoringConfig

/-- The decimal `± digits · 10 ^ exponent`. -/
structure Decimal where
  negative : Bool
  digits : Nat
  exponent : Int
  deriving DecidableEq, Repr, Inhabited

namespace Shortest

/-- A positive number together with the interval of what reads back as it, as multiples of
`unit.1 / unit.2`. -/
structure Rounding where
  lower : Nat
  value : Nat
  upper : Nat
  closed : Bool
  unit : Nat × Nat

/-- The interval of decimals that read back as `mantissa · 2 ^ exponent`. -/
def Rounding.of (mantissa : Nat) (exponent : Int) : Rounding where
  lower :=
    if mantissa == Nat.pow 2 52 && exponent > Binary64.minExponent then 4 * mantissa - 1
    else 4 * mantissa - 2
  value := 4 * mantissa
  upper := 4 * mantissa + 2
  closed := mantissa % 2 == 0
  unit := if 2 ≤ exponent then (Nat.pow 2 (exponent - 2).toNat, 1)
    else (1, Nat.pow 2 (2 - exponent).toNat)

/-- `digits · 10 ^ exponent` as a fraction. -/
def fraction (digits : Nat) (exponent : Int) : Nat × Nat :=
  if 0 ≤ exponent then (digits * Nat.pow 10 exponent.toNat, 1)
  else (digits, Nat.pow 10 (-exponent).toNat)

/-- Whether the decimal `digits · 10 ^ exponent` lies in the interval. -/
def Rounding.holds (r : Rounding) (digits : Nat) (exponent : Int) : Bool :=
  let (num, den) := fraction digits exponent
  let point := num * r.unit.2
  let low := r.lower * r.unit.1 * den
  let high := r.upper * r.unit.1 * den
  if r.closed then low ≤ point && point ≤ high else low < point && point < high

/-- The number as a fraction. -/
def Rounding.exact (r : Rounding) : Nat × Nat :=
  (r.value * r.unit.1, r.unit.2)

/-- The `position` for which `10 ^ (position - 1) ≤ num / den < 10 ^ position`. -/
def magnitude (num den : Nat) : Int :=
  if den ≤ num then ((Nat.toDigits 10 (num / den)).length : Int)
  else
    let zeros := (Nat.toDigits 10 (den / num)).length
    if den ≤ num * Nat.pow 10 (zeros - 1) then 2 - (zeros : Int) else 1 - (zeros : Int)

/-- The multiple of `10 ^ exponent` nearest to the number among its two neighbours on that grid
that read back as the number, if any does. -/
def onGrid? (r : Rounding) (exponent : Int) : Option Nat :=
  let (num, den) := r.exact
  let (n, d) := if 0 ≤ exponent then (num, den * Nat.pow 10 exponent.toNat)
    else (num * Nat.pow 10 (-exponent).toNat, den)
  let below := n / d
  let twice := 2 * (n % d)
  match r.holds below exponent, r.holds (below + 1) exponent with
  | true, true =>
    some (if twice < d then below else if d < twice then below + 1 else below + below % 2)
  | true, false => some below
  | false, true => some (below + 1)
  | false, false => none

/-- The first grid with a multiple that reads back, of `count` grids, each ten times as fine as
the one before. -/
def search (r : Rounding) (exponent : Int) : Nat → Nat × Int
  | 0 => (r.exact.1 / r.exact.2, 0)
  | count + 1 =>
    match onGrid? r exponent with
    | some digits => (digits, exponent)
    | none => search r (exponent - 1) count

/-- The digits without the zeros at their end, the exponent counting those. -/
def stripZeros (digits : Nat) (exponent : Int) : Nat → Nat × Int
  | 0 => (digits, exponent)
  | fuel + 1 =>
    if digits != 0 && digits % 10 == 0 then stripZeros (digits / 10) (exponent + 1) fuel
    else (digits, exponent)

end Shortest

/-- The shortest decimal of a finite number. -/
def Binary64.shortest? : Binary64 → Option Decimal
  | .finite negative mantissa exponent =>
    if mantissa == 0 then some ⟨negative, 0, 0⟩
    else
      let r := Shortest.Rounding.of mantissa exponent
      let start := Shortest.magnitude r.exact.1 r.exact.2 - 1
      let (digits, power) := Shortest.search r start 18
      let (digits, power) := Shortest.stripZeros digits power 20
      some ⟨negative, digits, power⟩
  | _ => none

end MonitoringConfig
