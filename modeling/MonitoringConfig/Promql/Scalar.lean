import MonitoringConfig.Number.Text
/-!
# Numbers in expressions

A number of an expression is an integer or a floating-point number. It is written as the shortest
decimal of its floating-point value, without a power of ten and without zeros at the end of the
fraction.
-/

namespace MonitoringConfig.Promql

/-- A number as it was given. -/
inductive Scalar where
  | int (n : Int)
  | float (x : Binary64)
  deriving DecidableEq, Repr, Inhabited

namespace Scalar

/-- The floating-point value of a number. -/
def value : Scalar → Binary64
  | int n => .ofInt n
  | float x => x

/-- Whether the number has a floating-point value: an integer beyond all of them has none. -/
def isRepresentable : Scalar → Bool
  | int n => (Binary64.ofInt n).isFinite
  | float _ => true

/-- Equality by value, integers taken exactly. -/
def equal : Scalar → Scalar → Bool
  | int a, int b => a == b
  | int a, float y => y.compareInt? a == some .eq
  | float x, int b => x.compareInt? b == some .eq
  | float x, float y => x.equal y

end Scalar

/-- The text of a floating-point number in an expression. -/
def formatNumber (x : Binary64) : String :=
  match x with
  | .nan => "NaN"
  | .infinite negative => if negative then "-Inf" else "+Inf"
  | x =>
    if x.isZero then "0"
    else match x.shortest? with
      | some d => d.positional
      | none => "NaN"

/-- The text of a number in an expression. -/
def Scalar.text (s : Scalar) : String :=
  formatNumber s.value

end MonitoringConfig.Promql
