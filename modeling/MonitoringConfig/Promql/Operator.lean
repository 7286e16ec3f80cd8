/-!
# Binary operators

The operators between two expressions: arithmetic, comparisons and set operations.
-/

namespace MonitoringConfig.Promql

/-- The binary operators. -/
inductive Operator where
  | add | sub | mul | div | mod | pow
  | equal | notEqual | greater | less | greaterEqual | lessEqual
  | intersection | union | complement
  deriving DecidableEq, Repr

namespace Operator

/-- All operators. -/
def all : List Operator :=
  [add, sub, mul, div, mod, pow, equal, notEqual, greater, less, greaterEqual, lessEqual,
    intersection, union, complement]

/-- The text of an operator. -/
def symbol : Operator → String
  | add => "+"
  | sub => "-"
  | mul => "*"
  | div => "/"
  | mod => "%"
  | pow => "^"
  | equal => "=="
  | notEqual => "!="
  | greater => ">"
  | less => "<"
  | greaterEqual => ">="
  | lessEqual => "<="
  | intersection => "and"
  | union => "or"
  | complement => "unless"

/-- The operator with a text. -/
def ofSymbol? (s : String) : Option Operator :=
  all.find? (·.symbol == s)

/-- Whether an operator compares, so that it can be asked for a truth value. -/
def isComparison : Operator → Bool
  | equal | notEqual | greater | less | greaterEqual | lessEqual => true
  | _ => false

end Operator

end MonitoringConfig.Promql
