/-!
# Ranges of code points

A class of characters is stored as the increasing list of its maximal ranges of code points,
both ends included. `covers` asks whether a table holds a code point.
-/

namespace MonitoringConfig.Text

/-- Whether some range of the table holds the code point. -/
def covers (table : Array (Nat × Nat)) (point : Nat) : Bool :=
  table.any fun range => range.1 ≤ point && point ≤ range.2

end MonitoringConfig.Text
