import MonitoringConfig.Text.Ranges
import MonitoringConfig.Text.Printable.Table
/-!
# Printable characters

The characters a quoted text shows as themselves.
-/

namespace MonitoringConfig.Text

/-- Whether a character can be shown as itself. -/
def isPrintable (c : Char) : Bool :=
  if c.toNat < 128 then 32 ≤ c.toNat && c.toNat < 127 else covers printableRanges c.toNat

end MonitoringConfig.Text
