import MonitoringConfig.Text.Ranges
import MonitoringConfig.Text.Word.Table
/-!
# Word characters

Letters, digits and the underscore, of any script.
-/

namespace MonitoringConfig.Text

/-- Whether a character is a letter, a digit or the underscore, among the first 128. -/
def isAsciiWord (c : Char) : Bool :=
  c.isAlphanum || c == '_'

/-- Whether a character is a letter, a number or the underscore. -/
def isWord (c : Char) : Bool :=
  if c.toNat < 128 then isAsciiWord c else covers wordRanges c.toNat

end MonitoringConfig.Text
