import MonitoringConfig.Text.Printable
/-!
# Quoted texts

The form in which an error message shows a text: in single quotes, unless the text holds single
quotes and no double quote, with backslash escapes for the quote, the backslash, line breaks, tabs
and all that cannot be printed.
-/

namespace MonitoringConfig.Text

/-- The hexadecimal digits of a number, in lower case, filled up with zeros to a width. -/
def hexPadded (width : Nat) (n : Nat) : List Char :=
  let digits := Nat.toDigits 16 n
  List.replicate (width - digits.length) '0' ++ digits

/-- A character that cannot be printed, by the shortest of the escapes `\xNN`, `\uNNNN` and
`\UNNNNNNNN` that holds it. -/
def hexEscape (c : Char) : List Char :=
  let n := c.toNat
  if n < 0x100 then '\\' :: 'x' :: hexPadded 2 n
  else if n < 0x10000 then '\\' :: 'u' :: hexPadded 4 n
  else '\\' :: 'U' :: hexPadded 8 n

/-- A character as it is shown between the given quotes. -/
def quotedChar (quote c : Char) : List Char :=
  if c == quote || c == '\\' then ['\\', c]
  else if c == '\n' then ['\\', 'n']
  else if c == '\r' then ['\\', 'r']
  else if c == '\t' then ['\\', 't']
  else if isPrintable c then [c]
  else hexEscape c

/-- The quote put around a text: double only where that saves escaping. -/
def quoteFor (cs : List Char) : Char :=
  if cs.contains '\'' && !cs.contains '"' then '"' else '\''

/-- A text as error messages show it. -/
def quoted (s : String) : String :=
  let quote := quoteFor s.toList
  String.ofList (quote :: s.toList.flatMap (quotedChar quote) ++ [quote])

end MonitoringConfig.Text
