import MonitoringConfig.Text.Ranges
/-!
# White space

Which characters are blank, and the trimming and splitting of texts at blanks. The class is that
of the Unicode characters with bidirectional type white space, block or segment separator
together with the space separators.
-/

namespace MonitoringConfig.Text

/-- The blank code points. -/
def blankRanges : Array (Nat × Nat) := #[
  (9, 13), (28, 32), (133, 133), (160, 160), (5760, 5760), (8192, 8202), (8232, 8233),
  (8239, 8239), (8287, 8287), (12288, 12288)]

/-- Whether a character is white space. -/
def isBlank (c : Char) : Bool :=
  covers blankRanges c.toNat

/-- The text without the blanks it starts with. -/
def dropBlank (cs : List Char) : List Char :=
  cs.dropWhile isBlank

/-- The text without the blanks it ends with. -/
def dropBlankEnd (cs : List Char) : List Char :=
  (cs.reverse.dropWhile isBlank).reverse

/-- The text without the blanks at its two ends. -/
def trim (cs : List Char) : List Char :=
  dropBlankEnd (dropBlank cs)

/-- `wordsFrom word cs` are the maximal runs of characters that are not blank in `cs`, the first of
them continued from `word` (which is held in reverse). -/
def wordsFrom (word : List Char) : List Char → List (List Char)
  | [] => if word.isEmpty then [] else [word.reverse]
  | c :: cs =>
    if isBlank c then
      if word.isEmpty then wordsFrom [] cs else word.reverse :: wordsFrom [] cs
    else wordsFrom (c :: word) cs

/-- The maximal runs of characters that are not blank. -/
def words (cs : List Char) : List (List Char) :=
  wordsFrom [] cs

end MonitoringConfig.Text
