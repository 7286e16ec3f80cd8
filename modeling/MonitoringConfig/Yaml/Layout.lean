import MonitoringConfig.Text.Quoted
import MonitoringConfig.Yaml.Implicit
/-!
# Scalars on the page

How the text of a scalar is written: plain, in single or double quotes, or line by line. A page
remembers the column and what was written last, so that line breaks and spaces are put only where
they are missing.

* `Analysis.of` says which ways of writing a text has.
* `Page.plain`, `Page.singleQuoted`, `Page.doubleQuoted` and `Page.literal` write it.
-/

namespace MonitoringConfig.Yaml

/-! ### Which ways of writing a text has -/

/-- Whether a character breaks lines. -/
def isBreak (c : Char) : Bool :=
  c == '\n' || c.toNat == 0x85 || c.toNat == 0x2028 || c.toNat == 0x2029

/-- Whether a character separates words for the marks of the format. -/
def isSeparator (c : Char) : Bool :=
  c.toNat == 0 || c == ' ' || c == '\t' || c == '\r' || isBreak c

/-- Whether a character can be written without an escape. -/
def isWritable (c : Char) : Bool :=
  let n := c.toNat
  c == '\n' || (0x20 ≤ n && n ≤ 0x7E) || n == 0x85 || (0xA0 ≤ n && n ≤ 0xD7FF)
    || (0xE000 ≤ n && n ≤ 0xFFFD && n != 0xFEFF) || (0x10000 ≤ n && n < 0x10FFFF)

/-- The ways of writing that a text has. -/
structure Analysis where
  empty : Bool
  multiline : Bool
  plain : Bool
  single : Bool
  block : Bool
  deriving DecidableEq, Repr, Inhabited

/-- Whether some character of a text is a mark of the format, so that the text cannot be plain.
`before` says whether a separator stands before the text. -/
def hasMark (before : Bool) : List Char → Bool
  | [] => false
  | c :: cs =>
    (c == ':' && (cs.head?.map isSeparator).getD true) || (c == '#' && before)
      || hasMark (isSeparator c) cs

/-- Whether a text starts with a mark of the format. -/
def startsWithMark (cs : List Char) : Bool :=
  "---".toList.isPrefixOf cs || "...".toList.isPrefixOf cs ||
  match cs with
  | [] => false
  | c :: rest =>
    let separated := (rest.head?.map isSeparator).getD true
    ['#', ',', '[', ']', '\x7b', '\x7d', '&', '*', '!', '|', '>', '\'', '"', '%', '@',
      Char.ofNat 0x60].contains c
      || ((c == '?' || c == ':' || c == '-') && separated)

/-- Whether a character with the first property stands before one with the second. -/
def hasPair (first second : Char → Bool) : List Char → Bool
  | a :: b :: cs => (first a && second b) || hasPair first second (b :: cs)
  | _ => false

/-- The ways of writing that a text has. -/
def Analysis.of (text : String) : Analysis :=
  let cs := text.toList
  if cs.isEmpty then ⟨true, false, true, true, false⟩
  else
    let isSpace := fun c => c == ' '
    let edge := fun c => c == ' ' || isBreak c
    let multiline := cs.any isBreak
    let ragged := hasPair isSpace isBreak cs || !cs.all isWritable
    let indented := hasPair isBreak isSpace cs
    let atEdge := (cs.head?.map edge).getD false || (cs.getLast?.map edge).getD false
    { empty := false
      multiline
      plain := !(atEdge || indented || ragged || multiline || startsWithMark cs || hasMark true cs)
      single := !(indented || ragged)
      block := !((cs.getLast?.map isSpace).getD false || ragged) }

/-! ### Pages -/

/-- A page that is being written. -/
structure Page where
  out : String := ""
  column : Nat := 0
  /-- Whether the last thing written leaves space before the next. -/
  spaced : Bool := true
  /-- Whether only indentation and marks were written since the last line break. -/
  indented : Bool := true
  /-- Whether a reader could take what follows for a part of the last scalar. -/
  openEnded : Bool := false
  deriving Inhabited

namespace Page

/-- Writes text as it is. -/
def put (p : Page) (cs : List Char) : Page :=
  { p with out := p.out ++ String.ofList cs, column := p.column + cs.length }

/-- Breaks the line with the given character. -/
def breakWith (p : Page) (c : Char) : Page :=
  { p with out := p.out.push c, column := 0, spaced := true, indented := true }

/-- Breaks the line. -/
def newLine (p : Page) : Page :=
  p.breakWith '\n'

/-- Goes to the start of an indented line, on a new one unless the page is already there. -/
def indent (p : Page) (column : Nat) : Page :=
  let leaves := !p.indented || p.column > column || (p.column == column && !p.spaced)
  let p := if leaves then p.newLine else p
  if p.column < column then
    { p.put (List.replicate (column - p.column) ' ') with spaced := true }
  else p

/-- Writes a mark, behind a space if it needs one. `spaced` and `indented` say how the page stands
behind it. -/
def mark (p : Page) (text : String) (needsSpace spaced indented : Bool) : Page :=
  let cs := if p.spaced || !needsSpace then text.toList else ' ' :: text.toList
  { p.put cs with spaced, indented := p.indented && indented, openEnded := false }

/-- Goes on in the next line of a scalar. -/
def fold (p : Page) (column : Nat) : Page :=
  { p.indent column with spaced := false, indented := false }

end Page

/-- Where a scalar stands: how far its lines are indented, at which column they are folded, and
whether they may be. -/
structure Measure where
  indent : Nat
  width : Nat
  split : Bool
  deriving Inhabited

namespace Page

/-- The kinds of runs that a text is written in. -/
inductive RunKind where
  | spaces | breaks | word
  deriving DecidableEq, Repr

/-- The kind of run that a character belongs to. -/
def runKind (c : Char) : RunKind :=
  if c == ' ' then .spaces else if isBreak c then .breaks else .word

/-- The maximal runs of characters of one kind. -/
def runs (cs : List Char) : List (List Char) :=
  cs.splitBy fun a b => runKind a == runKind b

/-- Whether a run is one space behind the column at which lines are folded. -/
def folds (p : Page) (m : Measure) (run : List Char) : Bool :=
  run == [' '] && p.column > m.width && m.split

/-- Writes the runs of a plain text. -/
def plainRuns (m : Measure) (p : Page) : List (List Char) → Page
  | [] => p
  | run :: rest => plainRuns m (if p.folds m run then p.fold m.indent else p.put run) rest

/-- Writes a text as it is. `root` says whether it is the whole document. -/
def plain (p : Page) (m : Measure) (root : Bool) (text : String) : Page :=
  let p := if root then { p with openEnded := true } else p
  if text.isEmpty then p
  else
    let p := if p.spaced then p else p.put [' ']
    plainRuns m { p with spaced := false, indented := false } (runs text.toList)

/-- Breaks lines as often as a run does, once more if it starts with an ordinary break. -/
def quotedBreaks (p : Page) (run : List Char) : Page :=
  run.foldl breakWith (if run.head? == some '\n' then p.newLine else p)

/-- Writes the runs of a text in single quotes, of which each quote is written twice. -/
def singleRuns (m : Measure) (p : Page) (first : Bool) : List (List Char) → Page
  | [] => p
  | run :: rest =>
    let next := match (run.head?.map runKind).getD .word with
      | .spaces => if p.folds m run && !first && !rest.isEmpty then p.indent m.indent else p.put run
      | .breaks => (p.quotedBreaks run).indent m.indent
      | .word => p.put (run.flatMap fun c => if c == '\'' then ['\'', '\''] else [c])
    singleRuns m next false rest

/-- Writes a text in single quotes. -/
def singleQuoted (p : Page) (m : Measure) (text : String) : Page :=
  (singleRuns m (p.mark "'" true false false) true (runs text.toList)).mark "'" false false false

/-- The number of a character in capital hexadecimal digits. -/
def hexText (width n : Nat) : List Char :=
  (Text.hexPadded width n).map Char.toUpper

/-- The letter that stands for a character behind a backslash. -/
def escapeLetter? (n : Nat) : Option Char :=
  [(0, '0'), (7, 'a'), (8, 'b'), (9, 't'), (10, 'n'), (11, 'v'), (12, 'f'), (13, 'r'), (27, 'e'),
    (34, '"'), (92, '\\'), (0x85, 'N'), (0xA0, '_'), (0x2028, 'L'), (0x2029, 'P')].lookup n

/-- A character behind a backslash. -/
def escape (c : Char) : List Char :=
  let n := c.toNat
  match escapeLetter? n with
  | some letter => ['\\', letter]
  | none =>
    if n ≤ 0xFF then '\\' :: 'x' :: hexText 2 n
    else if n ≤ 0xFFFF then '\\' :: 'u' :: hexText 4 n
    else '\\' :: 'U' :: hexText 8 n

/-- Whether a character stands for itself between double quotes. -/
def isPlainInDouble (c : Char) : Bool :=
  let n := c.toNat
  c != '"' && c != '\\' && !isBreak c && n != 0xFEFF
    && ((0x20 ≤ n && n ≤ 0x7E) || (0xA0 ≤ n && n ≤ 0xD7FF) || (0xE000 ≤ n && n ≤ 0xFFFD))

/-- Writes what is left of a text in double quotes. `position` counts the characters before it,
`pending` are those not yet on the page, in reverse. A line that gets too long is broken at a space
or behind an escape. -/
def doubleFrom (m : Measure) (length : Nat) (p : Page) (position : Nat) (pending : List Char) :
    List Char → Page
  | [] => p.put pending.reverse
  | c :: cs =>
    let plainChar := isPlainInDouble c
    let p := if plainChar then p else (p.put pending.reverse).put (escape c)
    let pending := if plainChar then pending else []
    let tooLong : Bool := if plainChar then p.column + pending.length > m.width
      else p.column > m.width + 1
    let inside := 0 < position && position + 1 < length
    if inside && (c == ' ' || pending.isEmpty) && tooLong && m.split then
      let p := (p.put (pending.reverse ++ ['\\'])).fold m.indent
      let next := if plainChar then some c else cs.head?
      let p := if next == some ' ' then p.put ['\\'] else p
      doubleFrom m length p (position + 1) (if plainChar then [c] else []) cs
    else doubleFrom m length p (position + 1) (if plainChar then c :: pending else []) cs

/-- Writes a text in double quotes. -/
def doubleQuoted (p : Page) (m : Measure) (text : String) : Page :=
  let cs := text.toList
  (doubleFrom m cs.length (p.mark "\"" true false false) 0 [] cs).mark "\"" false false false

/-- What stands behind the mark of a literal text: the indentation, if its first line is indented
or empty, and what becomes of the line breaks at its end. -/
def literalHints (cs : List Char) : String :=
  let first := match cs.head? with
    | some c => if c == ' ' || isBreak c then "2" else ""
    | none => ""
  let last := match cs.reverse with
    | [] => ""
    | c :: rest =>
      if !isBreak c then "-"
      else match rest with
        | [] => "+"
        | b :: _ => if isBreak b then "+" else ""
  first ++ last

/-- Writes the lines of a literal text. -/
def literalRuns (indentation : Nat) (p : Page) : List (List Char) → Page
  | [] => p
  | run :: rest =>
    if (run.head?.map isBreak).getD false then
      let p := run.foldl breakWith p
      literalRuns indentation (if rest.isEmpty then p else p.indent indentation) rest
    else
      let p := { p with out := p.out ++ String.ofList run }
      literalRuns indentation (if rest.isEmpty then p.newLine else p) rest

/-- Writes a text line by line. -/
def literal (p : Page) (m : Measure) (text : String) : Page :=
  let cs := text.toList
  let hints := literalHints cs
  let p := p.mark ("|" ++ hints) true false false
  let p := { p with openEnded := hints.endsWith "+" }.newLine
  let p := if (cs.head?.map isBreak).getD true then p else p.indent m.indent
  literalRuns m.indent p (cs.splitBy fun a b => isBreak a == isBreak b)

end Page

end MonitoringConfig.Yaml
