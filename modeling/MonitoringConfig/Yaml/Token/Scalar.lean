import MonitoringConfig.Yaml.Token
/-!
# Reading scalars

How the three ways of writing a scalar are read: in quotes, plain, and as a block of indented
lines. In quotes and plain texts one line break stands for a space, and of several one is left out.

Every loop takes at least one character or stops, so as many steps as there are characters are
enough.
-/

namespace MonitoringConfig.Yaml

/-- Whether a character is a space or a tab. -/
def isSpaceOrTab (c : Char) : Bool :=
  c == ' ' || c == '\t'

/-- What a line break stands for where lines are joined: the ordinary one for a space, or for
nothing if there are further breaks. -/
def joint (lineBreak further : List Char) : List Char :=
  if lineBreak != ['\n'] then lineBreak ++ further
  else if further.isEmpty then [' ']
  else further

namespace Cursor

/-! ### Scalars in quotes -/

/-- The character that a letter behind a backslash stands for. -/
def escaped? (c : Char) : Option Char :=
  [('0', 0), ('a', 7), ('b', 8), ('t', 9), ('\t', 9), ('n', 10), ('v', 11), ('f', 12), ('r', 13),
    ('e', 27), (' ', 32), ('"', 34), ('\\', 92), ('/', 47), ('N', 0x85), ('_', 0xA0),
    ('L', 0x2028), ('P', 0x2029)].lookup c |>.map Char.ofNat

/-- How many hexadecimal digits follow a letter behind a backslash. -/
def escapeWidth? (c : Char) : Option Nat :=
  [('x', 2), ('u', 4), ('U', 8)].lookup c

/-- The character with a number. -/
def charOf (n : Nat) : Except Fault Char :=
  if 0x7FFFFFFF < n then .error (.meaningless .tooLarge)
  else if 0x10FFFF < n then .error (.meaningless .badValue)
  else .ok (Char.ofNat n)

/-- Reads the blank lines behind a line break in quotes. No document may end there. -/
def quotedBlank : Nat → Cursor → Except Fault (List Char × Cursor)
  | 0, p => .ok ([], p)
  | n + 1, p =>
    if p.isAtSeparator then .error .malformed
    else
      let p := p.skip isSpaceOrTab
      match p.lineBreak with
      | ([], p) => .ok ([], p)
      | (b, p) => (quotedBlank n p).map fun (bs, p) => (b ++ bs, p)

/-- Reads a line break in quotes with the blank lines behind it. -/
def quotedBreak (p : Cursor) : Except Fault (List Char × Cursor) :=
  let (b, p) := p.lineBreak
  (quotedBlank p.rest.length p).map fun (bs, p) => (joint b bs, p)

/-- Reads what stands behind a backslash. -/
def escape (p : Cursor) : Except Fault (List Char × Cursor) :=
  match p.peek with
  | none => .error .malformed
  | some c =>
    match escaped? c, escapeWidth? c with
    | some d, _ => .ok ([d], p.next)
    | none, some width => do
      let digits := (p.rest.drop 1).take width
      if digits.length < width || !digits.all Text.isHexDigit then .error .malformed
      return ([← charOf (Text.hexNumber digits)], p.advance (width + 1))
    | none, none =>
      if endsLine c then quotedBlank p.rest.length p.lineBreak.2 else .error .malformed

/-- Reads what is left of a scalar in quotes; in single quotes, a quote is written twice. -/
def quoted (double : Bool) : Nat → Cursor → Except Fault (List Char × Cursor)
  | 0, _ => .error .malformed
  | n + 1, p => do
    let (cs, p) ← match p.peek with
      | none => .error .malformed
      | some '"' => if double then return ([], p.next) else pure (['"'], p.next)
      | some '\'' =>
        if double then pure (['\''], p.next)
        else if p.peekAt 1 == some '\'' then pure (['\''], p.advance 2)
        else return ([], p.next)
      | some '\\' => if double then p.next.escape else pure (['\\'], p.next)
      | some c =>
        if isSpaceOrTab c || endsLine c then
          let behind := p.skip isSpaceOrTab
          if atLineEnd behind.peek then behind.quotedBreak
          else pure (p.run isSpaceOrTab, behind)
        else pure ([c], p.next)
    let (more, p) ← quoted double n p
    return (cs ++ more, p)

/-! ### Plain scalars -/

/-- The characters at the front of a text that belong to a plain scalar. -/
def plainRun (inFlow : Bool) : List Char → List Char
  | [] => []
  | c :: cs =>
    let next := cs.head?
    let endsKey := c == ':' && (endsWord next
      || (inFlow && (next.map fun d => ",[]\x7b\x7d".toList.contains d).getD false))
    if isSeparator c || endsKey || (inFlow && ",?[]\x7b\x7d".toList.contains c) then []
    else c :: plainRun inFlow cs

/-- Reads the blank lines behind a line break of a plain scalar, unless a document ends there. -/
def plainBlank : Nat → Cursor → Option (List Char) × Cursor
  | 0, p => (some [], p)
  | n + 1, p =>
    if p.isAtSeparator then (none, p)
    else
      let p := p.skipSpaces
      match p.lineBreak with
      | ([], p) => (some [], p)
      | (b, p) =>
        let (bs, p) := plainBlank n p
        (bs.map (b ++ ·), p)

/-- Reads what stands between two words of a plain scalar: spaces, or line breaks, nothing if the
scalar ends. The truth value says whether there is a line break. -/
def plainGap (p : Cursor) : List Char × Bool × Cursor :=
  let behind := p.skipSpaces
  match behind.lineBreak with
  | ([], behind) => (p.run (· == ' '), false, behind)
  | (b, behind) =>
    match plainBlank behind.rest.length behind with
    | (none, behind) => ([], true, behind)
    | (some bs, behind) => (joint b bs, true, behind)

/-- Reads what is left of a plain scalar: the words from here on, with the gap before them.
`margin` is the first column that lines behind the first may use. -/
def plainFrom (inFlow : Bool) (margin : Nat) :
    Nat → (gap : List Char) → (broke : Bool) → Cursor → List Char × Bool × Cursor
  | 0, _, broke, p => ([], broke, p)
  | n + 1, gap, broke, p =>
    match plainRun inFlow p.rest with
    | [] => ([], broke, p)
    | c :: cs =>
      let word := gap ++ c :: cs
      match (p.advance (cs.length + 1)).plainGap with
      | (next, broke, p) =>
        if next.isEmpty || p.isAt '#' || (!inFlow && p.column < margin) then (word, broke, p)
        else
          let (more, broke, p) := plainFrom inFlow margin n next broke p
          (word ++ more, broke, p)

/-- Reads a plain scalar. The truth value says whether a line break stands behind its last word. -/
def plain (inFlow : Bool) (margin : Nat) (p : Cursor) : List Char × Bool × Cursor :=
  plainFrom inFlow margin p.rest.length [] false p

/-! ### Blocks of lines -/

/-- What the marks before a block of lines ask for: to keep all line breaks at its end, or none of
them, and how far the lines are indented. -/
structure BlockHints where
  keeps? : Option Bool := none
  indented? : Option Nat := none

/-- Reads a mark for the line breaks at the end of a block. -/
def keepHint (p : Cursor) : Option Bool × Cursor :=
  match p.peek with
  | some '+' => (some true, p.next)
  | some '-' => (some false, p.next)
  | _ => (none, p)

/-- Reads a mark for the indentation of a block, which is not zero. -/
def indentHint (p : Cursor) : Except Fault (Option Nat × Cursor) :=
  match p.peek with
  | some c =>
    if c == '0' then .error .malformed
    else if c.isDigit then .ok (some (c.toNat - '0'.toNat), p.next)
    else .ok (none, p)
  | none => .ok (none, p)

/-- Reads the two marks before a block of lines, in either order. -/
def blockHints (p : Cursor) : Except Fault (BlockHints × Cursor) := do
  match p.keepHint with
  | (some keeps, p) =>
    let (indented, p) ← p.indentHint
    return (⟨some keeps, indented⟩, p)
  | (none, p) =>
    let (indented, p) ← p.indentHint
    if indented.isNone then return ({}, p)
    let (keeps, p) := p.keepHint
    return (⟨keeps, indented⟩, p)

/-- Reads the blank lines at the start of a block, and how far the spaces among them reach. -/
def leadingBlank : Nat → Nat → Cursor → List Char × Nat × Cursor
  | 0, reach, p => ([], reach, p)
  | n + 1, reach, p =>
    let p := p.skipSpaces
    let reach := max reach p.column
    match p.lineBreak with
    | ([], p) => ([], reach, p)
    | (b, p) =>
      let (bs, reach, p) := leadingBlank n reach p
      (b ++ bs, reach, p)

/-- Reads the blank lines inside of a block and the indentation behind them. -/
def blockBlank (indent : Nat) : Nat → Cursor → List Char × Cursor
  | 0, p => ([], p)
  | n + 1, p =>
    let p := p.advance (min (indent - p.column) (p.run (· == ' ')).length)
    match p.lineBreak with
    | ([], p) => ([], p)
    | (b, p) =>
      let (bs, p) := blockBlank indent n p
      (b ++ bs, p)

/-- The lines of a block: their text, and the line breaks at their end, the first apart. -/
structure BlockText where
  text : List Char := []
  last : List Char := []
  further : List Char := []

/-- Whether a line of a block starts here. -/
def startsBlockLine (indent : Nat) (p : Cursor) : Bool :=
  p.column == indent && p.peek.isSome

/-- Reads the lines of a block, with the blank lines before them. Folded lines are joined unless
one of them starts with a space. -/
def blockLines (folded : Bool) (indent : Nat) : Nat → List Char → Cursor → BlockText × Cursor
  | 0, blank, p => ({ further := blank }, p)
  | n + 1, blank, p =>
    if !startsBlockLine indent p then ({ further := blank }, p)
    else
      let line := blank ++ p.run isInLine
      let spaced := p.isAtAny isSpaceOrTab
      let (b, p) := (p.skip isInLine).lineBreak
      let (bs, p) := blockBlank indent p.rest.length p
      if !startsBlockLine indent p then (⟨line, b, bs⟩, p)
      else
        let joined := folded && b == ['\n'] && !spaced && !p.isAtAny isSpaceOrTab
        let between := if joined then (if bs.isEmpty then [' '] else []) else b
        let (t, p) := blockLines folded indent n bs p
        ({ t with text := line ++ between ++ t.text }, p)

/-- Reads a block of lines, behind its mark. `margin` is the first column that its lines may
use. -/
def block (folded : Bool) (margin : Nat) (p : Cursor) : Except Fault (List Char × Cursor) := do
  let (hints, p) ← p.blockHints
  if !endsMark p.peek then .error .malformed
  let some p := p.endOfLine? | .error .malformed
  let least := max margin 1
  let (blank, indent, p) := match hints.indented? with
    | none =>
      let (blank, reach, p) := leadingBlank p.rest.length 0 p
      (blank, max least reach, p)
    | some more =>
      let indent := least + more - 1
      let (blank, p) := blockBlank indent p.rest.length p
      (blank, indent, p)
  let (t, p) := blockLines folded indent p.rest.length blank p
  let last := if hints.keeps? == some false then [] else t.last
  let further := if hints.keeps? == some true then t.further else []
  return (t.text ++ last ++ further, p)

end Cursor

end MonitoringConfig.Yaml
