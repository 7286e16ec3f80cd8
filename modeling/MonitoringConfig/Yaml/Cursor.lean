import MonitoringConfig.Yaml.Layout
/-!
# Places in a document

A place knows what is left of the text behind it, and where it stands: how many characters, lines
and columns lie before it. Nothing is ever read but through `Cursor.next` and what is made of it.
-/

namespace MonitoringConfig.Yaml

/-- Whether a character ends lines on a page that is read: a carriage return does so too. -/
def endsLine (c : Char) : Bool :=
  c == '\r' || isBreak c

/-- Whether a character stands inside of a line. -/
def isInLine (c : Char) : Bool :=
  !endsLine c

/-- Whether a word ends before a character, or at the end of the text. -/
def endsWord (c? : Option Char) : Bool :=
  (c?.map isSeparator).getD true

/-- Whether a mark that no tab may follow ends before a character, or at the end of the text. -/
def endsMark (c? : Option Char) : Bool :=
  c? != some '\t' && endsWord c?

/-- Whether a line ends before a character, or the text. -/
def atLineEnd (c? : Option Char) : Bool :=
  (c?.map endsLine).getD true

/-- A place in a text. -/
structure Cursor where
  /-- The text behind the place. -/
  rest : List Char
  index : Nat := 0
  line : Nat := 0
  column : Nat := 0
  deriving Inhabited

namespace Cursor

/-- The character behind a place. -/
def peek (p : Cursor) : Option Char :=
  p.rest.head?

/-- The character some characters further on. -/
def peekAt (p : Cursor) (offset : Nat) : Option Char :=
  (p.rest.drop offset).head?

/-- Whether a given character stands behind a place. -/
def isAt (p : Cursor) (c : Char) : Bool :=
  p.peek == some c

/-- Whether one of the characters of a kind stands behind a place. -/
def isAtAny (p : Cursor) (kind : Char → Bool) : Bool :=
  (p.peek.map kind).getD false

/-- The place behind the next character. A carriage return and a line feed end one line together,
and the mark of the byte order takes no column. -/
def next (p : Cursor) : Cursor :=
  match p.rest with
  | [] => p
  | c :: cs =>
    if isBreak c || (c == '\r' && cs.head? != some '\n') then
      { rest := cs, index := p.index + 1, line := p.line + 1, column := 0 }
    else
      { rest := cs, index := p.index + 1, line := p.line
        column := if c.toNat == 0xFEFF then p.column else p.column + 1 }

/-- The place some characters further on. -/
def advance (p : Cursor) : Nat → Cursor
  | 0 => p
  | n + 1 => p.next.advance n

/-- The characters of a kind that stand behind a place. -/
def run (p : Cursor) (kind : Char → Bool) : List Char :=
  p.rest.takeWhile kind

/-- The place behind the characters of a kind. -/
def skip (p : Cursor) (kind : Char → Bool) : Cursor :=
  p.advance (p.run kind).length

/-- The place behind spaces. -/
def skipSpaces (p : Cursor) : Cursor :=
  p.skip (· == ' ')

/-- Reads the end of a line; it is written as a line feed unless it is one of the two separators
that only wide alphabets have. -/
def lineBreak (p : Cursor) : List Char × Cursor :=
  match p.rest with
  | '\r' :: '\n' :: _ => (['\n'], p.advance 2)
  | c :: _ =>
    if c == '\r' || c == '\n' || c.toNat == 0x85 then (['\n'], p.next)
    else if isBreak c then ([c], p.next)
    else ([], p)
  | [] => ([], p)

/-- Whether three equal marks, behind which a word ends, stand behind a place. -/
def isAtTriple (p : Cursor) (mark : Char) : Bool :=
  p.rest.take 3 == [mark, mark, mark] && endsWord (p.peekAt 3)

/-- Whether a place is at the start or the end of a document, apart from the column. -/
def isAtSeparator (p : Cursor) : Bool :=
  p.isAtTriple '-' || p.isAtTriple '.'

/-- Reads what is left of a line that may hold a comment only. -/
def endOfLine? (p : Cursor) : Option Cursor :=
  let p := p.skipSpaces
  let p := if p.isAt '#' then p.skip isInLine else p
  if atLineEnd p.peek then some p.lineBreak.2 else none

end Cursor

end MonitoringConfig.Yaml
