import MonitoringConfig.Yaml.Token.Scalar
/-!
# Tokens of a text

Reads a text from left to right. Two things are not written: where a block ends, which follows from
indentation, and where the key of a mapping starts, which only the colon behind it shows. So the
lexer keeps the margins of the blocks it stands in, and every place where a key may have started;
when the colon comes, the mark of the key is put there after the fact.

* `Yaml.tokens` are the tokens of a text, with the fault that ends them if there is one.
-/

namespace MonitoringConfig.Yaml

/-- A place where a key without a mark may have started. -/
structure PossibleKey where
  /-- In how many pairs of brackets the place stands. -/
  level : Nat
  /-- How many tokens stand before it. -/
  position : Nat
  /-- Whether nothing but a key can start here. -/
  required : Bool
  place : Cursor
  deriving Inhabited

/-- A lexer at work. -/
structure Lexer where
  place : Cursor
  tokens : Array Token := #[]
  /-- In how many pairs of brackets the lexer stands. -/
  level : Nat := 0
  /-- The first column behind that of the innermost block, and the margins around it. -/
  margin : Nat := 0
  margins : List Nat := []
  /-- Whether a key without a mark may start here. -/
  keyAllowed : Bool := true
  keys : List PossibleKey := []
  deriving Inhabited

namespace Lexer

/-- Adds a token. -/
def emit (s : Lexer) (t : Token) : Lexer :=
  { s with tokens := s.tokens.push t }

/-- Whether the lexer stands inside of brackets. -/
def inFlow (s : Lexer) : Bool :=
  s.level != 0

/-! ### Keys -/

/-- How far a key may reach: to the end of its line, and over 1024 characters. -/
def isStale (s : Lexer) (k : PossibleKey) : Bool :=
  k.place.line != s.place.line || s.place.index > k.place.index + 1024

/-- Forgets the keys that some property rules out; none of them may be required. -/
def dropKeys (s : Lexer) (drops : PossibleKey → Bool) : Except Fault Lexer :=
  if s.keys.any fun k => drops k && k.required then .error .malformed
  else .ok { s with keys := s.keys.filter fun k => !drops k }

/-- Forgets the possible key of the innermost brackets. -/
def dropKey (s : Lexer) : Except Fault Lexer :=
  s.dropKeys (·.level == s.level)

/-- Remembers that a key may start here. -/
def saveKey (s : Lexer) : Except Fault Lexer := do
  if !s.keyAllowed then return s
  let required := !s.inFlow && s.margin == s.place.column + 1
  let s ← s.dropKey
  return { s with keys := ⟨s.level, s.tokens.size, required, s.place⟩ :: s.keys }

/-! ### Blocks -/

/-- Ends the blocks that stand further to the right than a margin. -/
def unwindFrom (s : Lexer) (margin : Nat) : List Nat → Lexer
  | [] => s
  | outer :: rest =>
    if margin < s.margin then
      unwindFrom { s.emit .blockEnd with margin := outer, margins := rest } margin rest
    else s

/-- Ends the blocks that stand further to the right than a margin, outside of brackets. -/
def unwind (s : Lexer) (margin : Nat) : Lexer :=
  if s.inFlow then s else s.unwindFrom margin s.margins

/-- Starts a block at a column, outside of brackets, unless the innermost one is there already; its
token goes to a position. -/
def openBlock (s : Lexer) (column position : Nat) (t : Token) : Lexer :=
  if s.inFlow || column < s.margin then s
  else { s with
    margin := column + 1
    margins := s.margin :: s.margins
    tokens := s.tokens.insertIdxIfInBounds position t }

/-! ### What stands before a token -/

/-- How many characters stand before the next token: spaces, comments and line breaks. -/
def blankLength (inComment : Bool) : List Char → Nat
  | [] => 0
  | c :: cs =>
    if endsLine c then blankLength false cs + 1
    else if inComment || c == ' ' then blankLength inComment cs + 1
    else if c == '#' then blankLength true cs + 1
    else 0

/-- Goes to the next token. -/
def toToken (s : Lexer) : Except Fault Lexer := do
  let start := if s.place.index == 0 && s.place.isAtAny (·.toNat == 0xFEFF) then s.place.next
    else s.place
  let place := start.advance (blankLength false start.rest)
  let broke := (start.rest.take (place.index - start.index)).any endsLine
  let s := { s with place, keyAllowed := s.keyAllowed || (broke && !s.inFlow) }
  let s ← s.dropKeys s.isStale
  return s.unwind (place.column + 1)

/-! ### Reading one token -/

/-- Adds a token and goes on some characters further. -/
def take (s : Lexer) (length : Nat) (t : Token) : Lexer :=
  { s.emit t with place := s.place.advance length }

/-- Reads the mark of the start or the end of a document, or its directive. -/
def separator (s : Lexer) : Except Fault Lexer := do
  let s ← (s.unwind 0).dropKey
  return { s with keyAllowed := false }

/-- Reads an opening bracket. -/
def openBracket (s : Lexer) (t : Token) : Except Fault Lexer := do
  let s ← s.saveKey
  return { s.take 1 t with level := s.level + 1, keyAllowed := true }

/-- Reads a closing bracket. -/
def closeBracket (s : Lexer) (t : Token) : Except Fault Lexer := do
  let s ← s.dropKey
  return { s.take 1 t with level := s.level - 1, keyAllowed := false }

/-- Reads the mark of an item or of a key; outside of brackets it starts a block. -/
def blockMark (s : Lexer) (block mark : Token) (keyAllowed : Bool) : Except Fault Lexer := do
  if !s.inFlow && !s.keyAllowed then .error .malformed
  let s := s.openBlock s.place.column s.tokens.size block
  let s ← { s with keyAllowed }.dropKey
  return s.take 1 mark

/-- Reads a colon. If a key may have started in these brackets, it has. -/
def valueMark (s : Lexer) : Except Fault Lexer :=
  match s.keys.find? (·.level == s.level) with
  | some k =>
    let s := { s with
      keys := s.keys.filter (·.level != s.level)
      tokens := s.tokens.insertIdxIfInBounds k.position .key
      keyAllowed := false }
    .ok ((s.openBlock k.place.column k.position .blockMapping).take 1 .value)
  | none => s.blockMark .blockMapping .value (!s.inFlow)

/-- Reads a token of several characters that may be, or start, a key. -/
def node (s : Lexer) (read : Cursor → Except Fault (Token × Cursor)) : Except Fault Lexer := do
  let s ← s.saveKey
  let (t, place) ← read s.place
  return { s.emit t with place, keyAllowed := false }

/-- Reads a scalar in quotes. -/
def quoted (s : Lexer) (double : Bool) : Except Fault Lexer :=
  s.node fun p => do
    let (cs, p) ← p.next.quoted double p.rest.length
    return (.scalar (String.ofList cs) false, p)

/-- Reads a plain scalar. -/
def plain (s : Lexer) : Except Fault Lexer := do
  let s ← s.saveKey
  let (cs, broke, place) := s.place.plain s.inFlow s.margin
  return { s.emit (.scalar (String.ofList cs) true) with place, keyAllowed := broke }

/-- Reads a block of lines. -/
def block (s : Lexer) (folded : Bool) : Except Fault Lexer := do
  let s ← { s with keyAllowed := true }.dropKey
  let (cs, place) ← s.place.next.block folded s.margin
  return { s.emit (.scalar (String.ofList cs) false) with place }

/-- Ends the text. -/
def finish (s : Lexer) : Except Fault Lexer := do
  let s ← (s.unwind 0).dropKey
  return { s.emit .textEnd with keyAllowed := false, keys := [] }

/-- Whether a plain scalar starts with a character, another character standing behind it. -/
def startsPlain (inFlow : Bool) (c : Char) (next : Option Char) : Bool :=
  if isSeparator c || "-?:,[]\x7b\x7d#&*!|>'\"%@\x60".toList.contains c then
    !endsWord next && (c == '-' || (!inFlow && (c == '?' || c == ':')))
  else true

/-- Reads one token, at its first character. -/
def token (s : Lexer) (c : Char) : Except Fault Lexer := do
  let p := s.place
  let next := p.peekAt 1
  let atMargin := p.column == 0
  if c == '%' && atMargin then
    let s ← s.separator
    let (t, place) ← Token.readDirective p.next
    return { s.emit t with place }
  else if atMargin && p.isAtTriple '-' then return (← s.separator).take 3 .documentStart
  else if atMargin && p.isAtTriple '.' then return (← s.separator).take 3 .documentEnd
  else match c with
    | '[' => s.openBracket .flowSequence
    | '\x7b' => s.openBracket .flowMapping
    | ']' => s.closeBracket .flowSequenceEnd
    | '\x7d' => s.closeBracket .flowMappingEnd
    | ',' => return (← { s with keyAllowed := true }.dropKey).take 1 .comma
    | '*' => s.node fun p => (Token.readName p.next).map fun (name, p) => (.alias name, p)
    | '&' => s.node fun p => (Token.readName p.next).map fun (name, p) => (.anchor name, p)
    | '!' => s.node Token.readTag
    | '\'' => s.quoted false
    | '"' => s.quoted true
    | c =>
      if c == '-' && endsWord next then s.blockMark .blockSequence .item true
      else if c == '?' && (s.inFlow || endsWord next) then
        s.blockMark .blockMapping .key (!s.inFlow)
      else if c == ':' && (s.inFlow || endsWord next) then s.valueMark
      else if c == '|' && !s.inFlow then s.block false
      else if c == '>' && !s.inFlow then s.block true
      else if startsPlain s.inFlow c next then s.plain
      else .error .malformed

/-- Reads the next token, or the end of the text. -/
def step (s : Lexer) : Except Fault Lexer := do
  let s ← s.toToken
  match s.place.peek with
  | none => s.finish
  | some c => s.token c

/-- Whether the text has ended. -/
def isDone (s : Lexer) : Bool :=
  s.tokens.back? == some .textEnd

/-- Reads tokens until the text ends, or a fault. -/
def readAll : Nat → Lexer → Lexer × Option Fault
  | 0, s => (s, some .malformed)
  | n + 1, s =>
    match s.step with
    | .error f => (s, some f)
    | .ok s => if s.isDone then (s, none) else readAll n s

end Lexer

/-- Whether a character may stand in a document. -/
def isAllowed (c : Char) : Bool :=
  let n := c.toNat
  c == '\t' || c == '\n' || c == '\r' || (0x20 ≤ n && n ≤ 0x7E) || n == 0x85
    || (0xA0 ≤ n && n ≤ 0xD7FF) || (0xE000 ≤ n && n ≤ 0xFFFD) || 0x10000 ≤ n

/-- The tokens of a text, and the fault that ends them if there is one. Each step takes at least one
character or ends the text. -/
def tokens (text : String) : List Token × Option Fault :=
  let cs := text.toList
  if !cs.all isAllowed then ([], some .malformed)
  else
    let (s, fault) := Lexer.readAll (cs.length + 1) { place := { rest := cs } }
    (s.tokens.toList, fault)

end MonitoringConfig.Yaml
