import MonitoringConfig.Failure
import MonitoringConfig.Yaml.Cursor
/-!
# Tokens of documents

The marks and scalars that a document is made of. Indentation, and the keys of mappings that have
no mark of their own, have become tokens too.
-/

namespace MonitoringConfig.Yaml

/-- Why a text is no document. -/
inductive Fault where
  /-- The text breaks the rules of the format. -/
  | malformed
  /-- The text follows the rules, but something in it stands for nothing. -/
  | meaningless (category : Category)
  deriving DecidableEq, Repr, Inhabited

/-- A line about the documents behind it. -/
inductive Directive where
  | version (major : Nat)
  | tag (handle uri : String)
  | other
  deriving DecidableEq, Repr, Inhabited

/-- A token of a document. -/
inductive Token where
  | directive (d : Directive)
  | documentStart | documentEnd
  | blockSequence | blockMapping | blockEnd
  | flowSequence | flowSequenceEnd | flowMapping | flowMappingEnd
  | item | comma | key | value
  | alias (name : String)
  | anchor (name : String)
  /-- A tag; a handle stands for the start of its name. -/
  | tag (handle? : Option String) (name : String)
  /-- A scalar; `plain` says that it has no marks around it. -/
  | scalar (text : String) (plain : Bool)
  | textEnd
  deriving DecidableEq, Repr, Inhabited

namespace Token

/-- Whether a character may stand in the name of an anchor, a handle or a directive. -/
def isNameChar (c : Char) : Bool :=
  c.isAlphanum || c == '-' || c == '_'

/-- Reads the name of an anchor or of an alias, behind its mark. -/
def readName (p : Cursor) : Except Fault (String × Cursor) :=
  let name := p.run isNameChar
  let p := p.skip isNameChar
  let ends := endsWord p.peek || p.isAtAny ("?:,]\x7d%@\x60".toList.contains ·)
  if name.isEmpty || !ends then .error .malformed else .ok (String.ofList name, p)

/-! ### Tags -/

/-- Reads the handle of a tag: an exclamation mark, or a name between two of them. -/
def readHandle (p : Cursor) : Except Fault (String × Cursor) :=
  let inner := (p.advance 1).run isNameChar
  if !p.isAt '!' then .error .malformed
  else if p.peekAt 1 == some ' ' then .ok ("!", p.next)
  else if p.peekAt (inner.length + 1) == some '!' then
    .ok (String.ofList ('!' :: inner ++ ['!']), p.advance (inner.length + 2))
  else .error .malformed

/-- Whether a character may stand in the name of a tag. -/
def isUriChar (c : Char) : Bool :=
  c.isAlphanum || "-;/?:@&=+$,_.!~*'()[]%".toList.contains c

/-- The number of two hexadecimal digits. -/
def hexPair? : List Char → Option (UInt8 × List Char)
  | a :: b :: cs =>
    if Text.isHexDigit a && Text.isHexDigit b then some ((Text.hexNumber [a, b]).toUInt8, cs)
    else none
  | _ => none

/-- The bytes of a name of a tag, in which a percent sign stands before the number of a byte. -/
def uriBytes? : List Char → Option (List UInt8)
  | [] => some []
  | '%' :: a :: b :: cs => do
    let (byte, _) ← hexPair? [a, b]
    return byte :: (← uriBytes? cs)
  | '%' :: _ => none
  | c :: cs => do return c.toNat.toUInt8 :: (← uriBytes? cs)

/-- Reads the name of a tag. -/
def readUri (p : Cursor) : Except Fault (String × Cursor) :=
  let cs := p.run isUriChar
  match (uriBytes? cs).bind fun bytes => String.fromUTF8? ⟨bytes.toArray⟩ with
  | some name => if cs.isEmpty then .error .malformed else .ok (name, p.skip isUriChar)
  | none => .error .malformed

/-- Reads a tag with its handle, or the whole name of a tag between angle brackets. -/
def readTag (p : Cursor) : Except Fault (Token × Cursor) := do
  let (token, p) ←
    if p.peekAt 1 == some '<' then do
      let (name, p) ← readUri (p.advance 2)
      if p.isAt '>' then pure (tag none name, p.next) else .error .malformed
    else if endsWord (p.peekAt 1) then pure (tag none "!", p.next)
    else do
      let word := (p.rest.drop 1).takeWhile fun c => c == '\t' || !isSeparator c
      let (handle, p) ← if word.contains '!' then readHandle p else pure ("!", p.next)
      let (name, p) ← readUri p
      pure (tag (some handle) name, p)
  if endsMark p.peek then return (token, p) else .error .malformed

/-! ### Directives -/

/-- Reads a number. -/
def readNumber (p : Cursor) : Except Fault (Nat × Cursor) :=
  let digits := p.run Char.isDigit
  if digits.isEmpty then .error .malformed else .ok (natOf digits, p.skip Char.isDigit)

/-- Reads the number of a version of the format. -/
def readVersion (p : Cursor) : Except Fault (Directive × Cursor) := do
  let (major, p) ← readNumber p.skipSpaces
  if !p.isAt '.' then .error .malformed
  let (_, p) ← readNumber p.next
  if endsMark p.peek then return (.version major, p) else .error .malformed

/-- Reads what a handle stands for. -/
def readTagDirective (p : Cursor) : Except Fault (Directive × Cursor) := do
  let (handle, p) ← readHandle p.skipSpaces
  if !p.isAt ' ' then .error .malformed
  let (uri, p) ← readUri p.skipSpaces
  if endsMark p.peek then return (.tag handle uri, p) else .error .malformed

/-- Reads a directive, behind its mark. -/
def readDirective (p : Cursor) : Except Fault (Token × Cursor) := do
  let name := String.ofList (p.run isNameChar)
  let p := p.skip isNameChar
  if name.isEmpty || !endsMark p.peek then .error .malformed
  let (meaning, p) ←
    if name == "YAML" then readVersion p
    else if name == "TAG" then readTagDirective p
    else pure (.other, p.skip isInLine)
  match p.endOfLine? with
  | some p => return (directive meaning, p)
  | none => .error .malformed

end Token

end MonitoringConfig.Yaml
