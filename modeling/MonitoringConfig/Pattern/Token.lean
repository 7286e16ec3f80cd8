import MonitoringConfig.Failure
import MonitoringConfig.Pattern.Basic
/-!
# The tokens of a pattern's text

A text is cut into tokens from left to right: characters and sets, anchors, repetitions, references,
and the parts of groups. `Token.next?` reads the token at the front of a text.
-/

namespace MonitoringConfig.Pattern

/-- What opens a group. -/
inductive Opener where
  /-- A group that remembers its match, under a name if it has one. -/
  | capture (name? : Option String)
  /-- A group with other flags: those added and those taken away. -/
  | scoped (add remove : List Char)
  | atomic
  | ahead (negated : Bool)
  | behind (negated : Bool)
  /-- A choice that depends on a group, given by name. -/
  | dependsOnName (name : String)
  /-- A choice that depends on a group, given by number. -/
  | dependsOn (number : Nat)
  deriving DecidableEq, Repr

/-- A token of a pattern. -/
inductive Token where
  | literal (point : Nat)
  | dot
  | set (s : CharSet)
  | anchor (a : Anchor)
  | repetition (least : Nat) (greatest : Option Nat) (greed : Greed)
  | bar
  | opened (o : Opener)
  | closed
  | reference (number : Nat)
  | namedReference (name : String)
  | flags (added : List Char)
  /-- A comment. -/
  | nothing
  deriving Repr

/-- The failure of a text that is no pattern. -/
def bad : Failure := .plain .badPattern

namespace Token

/-! ### Escapes -/

/-- Reads exactly the given number of digits to base sixteen. -/
def hexDigits : Nat → Nat → List Char → Except Failure (Nat × List Char)
  | 0, value, cs => .ok (value, cs)
  | n + 1, value, c :: cs =>
    match Text.hexValue? c with
    | some d => hexDigits n (16 * value + d) cs
    | none => .error bad
  | _ + 1, _, [] => .error bad

/-- Whether a character is a digit to base eight. -/
def isOctal (c : Char) : Bool :=
  '0' ≤ c && c ≤ '7'

/-- The value of digits to a base. -/
def digitsValue (base : Nat) (ds : List Char) : Nat :=
  ds.foldl (fun n d => base * n + (d.toNat - '0'.toNat)) 0

/-- Reads digits to base eight behind those that were read, up to the given number. -/
def octalEscape (ds : List Char) (more : Nat) (cs : List Char) :
    Except Failure (Nat × List Char) :=
  let further := (cs.take more).takeWhile isOctal
  let value := digitsValue 8 (ds ++ further)
  if 0o377 < value then .error bad else .ok (value, cs.drop further.length)

/-- The class of characters with a letter. -/
def classOf? : Char → Option CharItem
  | 'd' => some (.class .digit false)
  | 'D' => some (.class .digit true)
  | 's' => some (.class .space false)
  | 'S' => some (.class .space true)
  | 'w' => some (.class .word false)
  | 'W' => some (.class .word true)
  | _ => none

/-- The control character with a letter. -/
def controlOf? : Char → Option Nat
  | 'a' => some 7
  | 'f' => some 12
  | 'n' => some 10
  | 'r' => some 13
  | 't' => some 9
  | 'v' => some 11
  | _ => none

/-- The code point that an escape stands for, wherever it stands. -/
def pointEscape (c : Char) (cs : List Char) : Except Failure (Nat × List Char) :=
  match c with
  | 'x' => hexDigits 2 0 cs
  | 'u' => hexDigits 4 0 cs
  | 'U' => do
    let (point, rest) ← hexDigits 8 0 cs
    if point < 0x110000 then return (point, rest) else .error bad
  | c =>
    match controlOf? c with
    | some point => .ok (point, cs)
    | none => if c.isAlphanum then .error bad else .ok (c.toNat, cs)

/-- Reads an escape in a set, of which the first letter is given. -/
def setEscape (c : Char) (cs : List Char) : Except Failure (CharItem × List Char) :=
  match classOf? c with
  | some item => .ok (item, cs)
  | none => do
    let (point, rest) ←
      if c == 'b' then pure (8, cs)
      else if isOctal c then octalEscape [c] 2 cs
      else pointEscape c cs
    return (.one point, rest)

/-- Reads digits that name a group, or a code point to base eight where they are three. -/
def numberEscape (c : Char) (cs : List Char) : Except Failure (Token × List Char) :=
  match cs with
  | d :: rest =>
    if !d.isDigit then .ok (reference (digitsValue 10 [c]), cs)
    else
      match isOctal c && isOctal d, rest with
      | true, e :: rest' =>
        if isOctal e then do
          let (point, rest) ← octalEscape [c, d, e] 0 rest'
          return (literal point, rest)
        else .ok (reference (digitsValue 10 [c, d]), rest)
      | _, _ => .ok (reference (digitsValue 10 [c, d]), rest)
  | [] => .ok (reference (digitsValue 10 [c]), cs)

/-- Reads an escape outside of sets, of which the first letter is given. -/
def escape (c : Char) (cs : List Char) : Except Failure (Token × List Char) :=
  match classOf? c with
  | some item => .ok (set ⟨[item], false⟩, cs)
  | none =>
    match c with
    | 'A' => .ok (anchor .textStart, cs)
    | 'Z' => .ok (anchor .textEnd, cs)
    | 'b' => .ok (anchor .boundary, cs)
    | 'B' => .ok (anchor .noBoundary, cs)
    | '0' => do
      let (point, rest) ← octalEscape [c] 2 cs
      return (literal point, rest)
    | c =>
      if c.isDigit then numberEscape c cs
      else do
        let (point, rest) ← pointEscape c cs
        return (literal point, rest)

/-! ### Sets -/

/-- Reads one character of a set, or an escape. -/
def setItem (c : Char) (cs : List Char) : Except Failure (CharItem × List Char) :=
  match c, cs with
  | '\\', e :: rest => setEscape e rest
  | '\\', [] => .error bad
  | c, cs => .ok (.one c.toNat, cs)

/-- The range between two items. -/
def rangeOf (a b : CharItem) : Except Failure CharItem :=
  match a, b with
  | .one first, .one last => if last < first then .error bad else .ok (.range first last)
  | _, _ => .error bad

/-- Reads the items of a set up to the bracket that closes it. The bracket stands for itself where
it comes first. -/
def setItems : (fuel : Nat) → (items : List CharItem) → List Char →
    Except Failure (List CharItem × List Char)
  | 0, _, _ => .error bad
  | _ + 1, _, [] => .error bad
  | fuel + 1, items, c :: cs =>
    if c == ']' && !items.isEmpty then .ok (items.reverse, cs)
    else do
      let (item, rest) ← setItem c cs
      match rest with
      | '-' :: ']' :: rest => return ((.one '-'.toNat :: item :: items).reverse, rest)
      | '-' :: d :: rest => do
        let (last, rest) ← setItem d rest
        setItems fuel ((← rangeOf item last) :: items) rest
      | ['-'] => .error bad
      | rest => setItems fuel (item :: items) rest

/-- Reads a set behind its opening bracket. -/
def readSet (cs : List Char) : Except Failure (Token × List Char) := do
  let (negated, cs) := match cs with
    | '^' :: rest => (true, rest)
    | cs => (false, cs)
  let (items, rest) ← setItems (cs.length + 1) [] cs
  return (set ⟨items, negated⟩, rest)

/-! ### Repetitions -/

/-- The first number of repetitions that is too large to be asked for. -/
def repeatBound : Nat := 4294967295

/-- Reads the mark behind a repetition that says how greedy it is. -/
def withGreed (least : Nat) (greatest : Option Nat) (cs : List Char) : Token × List Char :=
  match cs with
  | '?' :: rest => (repetition least greatest .least, rest)
  | '+' :: rest => (repetition least greatest .final, rest)
  | cs => (repetition least greatest .most, cs)

/-- The number of digits, unless it is too large; no digits are the given default. -/
def count (default : Option Nat) (ds : List Char) : Except Failure (Option Nat) :=
  if ds.isEmpty then .ok default
  else
    let n := digitsValue 10 ds
    if repeatBound ≤ n then .error (.plain .tooLarge) else .ok (some n)

/-- The numbers of digits and what follows them behind an opening brace, if they are closed. -/
def braces? (cs : List Char) : Option (List Char × List Char × List Char) :=
  let low := cs.takeWhile Char.isDigit
  match cs.dropWhile Char.isDigit with
  | '}' :: rest => if low.isEmpty then none else some (low, low, rest)
  | ',' :: cs =>
    match cs.dropWhile Char.isDigit with
    | '}' :: rest => some (low, cs.takeWhile Char.isDigit, rest)
    | _ => none
  | _ => none

/-- Reads what stands behind an opening brace: the numbers of a repetition, or anything else, before
which the brace stands for itself. -/
def readBraces (cs : List Char) : Except Failure (Token × List Char) :=
  match braces? cs with
  | none => .ok (literal '{'.toNat, cs)
  | some (low, high, rest) => do
    let least := (← count (some 0) low).getD 0
    let greatest ← count none high
    match greatest with
    | some n => if n < least then .error bad
    | none => pure ()
    return withGreed least greatest rest

/-! ### Groups -/

/-- Reads up to a closing character; an escape is passed over. -/
def upTo (stop : Char) : List Char → Except Failure (List Char × List Char)
  | [] => .error bad
  | '\\' :: c :: cs => do
    let (part, rest) ← upTo stop cs
    return ('\\' :: c :: part, rest)
  | c :: cs =>
    if c == stop then .ok ([], cs)
    else do
      let (part, rest) ← upTo stop cs
      return (c :: part, rest)

/-- Whether a text is a name. -/
def isName : List Char → Bool
  | [] => false
  | c :: cs => Text.isWord c && !Text.isDecimalDigit c && cs.all Text.isWord

/-- Reads a name up to a closing character. -/
def readName (stop : Char) (cs : List Char) : Except Failure (String × List Char) := do
  let (name, rest) ← upTo stop cs
  if isName name then return (String.ofList name, rest) else .error bad

/-- Reads the group on which a choice depends. -/
def readCondition (cs : List Char) : Except Failure (Token × List Char) := do
  let (name, rest) ← upTo ')' cs
  if isName name then return (opened (.dependsOnName (String.ofList name)), rest)
  else
    let trimmed := Text.trim name
    let digits := if trimmed.head? == some '+' then trimmed.drop 1 else trimmed
    if digits.isEmpty || !digits.all Char.isDigit then .error bad
    else
      let n := digitsValue 10 digits
      if n == 0 then .error bad else return (opened (.dependsOn n), rest)

/-- The letters of flags. -/
def flagLetters : List Char := ['i', 'L', 'm', 's', 'x', 'a', 't', 'u']

/-- Whether letters of flags agree with each other. -/
def agree (letters : List Char) : Bool :=
  !letters.contains 'L' && !(letters.contains 'a' && letters.contains 'u')

/-- Reads the flags that are taken away, behind the dash. -/
def readRemoved (added cs : List Char) : Except Failure (Token × List Char) :=
  let removed := cs.takeWhile flagLetters.contains
  let refused := removed.any fun c => ['L', 'a', 'u', 't'].contains c || added.contains c
  match cs.dropWhile flagLetters.contains with
  | ':' :: rest =>
    if removed.isEmpty || refused then .error bad else .ok (opened (.scoped added removed), rest)
  | _ => .error bad

/-- Reads flags, for the whole pattern or for a group. -/
def readFlags (cs : List Char) : Except Failure (Token × List Char) :=
  let added := cs.takeWhile flagLetters.contains
  if !agree added then .error bad
  else match cs.dropWhile flagLetters.contains with
    | ')' :: rest => if added.isEmpty then .error bad else .ok (flags added, rest)
    | ':' :: rest =>
      if added.contains 't' then .error bad else .ok (opened (.scoped added []), rest)
    | '-' :: rest => if added.contains 't' then .error bad else readRemoved added rest
    | _ => .error bad

/-- Reads what opens a group, behind the parenthesis. -/
def readOpener : List Char → Except Failure (Token × List Char)
  | '?' :: 'P' :: '<' :: cs => do
    let (name, rest) ← readName '>' cs
    return (opened (.capture (some name)), rest)
  | '?' :: 'P' :: '=' :: cs => do
    let (name, rest) ← readName ')' cs
    return (namedReference name, rest)
  | '?' :: ':' :: cs => .ok (opened (.scoped [] []), cs)
  | '?' :: '#' :: cs => do
    let (_, rest) ← upTo ')' cs
    return (nothing, rest)
  | '?' :: '=' :: cs => .ok (opened (.ahead false), cs)
  | '?' :: '!' :: cs => .ok (opened (.ahead true), cs)
  | '?' :: '<' :: '=' :: cs => .ok (opened (.behind false), cs)
  | '?' :: '<' :: '!' :: cs => .ok (opened (.behind true), cs)
  | '?' :: '(' :: cs => readCondition cs
  | '?' :: '>' :: cs => .ok (opened .atomic, cs)
  | '?' :: cs => readFlags cs
  | cs => .ok (opened (.capture none), cs)

/-! ### Tokens -/

/-- A text behind the end of the line. -/
def dropLine : List Char → List Char
  | [] => []
  | '\\' :: _ :: cs => dropLine cs
  | '\n' :: cs => cs
  | _ :: cs => dropLine cs

/-- Reads the token that starts with a character. -/
def read (verbose : Bool) (c : Char) (cs : List Char) : Except Failure (Token × List Char) :=
  if verbose && (c == ' ' || (9 ≤ c.toNat && c.toNat ≤ 13)) then .ok (nothing, cs)
  else match c, cs with
    | '#', cs => .ok (if verbose then (nothing, dropLine cs) else (literal c.toNat, cs))
    | '\\', e :: rest => escape e rest
    | '\\', [] => .error bad
    | '[', cs => readSet cs
    | '.', cs => .ok (dot, cs)
    | '^', cs => .ok (anchor .lineStart, cs)
    | '$', cs => .ok (anchor .lineEnd, cs)
    | '?', cs => .ok (withGreed 0 (some 1) cs)
    | '*', cs => .ok (withGreed 0 none cs)
    | '+', cs => .ok (withGreed 1 none cs)
    | '{', cs => readBraces cs
    | '|', cs => .ok (bar, cs)
    | '(', cs => readOpener cs
    | ')', cs => .ok (closed, cs)
    | c, cs => .ok (literal c.toNat, cs)

end Token

end MonitoringConfig.Pattern
