import MonitoringConfig.Text.Blank
import MonitoringConfig.Text.Case
import MonitoringConfig.Text.Digit
import MonitoringConfig.Text.Word
/-!
# Patterns

A pattern describes texts: characters and sets of characters, repetition, alternatives, groups that
remember what they matched, and conditions on what stands around a place.

* `Pattern` is the tree of a pattern.
* `CharSet.holds` says whether a set has a character, letter case counting or not.
* `Pattern.width` says how long the texts are that a pattern matches.
-/

namespace MonitoringConfig

namespace Pattern

/-! ### Characters -/

/-- How the parts of a pattern are to be understood. -/
structure Flags where
  /-- Letter case does not count. -/
  ignoreCase : Bool := false
  /-- The anchors of lines stand at every line. -/
  multiLine : Bool := false
  /-- The dot is a line break too. -/
  dotAll : Bool := false
  /-- Blanks and comments in the pattern are passed over. -/
  verbose : Bool := false
  /-- The classes of characters are those of the first 128. -/
  ascii : Bool := false
  /-- Nothing may be repeated. -/
  template : Bool := false
  deriving DecidableEq, Repr, Inhabited

/-- The classes of characters that have a name. -/
inductive CharClass where
  | digit | space | word
  deriving DecidableEq, Repr

/-- Whether a character is in a class. -/
def CharClass.holds (ascii : Bool) (cls : CharClass) (c : Char) : Bool :=
  match cls, ascii with
  | .digit, true => c.isDigit
  | .digit, false => Text.isDecimalDigit c
  | .space, true => c == ' ' || (9 ≤ c.toNat && c.toNat ≤ 13)
  | .space, false => Text.isBlank c
  | .word, true => Text.isAsciiWord c
  | .word, false => Text.isWord c

/-- A member of a set of characters; characters are given by their code points. -/
inductive CharItem where
  | one (point : Nat)
  | range (first last : Nat)
  | «class» (cls : CharClass) (negated : Bool)
  deriving DecidableEq, Repr

/-- A set of characters: those among the items, or all others. -/
structure CharSet where
  items : List CharItem
  negated : Bool := false
  deriving DecidableEq, Repr, Inhabited

/-- The lower case of a character by the rules in force. -/
def lowerBy (ascii : Bool) (c : Char) : Char :=
  if ascii then c.toLower else Text.lowerChar c

/-- Whether a character has another letter case. -/
def isCased (ascii : Bool) (c : Char) : Bool :=
  if ascii then c.isAlpha
  else Text.lowerChar c != c || (Text.upperChar c).head? != some c

/-- The code points whose lower case is a given character. -/
def lowerSources (ascii : Bool) (c : Char) : List Nat :=
  if ascii then
    if c.isUpper then [] else if c.isLower then [c.toNat, c.toUpper.toNat] else [c.toNat]
  else
    let shifted := Text.lowerRuns.toList.filterMap fun (first, last, step, shift) =>
      let point := ((c.toNat : Int) - shift).toNat
      if first ≤ point && point ≤ last && (point - first) % step == 0 then some point else none
    let same := if Text.lowerChar c == c then [c.toNat] else []
    same ++ (if c == 'i' then 304 :: shifted else shifted)

/-- The characters that count as the same letter as a lower-case one. -/
def variantsBy (ascii : Bool) (c : Char) : List Char :=
  if ascii then [c] else Text.caseVariants c

/-- Whether a character is an item of a set in which letter case counts. -/
def CharItem.holds (flags : Flags) (c : Char) : CharItem → Bool
  | one point => c.toNat == point
  | range first last => first ≤ c.toNat && c.toNat ≤ last
  | «class» cls negated => cls.holds flags.ascii c != negated

/-- The first code point behind the basic plane. -/
def basicEnd : Nat := 0x10000

/-- Whether a lower-case character is an item of a set in which letter case does not count. -/
def CharItem.holdsLower (flags : Flags) (c : Char) : CharItem → Bool
  | one point => (variantsBy flags.ascii c).any (· == lowerBy flags.ascii (Char.ofNat point))
  | range first last =>
    let inBasic := (variantsBy flags.ascii c).any fun v =>
      (lowerSources flags.ascii v).any fun point =>
        first ≤ point && point ≤ last && point < basicEnd
    let upper := (Text.upperChar c).headD c
    let beyond := basicEnd ≤ last && ((first ≤ c.toNat && c.toNat ≤ last)
      || (first ≤ upper.toNat && upper.toNat ≤ last))
    inBasic || beyond
  | «class» cls negated => cls.holds flags.ascii c != negated

/-- Whether an item says something about letters that have case. -/
def CharItem.isCased (flags : Flags) : CharItem → Bool
  | one point => Pattern.isCased flags.ascii (Char.ofNat point) || basicEnd ≤ point
  | range first last =>
    basicEnd ≤ last || (List.range (last + 1 - first)).any fun i =>
      Pattern.isCased flags.ascii (Char.ofNat (first + i))
  | «class» .. => false

/-- Whether a set has a character. -/
def CharSet.holds (flags : Flags) (s : CharSet) (c : Char) : Bool :=
  let among := if flags.ignoreCase && s.items.any (·.isCased flags) then
      s.items.any (·.holdsLower flags (lowerBy flags.ascii c))
    else s.items.any (·.holds flags c)
  among != s.negated

/-! ### Trees -/

/-- A condition on a place in the text. -/
inductive Anchor where
  | lineStart | lineEnd | textStart | textEnd | boundary | noBoundary
  deriving DecidableEq, Repr

/-- Whether a repetition takes as much as possible, as little as possible, or as much as possible
for good. -/
inductive Greed where
  | most | least | final
  deriving DecidableEq, Repr

/-- The least and the greatest length of the texts of a pattern; the greatest may be missing. -/
structure Width where
  least : Nat
  greatest : Option Nat
  deriving DecidableEq, Repr, Inhabited

end Pattern

open Pattern in
/-- The tree of a pattern. -/
inductive Pattern where
  /-- Any character; whether line breaks are among them depends on the flags. -/
  | any (flags : Flags)
  | chars (set : CharSet) (flags : Flags)
  | anchor (a : Anchor) (flags : Flags)
  | sequence (parts : List Pattern)
  | alternatives (parts : List Pattern)
  /-- A group; one with a number remembers what it matched. -/
  | group (number : Option Nat) (body : Pattern)
  /-- A group whose match is not reconsidered. -/
  | atomic (body : Pattern)
  | repeated (least : Nat) (greatest : Option Nat) (greed : Greed) (body : Pattern)
  /-- What a group matched, once more; the width is that of the group. -/
  | again (number : Nat) (width : Width) (flags : Flags)
  /-- One of two patterns, depending on whether a group has matched. -/
  | dependent (number : Nat) (yes no : Pattern)
  /-- A condition on what follows. -/
  | ahead (negated : Bool) (body : Pattern)
  /-- A condition on what stands before, at the given distance. -/
  | behind (negated : Bool) (distance : Nat) (body : Pattern)
  deriving Repr, Inhabited

namespace Pattern

namespace Width

/-- The width of nothing. -/
def zero : Width := ⟨0, some 0⟩

/-- The width of one character. -/
def one : Width := ⟨1, some 1⟩

/-- The width of two texts behind each other. -/
def add (a b : Width) : Width :=
  ⟨a.least + b.least, do return (← a.greatest) + (← b.greatest)⟩

/-- The width of one text or another. -/
def or (a b : Width) : Width :=
  ⟨min a.least b.least, do return max (← a.greatest) (← b.greatest)⟩

/-- The width of a repetition. -/
def times (w : Width) (least : Nat) (greatest : Option Nat) : Width :=
  let most := match w.greatest, greatest with
    | some 0, _ => some 0
    | _, some 0 => some 0
    | some n, some m => some (n * m)
    | _, _ => none
  ⟨w.least * least, most⟩

end Width

mutual

/-- How long the texts of a pattern are. -/
def width : Pattern → Width
  | any _ | chars .. => .one
  | anchor .. | ahead .. | behind .. => .zero
  | sequence parts => widthOfSequence parts
  | alternatives [] => .zero
  | alternatives (p :: ps) => widthOfAlternatives (width p) ps
  | group _ body | atomic body => width body
  | repeated least greatest _ body => (width body).times least greatest
  | again _ w _ => w
  | dependent _ yes no => (width yes).or (width no)

/-- How long the texts of patterns behind each other are. -/
def widthOfSequence : List Pattern → Width
  | [] => .zero
  | p :: ps => (width p).add (widthOfSequence ps)

/-- How long the texts of patterns are of which one is taken, besides one of a given width. -/
def widthOfAlternatives (w : Width) : List Pattern → Width
  | [] => w
  | p :: ps => widthOfAlternatives (w.or (width p)) ps

end

/-- The pattern of nothing. -/
def empty : Pattern := sequence []

/-- Whether a pattern is a condition on a place, which cannot be repeated. -/
def isAnchor : Pattern → Bool
  | anchor .. => true
  | _ => false

/-- Whether a pattern is a repetition, which cannot be repeated. -/
def isRepeated : Pattern → Bool
  | repeated .. => true
  | _ => false

end Pattern

end MonitoringConfig
