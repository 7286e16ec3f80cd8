import MonitoringConfig.Pattern.Basic
/-!
# Matching texts

A pattern is matched from a place in a text on: what follows the pattern is asked whether it can go
on from where the pattern ends, and if it cannot, the next way to match the pattern is tried.

* `Pattern.run` matches a pattern, given what follows it.
* `Pattern.matchesAll` says whether a pattern matches a text from its start to its end.
-/

namespace MonitoringConfig.Pattern

/-- A place in a text, with what the groups have matched so far: their numbers, and where each match
starts and ends. -/
structure Place where
  position : Nat
  groups : List (Nat × Nat × Nat) := []
  deriving DecidableEq, Repr, Inhabited

/-- What follows a pattern: it goes on from a place, and ends at another if it can. -/
abbrev Follow := Place → Option Place

/-- The character in front of a position. -/
def before? (text : Array Char) (position : Nat) : Option Char :=
  if position == 0 then none else text[position - 1]?

/-- Whether a character, if there is one, belongs to a word. -/
def inWord (flags : Flags) (c? : Option Char) : Bool :=
  c?.any (CharClass.word.holds flags.ascii)

/-- Whether a condition holds at a position. -/
def Anchor.holds (flags : Flags) (text : Array Char) (position : Nat) : Anchor → Bool
  | textStart => position == 0
  | textEnd => position == text.size
  | lineStart => position == 0 || (flags.multiLine && before? text position == some '\n')
  | lineEnd =>
    position == text.size
      || (text[position]? == some '\n' && (flags.multiLine || position + 1 == text.size))
  | boundary =>
    text.size != 0 && inWord flags (before? text position) != inWord flags text[position]?
  | noBoundary =>
    text.size != 0 && inWord flags (before? text position) == inWord flags text[position]?

/-- Matches one character. -/
def oneChar (text : Array Char) (holds : Char → Bool) (place : Place) (next : Follow) :
    Option Place :=
  match text[place.position]? with
  | some c => if holds c then next { place with position := place.position + 1 } else none
  | none => none

/-- Whether two characters of a text are the same, letter case counting or not. -/
def sameChar (flags : Flags) (a b : Option Char) : Bool :=
  match a, b with
  | some a, some b =>
    if flags.ignoreCase then lowerBy flags.ascii a == lowerBy flags.ascii b else a == b
  | _, _ => false

/-- Matches what a group has matched once more. -/
def matchAgain (text : Array Char) (flags : Flags) (number : Nat) (place : Place)
    (next : Follow) : Option Place :=
  match place.groups.lookup number with
  | some (start, stop) =>
    let same := (List.range (stop - start)).all fun i =>
      sameChar flags text[start + i]? text[place.position + i]?
    if same then next { place with position := place.position + (stop - start) } else none
  | none => none

/-- Whether one more repetition is allowed. -/
def mayRepeat (greatest : Option Nat) (count : Nat) : Bool :=
  match greatest with
  | some n => count < n
  | none => true

/-- Repeats a step as often as possible before what follows. `count` steps were taken, the last one
that was not asked for at `last?`; a step that leads nowhere is not taken again. -/
def repeatMost (step : Place → Follow → Option Place) (least : Nat) (greatest : Option Nat)
    (next : Follow) : (fuel count : Nat) → (last? : Option Nat) → Follow
  | 0, _, _, _ => none
  | fuel + 1, count, last?, place =>
    if count < least then
      step place (repeatMost step least greatest next fuel (count + 1) last?)
    else
      let more := if mayRepeat greatest count && last? != some place.position then
          step place
            (repeatMost step least greatest next fuel (count + 1) (some place.position))
        else none
      match more with
      | some p => some p
      | none => next place

/-- Repeats a step as seldom as possible before what follows. -/
def repeatLeast (step : Place → Follow → Option Place) (least : Nat) (greatest : Option Nat)
    (next : Follow) : (fuel count : Nat) → (last? : Option Nat) → Follow
  | 0, _, _, _ => none
  | fuel + 1, count, last?, place =>
    if count < least then
      step place (repeatLeast step least greatest next fuel (count + 1) last?)
    else match next place with
      | some p => some p
      | none =>
        if mayRepeat greatest count && last? != some place.position then
          step place
            (repeatLeast step least greatest next fuel (count + 1) (some place.position))
        else none

/-- Repeats a step as often as possible for good: each step ends where it first can. -/
def repeatFinal (step : Place → Follow → Option Place) (least : Nat) (greatest : Option Nat) :
    (fuel count : Nat) → (last? : Option Nat) → Follow
  | 0, _, _, _ => none
  | fuel + 1, count, last?, place =>
    if count < least then
      (step place some).bind (repeatFinal step least greatest fuel (count + 1) last?)
    else if mayRepeat greatest count && last? != some place.position then
      match step place some with
      | some p => repeatFinal step least greatest fuel (count + 1) (some place.position) p
      | none => some place
    else some place

/-- The steps that a repetition can take: those that are asked for, one for every character that is
left, and one that leads nowhere. -/
def repeatFuel (text : Array Char) (least : Nat) (place : Place) : Nat :=
  least + (text.size - place.position) + 2

mutual

/-- Matches a pattern at a place, before what follows it. -/
def run (text : Array Char) : Pattern → Place → Follow → Option Place
  | any flags, place, next => oneChar text (fun c => flags.dotAll || c != '\n') place next
  | chars set flags, place, next => oneChar text (set.holds flags) place next
  | anchor a flags, place, next =>
    if a.holds flags text place.position then next place else none
  | sequence parts, place, next => runSequence text parts place next
  | alternatives parts, place, next => runAlternatives text parts place next
  | group none body, place, next => run text body place next
  | group (some n) body, place, next =>
    run text body place fun p =>
      next { p with groups := (n, place.position, p.position) :: p.groups }
  | atomic body, place, next => (run text body place some).bind next
  | repeated least greatest greed body, place, next =>
    let fuel := repeatFuel text least place
    match greed with
    | .most => repeatMost (run text body) least greatest next fuel 0 none place
    | .least => repeatLeast (run text body) least greatest next fuel 0 none place
    | .final => (repeatFinal (run text body) least greatest fuel 0 none place).bind next
  | again number _ flags, place, next => matchAgain text flags number place next
  | dependent number yes no, place, next =>
    if (place.groups.lookup number).isSome then run text yes place next
    else run text no place next
  | ahead negated body, place, next =>
    match run text body place some with
    | some p => if negated then none else next { p with position := place.position }
    | none => if negated then next place else none
  | behind negated distance body, place, next =>
    let found := if place.position < distance then none
      else run text body { place with position := place.position - distance } some
    match found with
    | some p => if negated then none else next { p with position := place.position }
    | none => if negated then next place else none

/-- Matches patterns behind each other. -/
def runSequence (text : Array Char) : List Pattern → Place → Follow → Option Place
  | [], place, next => next place
  | p :: ps, place, next => run text p place fun q => runSequence text ps q next

/-- Matches one of several patterns, tried in order. -/
def runAlternatives (text : Array Char) : List Pattern → Place → Follow → Option Place
  | [], _, _ => none
  | p :: ps, place, next =>
    match run text p place next with
    | some q => some q
    | none => runAlternatives text ps place next

end

/-- Whether a pattern matches a text from its start to its end. -/
def matchesAll (p : Pattern) (text : String) : Bool :=
  let chars := text.toList.toArray
  (run chars p ⟨0, []⟩ fun place =>
    if place.position == chars.size then some place else none).isSome

end MonitoringConfig.Pattern
