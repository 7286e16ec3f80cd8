import MonitoringConfig.Pattern.Match
import MonitoringConfig.Pattern.Read
/-!
# Scanning with patterns

A repetition tries many ends before what follows it goes on from one. Where the repeated pattern is
one of characters, what follows often leaves no choice, and the repetition is a scan.

* `Pattern.run_most` : as many characters as there are, if what follows can go on from there or from
  nowhere before.
* `Pattern.run_least` : as few characters as there can be before what follows goes on.
* `Pattern.run_words` : the first of several words that leads on.
* `Pattern.captured?` : what a group has matched.
-/

namespace MonitoringConfig.Pattern

/-! ### Places -/

/-- What is left of a text from a position on. -/
def left (text : Array Char) (position : Nat) : List Char :=
  text.toList.drop position

/-- A place further on, with what the groups have matched so far. -/
def Place.on (place : Place) (count : Nat) : Place :=
  { place with position := place.position + count }

@[simp] theorem Place.position_on (place : Place) (count : Nat) :
    (place.on count).position = place.position + count := rfl

@[simp] theorem Place.on_zero (place : Place) : place.on 0 = place := rfl

@[simp] theorem Place.on_on (place : Place) (m n : Nat) :
    (place.on m).on n = place.on (m + n) := by
  simp [Place.on, Nat.add_assoc]

section

variable {text : Array Char} {position : Nat} {c : Char} {cs : List Char}

theorem getElem?_eq_head? : text[position]? = (left text position).head? := by
  rw [left, List.head?_drop, Array.getElem?_toList]

theorem left_add (count : Nat) :
    left text (position + count) = (left text position).drop count := by
  rw [left, left, List.drop_drop]

theorem left_append {front behind : List Char} (h : left text position = front ++ behind) :
    left text (position + front.length) = behind := by
  rw [left_add, h, List.drop_left]

theorem left_succ (h : left text position = c :: cs) : left text (position + 1) = cs := by
  rw [left_add, h]
  rfl

theorem length_left (text : Array Char) (position : Nat) :
    (left text position).length = text.size - position := by
  rw [left, List.length_drop, Array.length_toList]

/-- Where a text ends, nothing is left. -/
theorem left_eq_nil (h : position ≤ text.size) :
    left text position = [] ↔ position = text.size := by
  rw [← List.length_eq_zero_iff, length_left]
  omega

end

variable {text : Array Char} {holds : Char → Bool} {place : Place} {next : Follow} {c : Char}
  {cs : List Char}

theorem oneChar_eq : oneChar text holds place next =
    match left text place.position with
    | c :: _ => if holds c then next (place.on 1) else none
    | [] => none := by
  rw [oneChar, getElem?_eq_head?]
  cases left text place.position <;> rfl

/-! ### Repetitions -/

/-- How many characters of a text there are from a position on until one is no longer in a class. -/
def scan (text : Array Char) (holds : Char → Bool) (position : Nat) : Nat :=
  ((left text position).takeWhile holds).length

/-- Behind a scan stands what is left when the characters of the class are dropped. -/
theorem left_scan (text : Array Char) (holds : Char → Bool) (position : Nat) :
    left text (position + scan text holds position) = (left text position).dropWhile holds := by
  rw [left_add, scan]
  calc (left text position).drop ((left text position).takeWhile holds).length
      = ((left text position).takeWhile holds ++ (left text position).dropWhile holds).drop
          ((left text position).takeWhile holds).length := by rw [List.takeWhile_append_dropWhile]
    _ = (left text position).dropWhile holds := List.drop_left

theorem scan_add_length (text : Array Char) (holds : Char → Bool) (position : Nat) :
    scan text holds position + ((left text position).dropWhile holds).length =
      (left text position).length := by
  rw [scan, ← List.length_append, List.takeWhile_append_dropWhile]

theorem take_scan (text : Array Char) (holds : Char → Bool) (position : Nat) :
    (left text position).take (scan text holds position) = (left text position).takeWhile holds :=
  (List.prefix_iff_eq_take.1 (List.takeWhile_prefix holds)).symm

/-- A scan ends where something else starts. -/
theorem scan_append {position : Nat} {front behind : List Char}
    (h : left text position = front ++ behind) (hfront : ∀ c ∈ front, holds c = true)
    (hbehind : ∀ c, behind.head? = some c → holds c = false) :
    scan text holds position = front.length := by
  rw [scan, h, List.takeWhile_append_of_pos hfront]
  cases behind with
  | nil => simp
  | cons c behind => simp [hbehind c rfl]

/-- Within a scan stands a character of the class. -/
theorem left_of_lt_scan {position k : Nat} (hk : k < scan text holds position) :
    ∃ c cs, left text (position + k) = c :: cs ∧ holds c = true := by
  refine ⟨((left text position).takeWhile holds)[k],
    ((left text position).takeWhile holds).drop (k + 1) ++ (left text position).dropWhile holds,
    ?_, List.all_eq_true.1 List.all_takeWhile _ (List.getElem_mem hk)⟩
  rw [left_add, ← List.cons_append, ← List.drop_eq_getElem_cons hk,
    ← List.drop_append_of_le_length (Nat.le_of_lt hk), List.takeWhile_append_dropWhile]

theorem scan_cons (h : left text place.position = c :: cs) (hc : holds c = true) :
    scan text holds place.position = scan text holds (place.on 1).position + 1 := by
  rw [scan, scan, Place.position_on, left_succ h, h, List.takeWhile_cons_of_pos hc,
    List.length_cons]

/-- Whether the last step of a repetition, if there was one, started in front of a place. -/
def IsBefore (last? : Option Nat) (place : Place) : Prop :=
  ∀ p, last? = some p → p < place.position

theorem IsBefore.bne {last? : Option Nat} (h : IsBefore last? place) :
    (last? != some place.position) = true := by
  rw [bne_iff_ne]
  exact fun heq => Nat.lt_irrefl _ (h _ heq)

theorem IsBefore.on {last? : Option Nat} (h : IsBefore last? place) (count : Nat) :
    IsBefore last? (place.on count) :=
  fun p hp => Nat.lt_of_lt_of_le (h p hp) (Nat.le_add_right _ _)

theorem isBefore_none (place : Place) : IsBefore none place := by
  intro p hp
  cases hp

theorem isBefore_on (place : Place) : IsBefore (some place.position) (place.on 1) := by
  intro p hp
  cases hp
  exact Nat.lt_succ_self _

section

variable {least fuel count : Nat} {last? : Option Nat}

/-- Where no character of the class stands, a repetition ends. -/
theorem repeatMost_stop (h : ∀ f, oneChar text holds place f = none) :
    repeatMost (oneChar text holds) least none next (fuel + 1) count last? place =
      if least ≤ count then next place else none := by
  rw [repeatMost]
  by_cases hcount : count < least
  · rw [if_pos hcount, if_neg (Nat.not_le_of_lt hcount), h]
  · simp [h, hcount, Nat.not_lt.1 hcount]

/-- Where a character of the class stands, a repetition goes on behind it, and ends here if that
leads nowhere. -/
theorem repeatMost_step (h : ∀ f, oneChar text holds place f = f (place.on 1))
    (hlast : IsBefore last? place) :
    repeatMost (oneChar text holds) least none next (fuel + 1) count last? place =
      if count < least then
        repeatMost (oneChar text holds) least none next fuel (count + 1) last? (place.on 1)
      else
        (repeatMost (oneChar text holds) least none next fuel (count + 1) (some place.position)
          (place.on 1)).or (next place) := by
  rw [repeatMost, h, h]
  simp only [hlast.bne, mayRepeat, Bool.and_true, if_true]
  split
  · rfl
  · cases repeatMost (oneChar text holds) least none next fuel (count + 1) (some place.position)
      (place.on 1) <;> rfl

/-- **A repetition of characters takes as many as there are**, if what follows can go on from
there, or from nowhere before. -/
theorem repeatMost_oneChar (hlast : IsBefore last? place)
    (hfuel : (left text place.position).length < fuel)
    (hnext : next (place.on (scan text holds place.position)) = none →
      ∀ k < scan text holds place.position, next (place.on k) = none) :
    repeatMost (oneChar text holds) least none next fuel count last? place =
      if least ≤ count + scan text holds place.position
      then next (place.on (scan text holds place.position)) else none := by
  -- The induction is on what is left of the text. The fuel is more than its length, so it lasts.
  induction hleft : left text place.position generalizing place fuel count last? with
  | nil =>
    obtain ⟨fuel, rfl⟩ : ∃ n, fuel = n + 1 := ⟨fuel - 1, by omega⟩
    have hscan : scan text holds place.position = 0 := by rw [scan, hleft]; rfl
    rw [repeatMost_stop (fun f => by rw [oneChar_eq, hleft]), hscan]
    rfl
  | cons c cs ih =>
    obtain ⟨fuel, rfl⟩ : ∃ n, fuel = n + 1 := ⟨fuel - 1, by omega⟩
    have hbehind : left text (place.on 1).position = cs := left_succ hleft
    by_cases hc : holds c = true
    · have hscan := scan_cons hleft hc
      have hplace : (place.on 1).on (scan text holds (place.on 1).position) =
          place.on (scan text holds place.position) := by
        rw [Place.on_on, Nat.add_comm, ← hscan]
      have hfurther : next ((place.on 1).on (scan text holds (place.on 1).position)) = none →
          ∀ k < scan text holds (place.on 1).position, next ((place.on 1).on k) = none := by
        intro hnone k hk
        rw [Place.on_on, Nat.add_comm]
        exact hnext (hplace ▸ hnone) _ (by omega)
      have hshorter : (left text (place.on 1).position).length < fuel := by
        rw [hleft, List.length_cons] at hfuel
        rw [hbehind]
        omega
      rw [repeatMost_step (fun f => by simp [oneChar_eq, hleft, hc]) hlast]
      by_cases hcount : count < least
      · rw [if_pos hcount, ih (hlast.on 1) hshorter hfurther hbehind, hplace, hscan, Nat.add_assoc,
          Nat.add_comm 1]
      · rw [if_neg hcount, ih (isBefore_on place) hshorter hfurther hbehind, hplace,
          if_pos (by omega), if_pos (by omega)]
        -- If nothing can go on from the end, nothing can from here, to which the match goes back.
        cases hend : next (place.on (scan text holds place.position)) with
        | some q => rfl
        | none => exact hnext hend 0 (by omega)
    · have hscan : scan text holds place.position = 0 := by
        rw [scan, hleft, List.takeWhile_cons_of_neg hc]
        rfl
      rw [repeatMost_stop (fun f => by simp [oneChar_eq, hleft, hc]), hscan]
      rfl

/-- **A repetition of any characters takes as few as what follows needs** to go on. -/
theorem repeatLeast_oneChar {k : Nat} {q : Place} (hall : ∀ c, holds c = true)
    (hlast : IsBefore last? place) (hfuel : k < fuel)
    (hk : k ≤ (left text place.position).length) (hnone : ∀ j < k, next (place.on j) = none)
    (hsome : next (place.on k) = some q) :
    repeatLeast (oneChar text holds) 0 none next fuel count last? place = some q := by
  -- One character more is taken each time that what follows cannot go on.
  induction k generalizing place fuel count last? with
  | zero =>
    obtain ⟨fuel, rfl⟩ : ∃ n, fuel = n + 1 := ⟨fuel - 1, by omega⟩
    rw [Place.on_zero] at hsome
    rw [repeatLeast, if_neg (Nat.not_lt_zero _), hsome]
  | succ k ih =>
    obtain ⟨fuel, rfl⟩ : ∃ n, fuel = n + 1 := ⟨fuel - 1, by omega⟩
    obtain ⟨c, cs, hleft⟩ : ∃ c cs, left text place.position = c :: cs := by
      cases hleft : left text place.position with
      | nil => simp [hleft] at hk
      | cons c cs => exact ⟨c, cs, rfl⟩
    have hhere : next place = none := hnone 0 (Nat.succ_pos k)
    rw [repeatLeast, if_neg (Nat.not_lt_zero _), hhere]
    simp only [hlast.bne, mayRepeat, Bool.and_true, if_true, oneChar_eq, hleft, hall c]
    refine ih (isBefore_on place) (by omega) ?_ ?_ ?_
    · rw [Place.position_on, left_succ hleft]
      simpa [hleft] using hk
    · intro j hj
      rw [Place.on_on, Nat.add_comm]
      exact hnone _ (by omega)
    · rw [Place.on_on, Nat.add_comm]
      exact hsome

end

variable {flags : Flags} {set : CharSet}

/-- **As many characters of a set as there are**, if what follows can go on from there, or from
nowhere before. -/
theorem run_most {least : Nat} (hnext :
      next (place.on (scan text (set.holds flags) place.position)) = none →
        ∀ k < scan text (set.holds flags) place.position, next (place.on k) = none) :
    run text (.repeated least none .most (.chars set flags)) place next =
      if least ≤ scan text (set.holds flags) place.position
      then next (place.on (scan text (set.holds flags) place.position)) else none := by
  have hstep : run text (.chars set flags) = oneChar text (set.holds flags) := by
    funext place next
    rw [run]
  have hfuel : (left text place.position).length < repeatFuel text least place := by
    rw [length_left, repeatFuel]
    omega
  rw [run]
  simp only [hstep]
  rw [repeatMost_oneChar (isBefore_none place) hfuel hnext, Nat.zero_add]

/-- **As few characters as what follows needs** to go on. -/
theorem run_least {k : Nat} {q : Place} (hall : flags.dotAll = true)
    (hk : k ≤ (left text place.position).length) (hnone : ∀ j < k, next (place.on j) = none)
    (hsome : next (place.on k) = some q) :
    run text (.repeated 0 none .least (.any flags)) place next = some q := by
  have hstep : run text (.any flags) =
      oneChar text (fun c => flags.dotAll || c != '\n') := by
    funext place next
    rw [run]
  have hfuel : k < repeatFuel text 0 place := by
    rw [length_left] at hk
    rw [repeatFuel]
    omega
  rw [run]
  simp only [hstep]
  exact repeatLeast_oneChar (fun c => by rw [hall]; rfl) (isBefore_none place) hfuel hk
    hnone hsome

/-! ### Words -/

/-- The pattern of one character. -/
def literal (flags : Flags) (c : Char) : Pattern :=
  chars ⟨[.one c.toNat], false⟩ flags

/-- The pattern of some characters behind each other. -/
def word (flags : Flags) : List Char → Pattern
  | [c] => literal flags c
  | cs => sequence (cs.map (literal flags))

theorem holds_literal (hflags : flags.ignoreCase = false) (c d : Char) :
    CharSet.holds flags ⟨[.one c.toNat], false⟩ d = (d == c) := by
  simp only [CharSet.holds, hflags, Bool.false_and, Bool.false_eq_true, if_false, List.any_cons,
    List.any_nil, CharItem.holds, Bool.or_false, Bool.bne_false]
  rw [Bool.eq_iff_iff, beq_iff_eq, beq_iff_eq, Char.toNat_inj]

theorem run_literal (hflags : flags.ignoreCase = false) (c : Char) (place : Place)
    (next : Follow) : run text (literal flags c) place next =
      if [c].isPrefixOf (left text place.position) then next (place.on 1) else none := by
  rw [literal, run, oneChar_eq]
  simp only [holds_literal hflags]
  cases left text place.position with
  | nil => rfl
  | cons d cs => simp [List.isPrefixOf, Bool.beq_comm]

theorem runSequence_literals (hflags : flags.ignoreCase = false) (w : List Char) (place : Place)
    (next : Follow) : runSequence text (w.map (literal flags)) place next =
      if w.isPrefixOf (left text place.position) then next (place.on w.length) else none := by
  induction w generalizing place with
  | nil =>
    rw [List.map_nil, runSequence]
    rfl
  | cons c w ih =>
    rw [List.map_cons, runSequence, run_literal hflags]
    cases hleft : left text place.position with
    | nil => rfl
    | cons d cs =>
      rw [ih, Place.position_on, left_succ hleft, Place.on_on, List.length_cons, Nat.add_comm]
      by_cases hcd : c = d
      · simp [List.isPrefixOf, hcd]
      · simp [List.isPrefixOf, hcd]

/-- **A word is matched where it stands.** -/
theorem run_word (hflags : flags.ignoreCase = false) (w : List Char) (place : Place)
    (next : Follow) : run text (word flags w) place next =
      if w.isPrefixOf (left text place.position) then next (place.on w.length) else none := by
  unfold word
  split
  · exact run_literal hflags _ place next
  · rw [run]
    exact runSequence_literals hflags w place next

/-- **The first of several words that stands there and lets what follows go on.** -/
theorem run_words (hflags : flags.ignoreCase = false) (ws : List (List Char)) (place : Place)
    (next : Follow) : run text (.alternatives (ws.map (word flags))) place next =
      ws.findSome? fun w =>
        if w.isPrefixOf (left text place.position) then next (place.on w.length) else none := by
  rw [run]
  induction ws with
  | nil =>
    rw [List.map_nil, runAlternatives]
    rfl
  | cons w ws ih =>
    rw [List.map_cons, runAlternatives, run_word hflags, ih, List.findSome?_cons]
    cases hfound : (if w.isPrefixOf (left text place.position) then next (place.on w.length)
      else none) <;> rfl

/-! ### Groups -/

/-- What a group has matched. -/
def captured? (text : Array Char) (place : Place) (number : Nat) : Option (List Char) :=
  (place.groups.lookup number).map fun (start, stop) => (left text start).take (stop - start)

section

variable {position number other start stop : Nat} {groups : List (Nat × Nat × Nat)}

@[simp] theorem captured_self :
    captured? text ⟨position, (number, start, stop) :: groups⟩ number =
      some ((left text start).take (stop - start)) := by
  rw [captured?, List.lookup_cons_self]
  rfl

@[simp] theorem captured_of_ne (h : number ≠ other) :
    captured? text ⟨position, (other, start, stop) :: groups⟩ number =
      captured? text ⟨position, groups⟩ number := by
  rw [captured?, captured?, List.lookup_cons, beq_eq_false_iff_ne.2 h]

end

end MonitoringConfig.Pattern
