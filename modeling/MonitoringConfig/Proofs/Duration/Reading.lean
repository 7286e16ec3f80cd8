import MonitoringConfig.Proofs.Duration.Grammar
import MonitoringConfig.Proofs.Pattern.Scan
/-!
# Reading durations with a pattern

A token is what the pattern `([0-9]+)(ms|s|m|h|d|w|y)` matches. Its repetition and its alternatives
could be matched in other ways, but no other way leads on.

* `Duration.exists_match`, `Duration.run_eq_none` : the pattern matches the token at a place, if one
  starts there.
* `Duration.tokensBy_eq` : a loop that takes one match after the other reads the same tokens, and
  stops at the same position.
* `Duration.parse_grammar` : **the texts of durations are rows of tokens behind a sign**; what they
  mean, and what is said of all others.
-/

namespace MonitoringConfig

namespace Duration

open Pattern

variable {text : Array Char} {position : Nat} {ds rest : List Char} {u : TimeUnit}

/-- The units in the order in which the pattern tries them: the millisecond before the minute. -/
def tried : List TimeUnit :=
  [.millisecond, .second, .minute, .hour, .day, .week, .year]

/-- The pattern of the name of a unit. -/
def unitPattern : Pattern :=
  .alternatives ((tried.map TimeUnit.symbol).map (word {}))

/-- The pattern of a token. -/
def tokenPattern : Pattern := .sequence [
  .group (some 1) (.repeated 1 none .most (.chars ⟨[.range '0'.toNat '9'.toNat], false⟩ {})),
  .group (some 2) unitPattern]

theorem read_tokenPattern : Pattern.read "([0-9]+)(ms|s|m|h|d|w|y)" = .ok tokenPattern := rfl

/-- Reads tokens with a pattern: each match is a token, and the next one starts behind it. -/
def tokensBy (p : Pattern) (text : Array Char) : (fuel position : Nat) → Except Nat (List Token)
  | 0, position => .error position
  | fuel + 1, position =>
    if position < text.size then
      match run text p ⟨position, []⟩ some with
      | none => .error position
      | some place =>
        match captured? text place 1, captured? text place 2 with
        | some digits, some name =>
          match tried.find? (·.symbol == name) with
          | some u =>
            (tokensBy p text fuel place.position).map (⟨numberOf digits, u⟩ :: ·)
          | none => .error position
        | _, _ => .error position
    else .ok []

/-! ### One token -/

theorem holds_digits : CharSet.holds {} ⟨[.range '0'.toNat '9'.toNat], false⟩ = Char.isDigit := by
  funext c
  rw [Bool.eq_iff_iff]
  simp [CharSet.holds, CharItem.holds, Char.isDigit, UInt32.le_iff_toNat_le]

/-- The name of a unit is matched where it stands. -/
theorem run_units {place : Place} {next : Follow} {q : Place}
    (hleft : left text place.position = u.symbol ++ rest)
    (hwhole : u = .minute → rest.head? ≠ some 's')
    (hnext : next (place.on u.symbol.length) = some q) :
    run text unitPattern place next = some q := by
  rw [unitPattern, run_words rfl, hleft]
  cases u with
  | minute =>
    -- the millisecond is tried first
    cases rest with
    | nil => simp_all [tried, TimeUnit.symbol]
    | cons c rest =>
      have hs : 's' ≠ c := fun h => hwhole rfl (by rw [h]; rfl)
      simp_all [tried, TimeUnit.symbol]
  | _ => simp_all [tried, TimeUnit.symbol]

/-- Where no name of a unit stands, none is matched. -/
theorem run_units_eq_none {place : Place} {next : Follow}
    (h : ∀ (u : TimeUnit) rest, left text place.position ≠ u.symbol ++ rest) :
    run text unitPattern place next = none := by
  rw [unitPattern, run_words rfl, List.findSome?_eq_none_iff]
  intro w hw
  obtain ⟨u, -, rfl⟩ := List.mem_map.1 hw
  refine if_neg fun hfront => ?_
  obtain ⟨rest, hrest⟩ := List.isPrefixOf_iff_prefix.1 hfront
  exact h u rest hrest.symm

/-- The pattern matches all digits at a place, and then the name of a unit: no unit starts with a
digit. -/
theorem run_token (text : Array Char) (position : Nat) :
    run text tokenPattern ⟨position, []⟩ some =
      if 1 ≤ scan text Char.isDigit position then
        run text unitPattern ⟨position + scan text Char.isDigit position,
            [(1, position, position + scan text Char.isDigit position)]⟩ fun p =>
          some { p with groups :=
            (2, position + scan text Char.isDigit position, p.position) :: p.groups }
      else none := by
  rw [tokenPattern, run, runSequence, run, run_most, holds_digits]
  · simp only [runSequence, run]
    rfl
  · intro _ k hk
    rw [holds_digits] at hk
    obtain ⟨c, cs, hleft, hc⟩ := left_of_lt_scan hk
    simp only [runSequence, run]
    refine run_units_eq_none fun u rest hu => ?_
    have hnot := not_isDigit_of_symbol (hu.symm.trans hleft)
    rw [hc] at hnot
    cases hnot

theorem run_of_starts (h : Starts (left text position) ds u rest) :
    run text tokenPattern ⟨position, []⟩ some = some
      ⟨position + ds.length + u.symbol.length,
        [(2, position + ds.length, position + ds.length + u.symbol.length),
          (1, position, position + ds.length)]⟩ := by
  have hscan := scan_append h.split h.digits.2 (symbol_head u rest)
  have hbehind := left_append h.split
  rw [run_token, hscan, if_pos (Nat.one_le_iff_ne_zero.2 (by simpa using h.digits.1))]
  exact run_units hbehind h.whole rfl

/-- Where no token starts, the pattern matches nothing. -/
theorem run_eq_none (h : ∀ ds u rest, ¬ Starts (left text position) ds u rest) :
    run text tokenPattern ⟨position, []⟩ some = none := by
  rw [run_token]
  split
  · next hscan =>
    refine run_units_eq_none fun u rest hu => ?_
    have hdigits : IsDigits ((left text position).takeWhile Char.isDigit) :=
      ⟨List.length_pos_iff.1 hscan, List.all_eq_true.1 List.all_takeWhile⟩
    obtain ⟨u', rest', hstarts⟩ := exists_starts hdigits u rest
    rw [← hu, left_scan, List.takeWhile_append_dropWhile] at hstarts
    exact h _ u' rest' hstarts
  · rfl

/-! ### Rows of tokens -/

/-- **The token at a place is matched**, and the groups of the match are its digits and the name of
its unit. -/
theorem exists_match (h : Starts (left text position) ds u rest) :
    ∃ place, run text tokenPattern ⟨position, []⟩ some = some place ∧
      captured? text place 1 = some ds ∧ captured? text place 2 = some u.symbol ∧
      place.position = position + (ds.length + u.symbol.length) ∧
      left text place.position = rest := by
  have hbehind := left_append h.split
  refine ⟨_, run_of_starts h, ?_, ?_, Nat.add_assoc _ _ _, ?_⟩
  · simp [h.split]
  · simp [hbehind]
  · exact left_append hbehind

theorem find?_tried (u : TimeUnit) : tried.find? (·.symbol == u.symbol) = some u := by
  cases u <;> rfl

/-- **A loop that takes one match after the other reads the same tokens.** -/
theorem tokensBy_eq {fuel : Nat} (hfuel : text.size - position < fuel)
    (hposition : position ≤ text.size) :
    tokensBy tokenPattern text fuel position =
      readTokens position position none (left text position) := by
  induction fuel generalizing position with
  | zero => omega
  | succ fuel ih =>
    rw [tokensBy]
    by_cases hend : position < text.size
    · rw [if_pos hend]
      by_cases hstarts : ∃ ds u rest, Starts (left text position) ds u rest
      · obtain ⟨ds, u, rest, h⟩ := hstarts
        obtain ⟨place, hrun, hdigits, hname, hplace, hrest⟩ := exists_match h
        have hlength := h.length
        have hpos := List.length_pos_iff.2 h.digits.1
        rw [length_left] at hlength
        simp only [hrun, hdigits, hname, find?_tried]
        rw [ih (by rw [hplace]; omega) (by rw [hplace]; omega), hrest, hplace,
          readTokens_of_starts h]
      · simp only [not_exists] at hstarts
        have hne : left text position ≠ [] := fun h => by
          rw [left_eq_nil hposition] at h
          omega
        rw [run_eq_none hstarts, readTokens_eq_error hne hstarts]
    · have hnil : left text position = [] := (left_eq_nil hposition).2 (by omega)
      rw [if_neg hend, hnil]
      rfl

/-- **The texts of durations are rows of tokens**, behind a sign or not, and mean the signed sum of
their counts times their units. All others are refused: with nothing behind the sign as empty, else
at the end of the longest row of tokens there. Rows behind each other add up, their order does not
matter, digits that end in `ms` are milliseconds, and no text is spelled in two ways. The tokens are
those that a pattern finds, one match after the other. -/
theorem parse_grammar :
    (∀ (text : String) (d : Duration), parseValue (.text text) = .ok d ↔
      ∃ negative cs ts, text = String.ofList (withSign negative cs) ∧ ts ≠ [] ∧ Spells cs ts ∧
        d.nanoseconds = (if negative then -1 else 1) *
          (ts.map fun t => (t.count * t.unit.size : Int)).sum) ∧
    (∀ text : String, (∀ d, parseValue (.text text) ≠ .ok d) →
      ∃ f, parseValue (.text text) = .error f ∧ f.category = .malformedDuration ∧
        ((splitSign text.toList).2 = [] → f = .emptyDuration text) ∧
        ((splitSign text.toList).2 ≠ [] → ∃ front,
          LongestFront (splitSign text.toList).2 front ∧
            f = .malformedDuration text front.length)) ∧
    (∀ (negative : Bool) (parts parts' : List (List Char)), (∀ p ∈ parts, ∃ t, Spells p [t]) →
      parts.Perm parts' →
        parseValue (.text (String.ofList (withSign negative parts.flatten))) =
          parseValue (.text (String.ofList (withSign negative parts'.flatten)))) ∧
    (∀ (negative : Bool) (cs cs' : List Char) (ts ts' : List Token), Spells cs ts →
      Spells cs' ts' → cs ≠ [] → cs' ≠ [] → ∃ d d',
        parseValue (.text (String.ofList (withSign negative cs))) = .ok d ∧
        parseValue (.text (String.ofList (withSign negative cs'))) = .ok d' ∧
        parseValue (.text (String.ofList (withSign negative (cs ++ cs')))) = .ok (d.add d')) ∧
    (∀ (before ds rest : List Char) (ts : List Token), (∀ c ∈ ds, c.isDigit = true) →
      (∀ c, before.getLast? = some c → c.isDigit = false) →
      Spells (before ++ (ds ++ 'm' :: 's' :: rest)) ts →
        ∃ us vs, Spells before us ∧ Spells rest vs ∧
          ts = us ++ ⟨numberOf ds, .millisecond⟩ :: vs) ∧
    (∀ (cs : List Char) (ts us : List Token), Spells cs ts → Spells cs us → ts = us) ∧
    ∃ p, Pattern.read "([0-9]+)(ms|s|m|h|d|w|y)" = .ok p ∧
      ∀ cs : List Char, tokensBy p cs.toArray (cs.length + 1) 0 = tokens cs := by
  refine ⟨fun text d => ?_, fun text h => parseValue_eq_error h,
    fun negative parts parts' h hperm => parseValue_perm h hperm negative,
    fun negative cs cs' ts ts' h h' hcs hcs' => ?_,
    fun before ds rest ts hds hbefore h => h.millisecond hds hbefore,
    fun cs ts us h h' => h.unique h', tokenPattern, read_tokenPattern, fun cs => ?_⟩
  · rw [parseValue_eq_ok]
    refine exists₃_congr fun negative cs ts => and_congr_right' (and_congr_right'
      (and_congr_right' ?_))
    rw [← nanoseconds_ofTokens]
    cases d
    exact ⟨congrArg nanoseconds, congrArg mk⟩
  · have hts : ts ≠ [] := fun hts => hcs (h.eq_nil_iff.2 hts)
    have hts' : ts' ≠ [] := fun hts' => hcs' (h'.eq_nil_iff.2 hts')
    refine ⟨_, _, parseValue_of_spells h hts negative, parseValue_of_spells h' hts' negative, ?_⟩
    rw [parseValue_of_spells (h.append h') (by simp [hts]), ofTokens_append]
  · rw [tokensBy_eq (by simp) (Nat.zero_le _)]
    rfl

/-- Two hours and five milliseconds before now; and the third character of `5m3x` starts no
token. -/
theorem parse_grammar_signed :
    parseValue (.text "-2h5ms") = .ok ⟨-7200005000000⟩ ∧
      parseValue (.text "5m3x") = .error (.malformedDuration "5m3x" 2) := by
  obtain ⟨hok, herror, -⟩ := parse_grammar
  have hspells : Spells "2h5ms".toList [⟨2, .hour⟩, ⟨5, .millisecond⟩] := tokens_eq_ok.1 rfl
  have hnone : ∀ d, parseValue (.text "5m3x") ≠ .ok d := fun d hd => by
    cases (show parseValue (.text "5m3x") = .error _ from rfl).symm.trans hd
  obtain ⟨f, hf, -, -, hposition⟩ := herror "5m3x" hnone
  obtain ⟨front, hfront, rfl⟩ := hposition (List.cons_ne_nil _ _)
  obtain ⟨-, front', hfront', hlength⟩ :=
    tokens_eq_error.1 (rfl : tokens "5m3x".toList = .error 2)
  refine ⟨(hok _ _).2 ⟨true, _, _, rfl, List.cons_ne_nil _ _, hspells, rfl⟩, ?_⟩
  rw [hf, hfront.unique hfront', ← hlength]

end Duration

end MonitoringConfig
