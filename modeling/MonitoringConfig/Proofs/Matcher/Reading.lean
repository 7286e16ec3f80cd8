import MonitoringConfig.Projection.Wire
import MonitoringConfig.Proofs.Matcher.Grammar
import MonitoringConfig.Proofs.Pattern.Scan
/-!
# Reading matchers with a pattern

The text of a matcher is what the pattern `^\s*([^=!~\s"]+)\s*(!~|!=|=~|=)\s*(.*?)\s*$` matches,
with a dot that is a line break too. The pattern could be matched in many ways, and the end of a
line stands in front of a last line break as well; but each part can be followed by the next at one
place alone.

* `Matcher.run_ending`, `Matcher.run_value`, `Matcher.run_operator`, `Matcher.run_name` : each part
  is matched where the reader finds it.
* `Matcher.parseBy_eq` : the reader takes what the pattern matches.
* `Matcher.text_grammar` : **the texts of matchers are a name between blanks, an operator and
  anything behind it**; the value that they have, and what is said of all others.
-/

namespace MonitoringConfig

namespace Matcher

open Pattern

variable {text : Array Char} {place : Place} {op : MatchType} {rest : List Char}

/-! ### The pattern -/

/-- The dot is a line break too. -/
def dotAll : Flags := { dotAll := true }

/-- The pattern of blanks. -/
def blanks : Pattern :=
  .repeated 0 none .most (.chars ⟨[.class .space false], false⟩ dotAll)

/-- The characters that no name has. -/
def notInName : CharSet :=
  ⟨[.one '='.toNat, .one '!'.toNat, .one '~'.toNat, .class .space false, .one '"'.toNat], true⟩

/-- The operators in the order in which the pattern tries them: those of two characters first. -/
def tried : List MatchType :=
  [.notRegex, .notEqual, .regex, .equal]

/-- The pattern of an operator. -/
def operatorPattern : Pattern :=
  .alternatives ((tried.map fun op => op.symbol.toList).map (word dotAll))

/-- What stands behind the value. -/
def ending : List Pattern :=
  [blanks, .anchor .lineEnd dotAll]

/-- The value, and what stands behind it. -/
def valueOn : List Pattern :=
  .group (some 3) (.repeated 0 none .least (.any dotAll)) :: ending

/-- The operator, and what stands behind it. -/
def operatorOn : List Pattern :=
  .group (some 2) operatorPattern :: blanks :: valueOn

/-- The name, and what stands behind it. -/
def nameOn : List Pattern :=
  .group (some 1) (.repeated 1 none .most (.chars notInName dotAll)) :: blanks :: operatorOn

/-- The pattern of a matcher. -/
def matcherPattern : Pattern :=
  .sequence (.anchor .lineStart dotAll :: blanks :: nameOn)

theorem read_matcherPattern :
    Pattern.read "(?s)^\\s*([^=!~\\s\"]+)\\s*(!~|!=|=~|=)\\s*(.*?)\\s*$" = .ok matcherPattern := by
  cbv

/-- Whether there are quotes around a text, told by its two ends. -/
def isQuoted (cs : List Char) : Bool :=
  2 ≤ cs.length && cs.head? == some '"' && cs.getLast? == some '"'

/-- Reads a matcher with a pattern: the groups of its match are the name, the operator and the
value, which is decoded if it has quotes around it. -/
def parseBy (p : Pattern) (text : String) : Option Matcher := do
  let chars := text.toList.toArray
  let place ← run chars p ⟨0, []⟩ some
  let name ← captured? chars place 1
  let symbol ← captured? chars place 2
  let value ← captured? chars place 3
  let op ← MatchType.ofSymbol? (String.ofList symbol)
  let value := if isQuoted value then unescape value.tail.dropLast else value
  return ⟨String.ofList name, op, String.ofList value⟩

theorem holds_blank : CharSet.holds dotAll ⟨[.class .space false], false⟩ = Text.isBlank := by
  funext c
  simp [CharSet.holds, CharItem.holds, CharClass.holds, dotAll]

theorem holds_notInName : CharSet.holds dotAll notInName = isNameChar := by
  funext c
  have hone : ∀ (d : Char) (n : Nat), d.toNat = n → (c.toNat = n ↔ c = d) := by
    rintro d n rfl
    exact Char.toNat_inj
  rw [Bool.eq_iff_iff, isNameChar_iff]
  simp [CharSet.holds, CharItem.holds, CharClass.holds, dotAll, notInName, hone '=' 61 rfl,
    hone '!' 33 rfl, hone '~' 126 rfl, hone '"' 34 rfl, and_assoc]
  exact fun _ _ _ => and_comm

/-! ### The end -/

theorem holds_lineEnd {position : Nat} (hposition : position ≤ text.size) :
    Anchor.lineEnd.holds dotAll text position = true ↔
      left text position = [] ∨ left text position = ['\n'] := by
  have hlength := length_left text position
  simp only [Anchor.holds, dotAll, Bool.false_or, Bool.or_eq_true, Bool.and_eq_true, beq_iff_eq,
    getElem?_eq_head?]
  refine or_congr (left_eq_nil hposition).symm ?_
  cases hleft : left text position with
  | nil => simp
  | cons c cs =>
    rw [hleft, List.length_cons] at hlength
    have hlast : position + 1 = text.size ↔ cs = [] := by
      rw [← List.length_eq_zero_iff]
      omega
    simp [hlast]

/-- The end is matched behind the blanks, and in front of a line break only if there are no more. -/
theorem run_lineEnd (text : Array Char) (place : Place) (h : place.position ≤ text.size) :
    runSequence text [.anchor .lineEnd dotAll] place some =
      if left text place.position = [] ∨ left text place.position = ['\n'] then some place
      else none := by
  rw [runSequence, run]
  by_cases hend : Anchor.lineEnd.holds dotAll text place.position = true
  · rw [if_pos hend, if_pos ((holds_lineEnd h).1 hend), runSequence]
  · rw [if_neg hend, if_neg (mt (holds_lineEnd h).2 hend)]

/-- Behind the blanks at a place stands what is left without them. -/
theorem left_blanks (text : Array Char) (position : Nat) :
    left text (position + scan text Text.isBlank position) = Text.dropBlank (left text position) :=
  left_scan text Text.isBlank position

/-- Behind a place the end is matched just if nothing but blanks stands there. -/
theorem run_ending (hposition : place.position ≤ text.size) :
    runSequence text ending place some =
      if Text.dropBlank (left text place.position) = []
      then some (place.on (left text place.position).length) else none := by
  have hsum : scan text Text.isBlank place.position +
      (Text.dropBlank (left text place.position)).length = (left text place.position).length :=
    scan_add_length text Text.isBlank place.position
  have hlength := length_left text place.position
  have hrun := fun k (hk : k ≤ (left text place.position).length) =>
    run_lineEnd text (place.on k) (by rw [Place.position_on]; omega)
  -- No line break is left behind the blanks, as it is a blank itself.
  have hbreak : Text.dropBlank (left text place.position) ≠ ['\n'] := fun h => by
    have hhead := Text.head_dropBlank (left text place.position) '\n' (by rw [h]; rfl)
    exact absurd hhead (by decide +kernel)
  rw [ending, runSequence, blanks, run_most, holds_blank]
  · rw [if_pos (Nat.zero_le _), hrun _ (by omega), Place.position_on, left_blanks]
    simp only [hbreak, or_false]
    split
    · next hnil =>
      rw [hnil, List.length_nil, Nat.add_zero] at hsum
      rw [hsum]
    · rfl
  · -- a line break within the blanks is not the last character of the text
    rw [holds_blank]
    intro hnone k hk
    rw [hrun _ (by omega), Place.position_on, left_blanks] at hnone
    have hne : Text.dropBlank (left text place.position) ≠ [] := fun h => by
      simp [h] at hnone
    have hpos := List.length_pos_iff.2 hne
    have hdrop : ((left text place.position).drop k).length =
        (left text place.position).length - k := List.length_drop
    rw [hrun k (by omega), Place.position_on, left_add, if_neg]
    rintro (h | h)
    · rw [h, List.length_nil] at hdrop
      omega
    · rw [h, List.length_singleton] at hdrop
      omega

/-- Within a text that ends in no blank, something other than blanks follows. -/
theorem not_allBlank_drop {cs behind : List Char} {j : Nat} (hj : j < cs.length)
    (hlast : ∀ c, cs.getLast? = some c → Text.isBlank c = false) :
    Text.dropBlank ((cs ++ behind).drop j) ≠ [] := by
  rw [Ne, Text.dropBlank_eq_nil_iff, List.drop_append_of_le_length (Nat.le_of_lt hj)]
  intro hall
  have hne : cs.drop j ≠ [] := by
    rw [Ne, List.drop_eq_nil_iff]
    omega
  have hmem := List.getLast_mem hne
  have hblank := hall _ (List.mem_append_left behind hmem)
  rw [List.getLast_drop] at hblank
  rw [hlast _ (List.getLast?_eq_some_getLast _)] at hblank
  cases hblank

/-- Behind a place the value is matched up to the blanks at the end. -/
theorem run_value (text : Array Char) (place : Place) (hposition : place.position ≤ text.size) :
    runSequence text valueOn place some = some ⟨text.size, (3, place.position, place.position +
      (Text.dropBlankEnd (left text place.position)).length) :: place.groups⟩ := by
  obtain ⟨⟨behind, hbehind, hsplit⟩, hlast⟩ := Text.dropBlankEnd_split (left text place.position)
  have hlength := length_left text place.position
  have hsum := congrArg List.length hsplit
  rw [List.length_append] at hsum
  rw [valueOn, runSequence, run]
  refine run_least rfl (k := (Text.dropBlankEnd (left text place.position)).length) (by omega) ?_ ?_
  · intro j hj
    rw [run_ending (by simp only [Place.position_on]; omega), if_neg]
    rw [Place.position_on, left_add, hsplit]
    exact not_allBlank_drop hj hlast
  · rw [run_ending (by simp only [Place.position_on]; omega)]
    simp only [Place.on, left_append hsplit, Text.dropBlank_eq_nil_iff.2 hbehind, if_true]
    congr 2
    omega

/-- The blanks in front of the value are matched first. -/
theorem run_valueBetween (text : Array Char) (place : Place)
    (hposition : place.position ≤ text.size) :
    runSequence text (blanks :: valueOn) place some = some ⟨text.size,
      (3, place.position + scan text Text.isBlank place.position,
        place.position + scan text Text.isBlank place.position +
          (Text.trim (left text place.position)).length) :: place.groups⟩ := by
  have hsum := scan_add_length text Text.isBlank place.position
  have hlength := length_left text place.position
  have hvalue := run_value text (place.on (scan text Text.isBlank place.position))
    (by rw [Place.position_on]; omega)
  rw [Place.position_on, left_blanks] at hvalue
  rw [runSequence, blanks, run_most, holds_blank]
  · rw [if_pos (Nat.zero_le _), hvalue]
    rfl
  · rw [holds_blank, hvalue]
    intro h
    cases h

/-! ### The operator -/

/-- An operator is matched where it stands. -/
theorem run_tried {next : Follow} {q : Place}
    (hleft : left text place.position = op.symbol.toList ++ rest) (hwhole : IsWhole op rest)
    (hnext : next (place.on op.symbol.toList.length) = some q) :
    run text operatorPattern place next = some q := by
  rw [operatorPattern, run_words rfl, hleft]
  cases op with
  | equal =>
    -- the operators of two characters are tried first
    cases rest with
    | nil => simp_all [tried, MatchType.symbol]
    | cons c rest =>
      have htilde : '~' ≠ c := fun h => hwhole rfl (by rw [h]; rfl)
      simp_all [tried, MatchType.symbol]
  | _ => simp_all [tried, MatchType.symbol]

/-- The operator that is read is matched, and then the value. -/
theorem run_operator (hposition : place.position ≤ text.size)
    (hop : readOp? (left text place.position) = some (op, rest)) :
    runSequence text operatorOn place some =
      runSequence text (blanks :: valueOn) ⟨place.position + op.symbol.toList.length,
        (2, place.position, place.position + op.symbol.toList.length) :: place.groups⟩ some := by
  obtain ⟨hleft, hwhole⟩ := readOp_eq_some.1 hop
  have hlength := congrArg List.length hleft
  rw [length_left, List.length_append] at hlength
  have hvalue := run_valueBetween text ⟨place.position + op.symbol.toList.length,
    (2, place.position, place.position + op.symbol.toList.length) :: place.groups⟩
    (by show _ + _ ≤ _; omega)
  rw [hvalue, operatorOn, runSequence, run]
  exact run_tried hleft hwhole hvalue

/-- Where no operator is read, none is matched. -/
theorem run_operator_eq_none (hop : readOp? (left text place.position) = none) :
    runSequence text operatorOn place some = none := by
  rw [operatorOn, runSequence, run, operatorPattern, run_words rfl, List.findSome?_eq_none_iff]
  intro w hw
  obtain ⟨op, -, rfl⟩ := List.mem_map.1 hw
  refine if_neg fun hfront => ?_
  obtain ⟨rest, hrest⟩ := List.isPrefixOf_iff_prefix.1 hfront
  obtain ⟨op', rest', hsame, hwhole⟩ := exists_whole op rest
  rw [readOp_eq_some.2 ⟨hrest.symm.trans hsame, hwhole⟩] at hop
  cases hop

/-- What is no operator is not matched. -/
theorem readOp_eq_none {c : Char} {cs : List Char}
    (h : isNameChar c = true ∨ Text.isBlank c = true) : readOp? (c :: cs) = none := by
  cases hop : readOp? (c :: cs) with
  | none => rfl
  | some p =>
    obtain ⟨op, rest⟩ := p
    have hhead := head_symbol op rest c (by rw [← (readOp_eq_some.1 hop).1]; rfl)
    simp [hhead] at h

/-- The blanks in front are matched first, if what follows is not matched where a blank stands. -/
theorem run_blanks {follow : List Pattern}
    (h : ∀ k c cs, left text (place.position + k) = c :: cs → Text.isBlank c = true →
      runSequence text follow (place.on k) some = none) :
    runSequence text (blanks :: follow) place some =
      runSequence text follow (place.on (scan text Text.isBlank place.position)) some := by
  rw [runSequence, blanks, run_most, holds_blank]
  · rw [if_pos (Nat.zero_le _)]
  · rw [holds_blank]
    intro _ k hk
    obtain ⟨c, cs, hleft, hc⟩ := left_of_lt_scan hk
    exact h k c cs hleft hc

/-- The blanks in front of the operator are matched first. -/
theorem run_operatorBetween : runSequence text (blanks :: operatorOn) place some =
    runSequence text operatorOn (place.on (scan text Text.isBlank place.position)) some := by
  refine run_blanks fun k c cs hleft hc => ?_
  exact run_operator_eq_none (by rw [Place.position_on, hleft, readOp_eq_none (.inr hc)])

/-! ### The name -/

/-- The name is matched as far as it goes. -/
theorem run_name : runSequence text nameOn place some =
    if 1 ≤ scan text isNameChar place.position then
      runSequence text (blanks :: operatorOn) ⟨place.position + scan text isNameChar place.position,
        (1, place.position, place.position + scan text isNameChar place.position) ::
          place.groups⟩ some
    else none := by
  rw [nameOn, runSequence, run, run_most, holds_notInName]
  · rfl
  · rw [holds_notInName]
    intro _ k hk
    obtain ⟨c, cs, hleft, hc⟩ := left_of_lt_scan hk
    have hscan : scan text Text.isBlank (place.position + k) = 0 := by
      rw [scan, hleft, List.takeWhile_cons_of_neg (by simp [isBlank_of_isNameChar hc])]
      rfl
    rw [run_operatorBetween]
    exact run_operator_eq_none (by
      rw [Place.position_on, Place.position_on, hscan, Nat.add_zero, hleft,
        readOp_eq_none (.inl hc)])

/-- The blanks in front of the name are matched first. -/
theorem run_nameBetween : runSequence text (blanks :: nameOn) place some =
    runSequence text nameOn (place.on (scan text Text.isBlank place.position)) some := by
  refine run_blanks fun k c cs hleft hc => ?_
  have hscan : scan text isNameChar (place.position + k) = 0 := by
    rw [scan, hleft, List.takeWhile_cons_of_neg]
    · rfl
    · intro h
      rw [isBlank_of_isNameChar h] at hc
      cases hc
  rw [run_name, Place.position_on, hscan]
  rfl

/-! ### The whole text -/

/-- Where the name starts. -/
def nameStart (text : Array Char) : Nat :=
  scan text Text.isBlank 0

/-- Where the name ends. -/
def nameEnd (text : Array Char) : Nat :=
  nameStart text + scan text isNameChar (nameStart text)

/-- Where the operator starts. -/
def operatorStart (text : Array Char) : Nat :=
  nameEnd text + scan text Text.isBlank (nameEnd text)

theorem left_nameStart (text : Array Char) :
    left text (nameStart text) = Text.dropBlank text.toList := by
  rw [nameStart, ← Nat.zero_add (scan text Text.isBlank 0), left_blanks]
  rfl

theorem left_nameEnd (text : Array Char) :
    left text (nameEnd text) = (Text.dropBlank text.toList).dropWhile isNameChar := by
  rw [nameEnd, left_scan, left_nameStart]

theorem left_operatorStart (text : Array Char) : left text (operatorStart text) =
    Text.dropBlank ((Text.dropBlank text.toList).dropWhile isNameChar) := by
  rw [operatorStart, left_blanks, left_nameEnd]

/-- The name is matched between the blanks around it, and then the operator. -/
theorem run_matcherPattern (text : Array Char) : run text matcherPattern ⟨0, []⟩ some =
    if ((Text.dropBlank text.toList).takeWhile isNameChar).isEmpty then none
    else runSequence text operatorOn
      ⟨operatorStart text, [(1, nameStart text, nameEnd text)]⟩ some := by
  have hstart : Anchor.lineStart.holds dotAll text 0 = true := rfl
  have hname : scan text isNameChar (nameStart text) =
      ((Text.dropBlank text.toList).takeWhile isNameChar).length := by
    rw [scan, left_nameStart]
  rw [matcherPattern, run, runSequence, run, if_pos hstart, run_nameBetween, Place.on, Nat.zero_add,
    run_name]
  change (if 1 ≤ scan text isNameChar (nameStart text) then
    runSequence text (blanks :: operatorOn) ⟨nameEnd text, [(1, nameStart text, nameEnd text)]⟩ some
    else none) = _
  rw [run_operatorBetween, hname]
  cases (Text.dropBlank text.toList).takeWhile isNameChar <;> rfl

/-- **The parts of a text are matched**, and the groups of the match are the name, the operator and
the value without the blanks around it. -/
theorem exists_match (text : Array Char) {name : List Char}
    (h : parts? text.toList = some (name, op, rest)) :
    ∃ place, run text matcherPattern ⟨0, []⟩ some = some place ∧
      captured? text place 1 = some name ∧ captured? text place 2 = some op.symbol.toList ∧
      captured? text place 3 = some (Text.trim rest) := by
  simp only [parts?, Option.ite_none_left_eq_some, Option.map_eq_some_iff, Prod.exists,
    Prod.mk.injEq] at h
  obtain ⟨hne, op, rest, hop, rfl, rfl, rfl⟩ := h
  rw [← left_operatorStart] at hop
  have hsplit := (readOp_eq_some.1 hop).1
  have hbehind := left_append hsplit
  have hlength := congrArg List.length hsplit
  rw [length_left, List.length_append] at hlength
  have hpos : 0 < op.symbol.toList.length := by
    obtain ⟨c, cs, hop, -⟩ := symbol_head op
    rw [hop]
    exact Nat.succ_pos _
  have hstart : operatorStart text ≤ text.size := by omega
  have hend : operatorStart text + op.symbol.toList.length ≤ text.size := by omega
  rw [run_matcherPattern, if_neg hne, run_operator hstart hop, run_valueBetween text _ hend]
  refine ⟨_, rfl, ?_, ?_, ?_⟩
  · have hname := take_scan text isNameChar (nameStart text)
    rw [left_nameStart] at hname
    simp [nameEnd, left_nameStart, hname]
  · simp [hsplit]
  · obtain ⟨⟨behind, -, htrim⟩, -⟩ := Text.dropBlankEnd_split (Text.dropBlank rest)
    have hvalue : (Text.dropBlank rest).take (Text.trim rest).length = Text.trim rest :=
      (List.prefix_iff_eq_take.1 ⟨behind, htrim.symm⟩).symm
    rw [captured_self, Nat.add_sub_cancel_left, left_blanks, hbehind, hvalue]

/-- Where no parts are found, nothing is matched. -/
theorem run_eq_none (h : parts? text.toList = none) :
    run text matcherPattern ⟨0, []⟩ some = none := by
  rw [run_matcherPattern]
  split
  · rfl
  · next hne =>
    rw [parts?, if_neg hne, Option.map_eq_none_iff, ← left_operatorStart] at h
    exact run_operator_eq_none h

theorem isQuoted_iff (cs : List Char) :
    isQuoted cs = true ↔ ∃ inner, cs = '"' :: (inner ++ ['"']) := by
  constructor
  · intro h
    simp only [isQuoted, Bool.and_eq_true, decide_eq_true_eq, beq_iff_eq] at h
    obtain ⟨⟨hlength, hhead⟩, hlast⟩ := h
    obtain ⟨behind, rfl⟩ := List.head?_eq_some_iff.1 hhead
    have hne : behind ≠ [] := by
      rintro rfl
      simp at hlength
    rw [List.getLast?_cons_of_ne_nil hne] at hlast
    obtain ⟨inner, rfl⟩ := List.getLast?_eq_some_iff.1 hlast
    exact ⟨inner, rfl⟩
  · rintro ⟨inner, rfl⟩
    have hlast : ('"' :: inner ++ ['"']).getLast? = some '"' := List.getLast?_concat
    rw [List.cons_append] at hlast
    simp [isQuoted, hlast]

/-- What the reader takes behind an operator, by the ends of the text. -/
theorem readValue_eq_ite (cs : List Char) : readValue cs =
    if isQuoted (Text.trim cs) then unescape (Text.trim cs).tail.dropLast else Text.trim cs := by
  rw [readValue_eq]
  cases hunquote : unquote? (Text.trim cs) with
  | none =>
    have hbare : ¬ isQuoted (Text.trim cs) = true := fun h => by
      obtain ⟨inner, hinner⟩ := (isQuoted_iff _).1 h
      rw [unquote_eq_some.2 hinner] at hunquote
      cases hunquote
    rw [if_neg hbare]
    rfl
  | some inner =>
    have hquoted := unquote_eq_some.1 hunquote
    rw [if_pos ((isQuoted_iff _).2 ⟨inner, hquoted⟩), hquoted, List.tail_cons, List.dropLast_concat]
    rfl

theorem ofSymbol_symbol (op : MatchType) :
    MatchType.ofSymbol? (String.ofList op.symbol.toList) = some op := by
  cases op <;> rfl

/-- **The reader takes what the pattern matches.** -/
theorem parseBy_eq (text : String) : parseBy matcherPattern text = parse? text := by
  rw [parseBy, parse_eq_parts]
  cases hparts : parts? text.toList with
  | none =>
    rw [run_eq_none (by rwa [List.toList_toArray])]
    rfl
  | some p =>
    obtain ⟨name, op, rest⟩ := p
    obtain ⟨place, hrun, hname, hop, hvalue⟩ := exists_match text.toList.toArray
      (by rwa [List.toList_toArray])
    simp only [hrun, hname, hop, hvalue, ofSymbol_symbol, Option.bind_eq_bind, Option.bind_some,
      ← readValue_eq_ite]
    rfl

theorem parseValue_eq_ok {text : String} {m : Matcher} :
    parseValue (.text text) = .ok m ↔ parse? text = some m := by
  have hparse : (Value.text text).asText?.bind parse? = parse? text := rfl
  rw [parseValue, hparse]
  cases parse? text <;> simp

/-- What is said of a text that is no matcher. -/
theorem parseValue_eq_error {text : String} (h : parse? text = none) :
    ∃ f, parseValue (.text text) = .error f ∧ f.category = .malformedMatcher := by
  have hparse : (Value.text text).asText?.bind parse? = none := h
  rw [parseValue, hparse]
  exact ⟨_, rfl, rfl⟩

/-- **The texts of matchers** are a name between blanks, an operator and anything behind it, where
the operator has two characters whenever it can. The value is what stands behind it without the
blanks around it, decoded between quotes; all other texts are refused. The parts are those that a
pattern finds. -/
theorem text_grammar :
    (∀ (text : String) (m : Matcher), parseValue (.text text) = .ok m ↔ ∃ rest cs,
      Spells text.toList m.name.toList m.op rest ∧ IsWhole m.op rest ∧ Text.Trimmed rest cs ∧
        IsValue cs m.value.toList) ∧
    (∀ text : String, (∃ m, parseValue (.text text) = .ok m) ↔
      ∃ name op rest, Spells text.toList name op rest) ∧
    (∀ text : String, (∀ name op rest, ¬ Spells text.toList name op rest) →
      ∃ f, parseValue (.text text) = .error f ∧ f.category = .malformedMatcher) ∧
    ∃ p, Pattern.read "(?s)^\\s*([^=!~\\s\"]+)\\s*(!~|!=|=~|=)\\s*(.*?)\\s*$" = .ok p ∧
      ∀ text : String, parseBy p text = parse? text := by
  refine ⟨fun text m => ?_, fun text => ?_, fun text h => ?_, matcherPattern, read_matcherPattern,
    parseBy_eq⟩
  · rw [parseValue_eq_ok, parse_eq_some]
  · simp only [parseValue_eq_ok, parse_isSome_iff]
  · refine parseValue_eq_error ?_
    cases hparse : parse? text with
    | none => rfl
    | some m =>
      obtain ⟨name, op, rest, hspells⟩ := parse_isSome_iff.1 ⟨m, hparse⟩
      exact absurd hspells (h name op rest)

/-- An operator of two characters with line breaks around it, a value with an escape; and a name
with half an operator behind it. -/
theorem text_grammar_lines :
    parseValue (.text " team\n!~\t\"a\\nb\" \n") = .ok ⟨"team", .notRegex, "a\nb"⟩ ∧
      ∃ f, parseValue (.text "team ! a") = .error f ∧ f.category = .malformedMatcher := by
  obtain ⟨hok, hsome, herror, -⟩ := text_grammar
  have hspelled : parse? " team\n!~\t\"a\\nb\" \n" = some ⟨"team", .notRegex, "a\nb"⟩ := by
    decide +kernel
  have hnone : parse? "team ! a" = none := by decide +kernel
  refine ⟨(hok _ _).2 (parse_eq_some.1 hspelled), herror _ fun name op rest hspells => ?_⟩
  obtain ⟨m, hm⟩ := (hsome _).2 ⟨name, op, rest, hspells⟩
  rw [parseValue_eq_ok, hnone] at hm
  cases hm

end Matcher

end MonitoringConfig
