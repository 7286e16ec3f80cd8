import MonitoringConfig.Proofs.Promql.Render
/-!
# Reading the modifiers of an operation

Behind an operator stand the word for a truth value, the labels to match on or to ignore, and the
side with many series. A parenthesis behind that side's word opens the labels that are taken over,
whatever stands in it, so that an operand in parentheses takes the place of labels that are missing.

* `readModifiers?` : the modifiers that stand behind an operator, and the operand.
* `readLabels_labelsText` : lists of labels are read back.
* `readSides_iff` : the side with many series is read back just if its labels are names and, where
  there are none, the operand does not open a parenthesis.
* `Expr.opens_render` : the operands that open one are the operations.
* `Expr.readModifiers_grouped` : **when the modifiers and the right operand of an operation are read back
  from its text.**
-/

namespace MonitoringConfig.Promql

/-! ### Reading -/

/-- Whether a character separates words. -/
def isSpace (c : Char) : Bool :=
  [' ', '\t', '\n', '\r'].contains c

/-- A text without the spaces in front. -/
def skipSpace (cs : List Char) : List Char :=
  cs.dropWhile isSpace

/-- A text without the spaces at its ends. -/
def trimSpace (cs : List Char) : List Char :=
  (skipSpace (skipSpace cs).reverse).reverse

/-- The next word of a text, and what stands behind it. -/
def nextWord (cs : List Char) : List Char × List Char :=
  ((skipSpace cs).takeWhile isNameChar, (skipSpace cs).dropWhile isNameChar)

/-- Whether the next mark of a text is an opening parenthesis. -/
def opens (cs : List Char) : Bool :=
  (skipSpace cs).head? == some '('

/-- The names between commas. -/
def readNames? (cs : List Char) : Option (List String) :=
  if (skipSpace cs).isEmpty then some []
  else
    let names := (cs.splitOn ',').map fun part => String.ofList (trimSpace part)
    if names.all isName then some names else none

/-- A list of labels in parentheses, and what stands behind it. -/
def readLabels? (cs : List Char) : Option (List String × List Char) :=
  match skipSpace cs with
  | '(' :: cs =>
    match cs.dropWhile (· != ')') with
    | ')' :: rest => (readNames? (cs.takeWhile (· != ')'))).map fun names => (names, rest)
    | _ => none
  | _ => none

/-- Whether a comparison gives a truth value, and what stands behind that word. -/
def readTruth (cs : List Char) : Bool × List Char :=
  if (nextWord cs).1 = "bool".toList then (true, (nextWord cs).2) else (false, cs)

/-- The labels to match on and those to ignore, and what stands behind them. -/
def readMatching? (cs : List Char) : Option ((List String × List String) × List Char) :=
  let (word, behind) := nextWord cs
  if word = "on".toList then (readLabels? behind).map fun (ls, rest) => ((ls, []), rest)
  else if word = "ignoring".toList then (readLabels? behind).map fun (ls, rest) => (([], ls), rest)
  else some (([], []), cs)

/-- The labels of the side with many series: a parenthesis opens them, and otherwise there are
none. -/
def readGrouping? (cs : List Char) : Option (List String × List Char) :=
  if opens cs then readLabels? cs else some ([], cs)

/-- The labels of the left side and of the right side, where one has many series, and what stands
behind them. -/
def readSides? (cs : List Char) :
    Option ((Option (List String) × Option (List String)) × List Char) :=
  let (word, behind) := nextWord cs
  if word = "group_left".toList then
    (readGrouping? behind).map fun (ls, rest) => ((some ls, none), rest)
  else if word = "group_right".toList then
    (readGrouping? behind).map fun (ls, rest) => ((none, some ls), rest)
  else some ((none, none), cs)

/-- The modifiers behind an operator, and the operand behind them. -/
def readModifiers? (cs : List Char) : Option (Modifiers × List Char) := do
  let (truth, cs) := readTruth cs
  let ((on, ignoring), cs) ← readMatching? cs
  let ((left, right), rest) ← readSides? cs
  some (⟨on, ignoring, left, right, truth⟩, rest)

/-! ### Words -/

theorem isSpace_of_isNameChar {c : Char} (h : isNameChar c = true) : isSpace c = false := by
  rw [Bool.eq_false_iff]
  intro hspace
  simp only [isSpace, List.contains_iff_mem, List.mem_cons, List.not_mem_nil, or_false] at hspace
  rcases hspace with rfl | rfl | rfl | rfl <;> exact absurd h (by decide)

@[simp] theorem skipSpace_blank (cs : List Char) : skipSpace (' ' :: cs) = skipSpace cs := rfl

@[simp] theorem nextWord_blank (cs : List Char) : nextWord (' ' :: cs) = nextWord cs := rfl

@[simp] theorem opens_blank (cs : List Char) : opens (' ' :: cs) = opens cs := rfl

theorem skipSpace_of_head {cs : List Char} (h : ∀ c ∈ cs.head?, isSpace c = false) :
    skipSpace cs = cs := by
  cases cs with
  | nil => rfl
  | cons c cs => simp [skipSpace, h c rfl]

theorem skipSpace_of_word {cs : List Char} (h : ∀ c ∈ cs, isNameChar c = true) :
    skipSpace cs = cs :=
  skipSpace_of_head fun c hc => isSpace_of_isNameChar (h c (List.mem_of_mem_head? hc))

theorem trimSpace_of_word {cs : List Char} (h : ∀ c ∈ cs, isNameChar c = true) :
    trimSpace cs = cs := by
  have hreverse : ∀ c ∈ cs.reverse, isNameChar c = true := fun c hc => h c (List.mem_reverse.1 hc)
  rw [trimSpace, skipSpace_of_word h, skipSpace_of_word hreverse, List.reverse_reverse]

theorem head_of_isName {s : String} (h : isName s = true) :
    ∃ c cs, s.toList = c :: cs ∧ isNameChar c = true := by
  have hchars := isNameChar_of_isName h
  cases hs : s.toList with
  | nil =>
    rw [isName, hs] at h
    cases h
  | cons c cs => exact ⟨c, cs, rfl, hchars c (by rw [hs]; exact List.mem_cons_self)⟩

theorem skipSpace_length (cs : List Char) : (skipSpace cs).length ≤ cs.length :=
  (List.dropWhile_sublist _).length_le

/-- A word is read up to what cannot stand in it. -/
theorem nextWord_append {word r : List Char} (hne : word ≠ []) (hword : word.all isNameChar = true)
    (hr : Stops isNameChar r) : nextWord (word ++ r) = (word, r) := by
  have hall := List.all_eq_true.1 hword
  have hskip : skipSpace (word ++ r) = word ++ r := by
    refine skipSpace_of_head fun c hc => isSpace_of_isNameChar (hall c ?_)
    rw [List.head?_append_of_ne_nil _ hne] at hc
    exact List.mem_of_mem_head? hc
  obtain ⟨htake, hdrop⟩ := takeWhile_append_of_stops hall hr
  rw [nextWord, hskip, htake, hdrop]

theorem opens_append (cs r : List Char) (hr : opens r = false) : opens (cs ++ r) = opens cs := by
  induction cs with
  | nil => exact hr
  | cons c cs ih =>
    by_cases hc : isSpace c = true
    · have hdrop : ∀ ds, opens (c :: ds) = opens ds := fun ds => by simp [opens, skipSpace, hc]
      rw [List.cons_append, hdrop, hdrop, ih]
    · simp [opens, skipSpace, hc]

/-! ### Lists of labels -/

theorem readNames_isName {cs : List Char} {ls : List String} (h : readNames? cs = some ls) :
    ∀ l ∈ ls, isName l = true := by
  simp only [readNames?] at h
  split at h
  · cases h
    simp
  · split at h
    · next hall =>
      cases h
      exact List.all_eq_true.1 hall
    · cases h

/-- What is read as labels are names, in parentheses that are taken away with them. -/
theorem readLabels_spec {cs rest : List Char} {ls : List String}
    (h : readLabels? cs = some (ls, rest)) :
    (∀ l ∈ ls, isName l = true) ∧ rest.length < cs.length := by
  rw [readLabels?] at h
  split at h
  · next cs' hskip =>
    split at h
    · next rest' hclose =>
      obtain ⟨names, hnames, heq⟩ := Option.map_eq_some_iff.1 h
      cases heq
      have hskipped := skipSpace_length cs
      have hdropped := (List.dropWhile_sublist (· != ')') (l := cs')).length_le
      rw [hclose] at hdropped
      rw [hskip] at hskipped
      simp only [List.length_cons] at hskipped hdropped
      exact ⟨readNames_isName hnames, by omega⟩
    · cases h
  · cases h

/-- A row with commas has no other characters than its parts. -/
theorem notMem_intercalate {c : Char} (hc : c ≠ ',') {parts : List (List Char)}
    (h : ∀ part ∈ parts, c ∉ part) : c ∉ List.intercalate [','] parts := by
  induction parts with
  | nil => simp [List.intercalate]
  | cons part parts ih =>
    cases parts with
    | nil => simpa [List.intercalate] using h part List.mem_cons_self
    | cons part' parts =>
      rw [List.intercalate_cons_cons]
      simp only [List.mem_append, List.mem_singleton, not_or]
      exact ⟨⟨h part List.mem_cons_self, hc⟩, ih fun q hq => h q (List.mem_cons_of_mem _ hq)⟩

theorem readNames_intercalate {ls : List String} (hne : ls ≠ [])
    (hls : ∀ l ∈ ls, isName l = true) :
    readNames? (List.intercalate [','] (ls.map String.toList)) = some ls := by
  have hsplit : (List.intercalate [','] (ls.map String.toList)).splitOn ',' =
      ls.map String.toList := by
    refine List.splitOn_intercalate ',' (fun part hpart hcomma => ?_) (by simpa using hne)
    obtain ⟨l, hl, rfl⟩ := List.mem_map.1 hpart
    exact absurd (isNameChar_of_isName (hls l hl) ',' hcomma) (by decide)
  have hnames : ((ls.map String.toList).map fun part => String.ofList (trimSpace part)) = ls := by
    have htrim : ∀ l ∈ ls, String.ofList (trimSpace l.toList) = l := by
      intro l hl
      rw [trimSpace_of_word (isNameChar_of_isName (hls l hl)), String.ofList_toList]
    rw [List.map_map]
    exact (List.map_congr_left htrim).trans (List.map_id' ls)
  have hstart : (skipSpace (List.intercalate [','] (ls.map String.toList))).isEmpty = false := by
    obtain ⟨l, ls, rfl⟩ := List.exists_cons_of_ne_nil hne
    obtain ⟨c, cs, hl, hc⟩ := head_of_isName (hls l List.mem_cons_self)
    have htext := intercalate_append l.toList (ls.map String.toList) []
    rw [List.append_nil, hl] at htext
    rw [List.map_cons, hl, htext, List.cons_append,
      skipSpace_of_head (by simpa using isSpace_of_isNameChar hc)]
    rfl
  rw [readNames?, hstart]
  simp only [Bool.false_eq_true, if_false, hsplit, hnames]
  exact if_pos (List.all_eq_true.2 hls)

/-- **A list of labels is read back from its text.** -/
theorem readLabels_labelsText {ls : List String} (hne : ls ≠ []) (hls : ∀ l ∈ ls, isName l = true)
    (r : List Char) : readLabels? ((labelsText ls).toList ++ r) = some (ls, r) := by
  have htext : (labelsText ls).toList ++ r =
      '(' :: (List.intercalate [','] (ls.map String.toList) ++ ')' :: r) := by
    simp [labelsText, String.toList_intercalate]
  have hbody : ∀ c ∈ List.intercalate [','] (ls.map String.toList), (c != ')') = true := by
    intro c hc
    rw [bne_iff_ne]
    rintro rfl
    refine notMem_intercalate (by decide) (fun part hpart hclose => ?_) hc
    obtain ⟨l, hl, rfl⟩ := List.mem_map.1 hpart
    exact absurd (isNameChar_of_isName (hls l hl) ')' hclose) (by decide)
  have hparen : ∀ cs, skipSpace ('(' :: cs) = '(' :: cs := fun cs =>
    skipSpace_of_head (by simp [isSpace])
  rw [htext, readLabels?, hparen]
  simp only [(takeWhile_append_of_stops hbody (r := ')' :: r) ((stops_cons ..).2 rfl)).1,
    (takeWhile_append_of_stops hbody (r := ')' :: r) ((stops_cons ..).2 rfl)).2,
    readNames_intercalate hne hls]
  rfl

@[simp] theorem readLabels_blank (cs : List Char) : readLabels? (' ' :: cs) = readLabels? cs := by
  rw [readLabels?, readLabels?, skipSpace_blank]

/-- The labels of the side with many series, and the text behind them, are read back just if the
labels are names and, where there are none, the text does not open a parenthesis. -/
theorem readGrouping_iff (ls : List String) (r : List Char) :
    readGrouping? (' ' :: if ls = [] then r else (labelsText ls).toList ++ ' ' :: r) =
        some (ls, ' ' :: r) ↔
      (∀ l ∈ ls, isName l = true) ∧ (ls = [] → opens r = false) := by
  rw [readGrouping?]
  by_cases hls : ls = []
  · subst hls
    simp only [if_true, opens_blank, List.not_mem_nil, false_implies, implies_true, true_and,
      forall_const]
    by_cases hopens : opens r = true
    · -- The parenthesis is taken away, and so what is left is shorter than the operand.
      simp only [hopens, if_true, Bool.true_eq_false, iff_false]
      intro hread
      have hshorter := (readLabels_spec hread).2
      exact absurd hshorter (lt_irrefl _)
    · simp [hopens]
  · have hopens : opens (' ' :: ((labelsText ls).toList ++ ' ' :: r)) = true := by
      simp [labelsText, opens, skipSpace, isSpace]
    rw [if_neg hls, hopens, if_pos rfl, readLabels_blank]
    constructor
    · intro hread
      exact ⟨(readLabels_spec hread).1, fun h => absurd h hls⟩
    · rintro ⟨hnames, -⟩
      exact readLabels_labelsText hls hnames _

/-! ### Modifiers -/

namespace Modifiers

variable {m : Modifiers} {r : List Char}

/-- The labels to match on or to ignore. -/
def matchingLabels (m : Modifiers) : List String :=
  m.on ++ m.ignoring

/-- The labels that are taken over from the side with one series. -/
def groupLabels (m : Modifiers) : List String :=
  m.groupLeft.getD [] ++ m.groupRight.getD []

/-- **The side with many series is read back** just if its labels are names and, where there are
none, the operand does not open a parenthesis. -/
theorem readSides_iff (hone : m.groupLeft = none ∨ m.groupRight = none)
    (hgroup : (m.groupLeft.isSome || m.groupRight.isSome) = true) :
    readSides? (' ' :: m.sides r) = some ((m.groupLeft, m.groupRight), ' ' :: r) ↔
      (∀ l ∈ m.groupLabels, isName l = true) ∧ (m.groupLabels = [] → opens r = false) := by
  have hword : ∀ keyword : List Char, keyword ≠ [] → keyword.all isNameChar = true → ∀ ls,
      nextWord (' ' :: grouping keyword ls r) =
        (keyword, ' ' :: if ls = [] then r else (labelsText ls).toList ++ ' ' :: r) :=
    fun keyword hne hkeyword ls => by
      rw [nextWord_blank]
      exact nextWord_append hne hkeyword ((stops_cons ..).2 rfl)
  obtain ⟨ls, hl, hr, hs⟩ | ⟨ls, hl, hr, hs⟩ | ⟨hl, hr, hs⟩ := sides_cases hone
  · have hlabels : m.groupLabels = ls := by simp [groupLabels, hl, hr]
    rw [hs, hl, hr, hlabels, readSides?, hword _ (by decide) (by decide), ← readGrouping_iff]
    simp [Option.map_eq_some_iff]
  · have hlabels : m.groupLabels = ls := by simp [groupLabels, hl, hr]
    rw [hs, hl, hr, hlabels, readSides?, hword _ (by decide) (by decide), ← readGrouping_iff]
    simp [Option.map_eq_some_iff]
  · simp [hl, hr] at hgroup

/-- The labels to match on or to ignore stand behind their keyword. -/
theorem matching_cases (hone : m.on = [] ∨ m.ignoring = []) (hsome : m.matchingLabels ≠ []) :
    ∃ keyword, (keyword = "on".toList ∧ m.on = m.matchingLabels ∧ m.ignoring = [] ∨
        keyword = "ignoring".toList ∧ m.on = [] ∧ m.ignoring = m.matchingLabels) ∧
      ∀ r, nextWord (m.matching r) =
        (keyword, ' ' :: ((labelsText m.matchingLabels).toList ++ ' ' :: r)) := by
  have hword : ∀ keyword : List Char, keyword ≠ [] → keyword.all isNameChar = true → ∀ s,
      nextWord (keyword ++ ' ' :: s) = (keyword, ' ' :: s) :=
    fun keyword hne hkeyword s => nextWord_append hne hkeyword ((stops_cons ..).2 rfl)
  simp only [matchingLabels] at hsome ⊢
  obtain ⟨hon, hignoring⟩ | ⟨hon, hignoring⟩ | ⟨hon, hignoring⟩ := two_lists hone
  · refine ⟨"on".toList, .inl ⟨rfl, by simp [hignoring], hignoring⟩, fun r => ?_⟩
    rw [matching, clause_left hon, hignoring, List.append_nil]
    exact hword "on".toList (by decide) (by decide) _
  · refine ⟨"ignoring".toList, .inr ⟨rfl, hon, by simp [hon]⟩, fun r => ?_⟩
    rw [matching, hon, clause_right hignoring, List.nil_append]
    exact hword "ignoring".toList (by decide) (by decide) _
  · simp [hon, hignoring] at hsome

/-- The labels to match on or to ignore are read back if they are names. -/
theorem readMatching_matching (hone : m.on = [] ∨ m.ignoring = [])
    (hsome : m.matchingLabels ≠ []) (hnames : ∀ l ∈ m.matchingLabels, isName l = true)
    (r : List Char) :
    readMatching? (' ' :: m.matching r) = some ((m.on, m.ignoring), ' ' :: r) := by
  obtain ⟨keyword, hkeyword, hword⟩ := matching_cases hone hsome
  rw [readMatching?, nextWord_blank, hword]
  obtain ⟨rfl, hon, hignoring⟩ | ⟨rfl, hon, hignoring⟩ := hkeyword
  · simp [readLabels_labelsText hsome hnames, hon, hignoring]
  · simp [readLabels_labelsText hsome hnames, hon, hignoring]

/-- The word for a truth value is told from the labels behind it. -/
theorem readTruth_truth (hone : m.on = [] ∨ m.ignoring = []) (hsome : m.matchingLabels ≠ [])
    (r : List Char) :
    readTruth (' ' :: m.truth (m.matching r)) = (m.returnBool, ' ' :: m.matching r) := by
  obtain ⟨keyword, hkeyword, hword⟩ := matching_cases hone hsome
  have hne : keyword ≠ "bool".toList := by
    obtain ⟨rfl, -⟩ | ⟨rfl, -⟩ := hkeyword <;> decide
  cases hbool : m.returnBool with
  | true =>
    have htext : m.truth (m.matching r) = "bool".toList ++ ' ' :: m.matching r := by
      simp [truth, hbool]
    have hnext : nextWord ("bool".toList ++ ' ' :: m.matching r) = ("bool".toList, ' ' :: m.matching r) :=
      nextWord_append (by decide) (by decide) ((stops_cons ..).2 rfl)
    rw [readTruth, nextWord_blank, htext, hnext, if_pos rfl]
  | false =>
    have htext : m.truth (m.matching r) = m.matching r := by simp [truth, hbool]
    rw [readTruth, nextWord_blank, htext, hword, if_neg hne]

/-- Modifiers that agree, with a side that has many series, have labels to match on or to ignore. -/
theorem grouped_spec {op : Operator} (h : m.fault? op = none)
    (hgroup : (m.groupLeft.isSome || m.groupRight.isSome) = true) :
    (m.on = [] ∨ m.ignoring = []) ∧ m.matchingLabels ≠ [] ∧
      (m.groupLeft = none ∨ m.groupRight = none) := by
  simp only [fault?] at h
  split at h
  · cases h
  · next hlists =>
    split at h
    · cases h
    · next hsides =>
      split at h
      · cases h
      · next hlabels =>
        simp only [hgroup, Bool.true_and, Bool.and_eq_true, List.isEmpty_iff, not_and] at hlabels
        refine ⟨?_, ?_, ?_⟩
        · by_cases hon : m.on = []
          · exact .inl hon
          · exact .inr (by simpa [hon] using hlists)
        · rw [matchingLabels, ne_eq, List.append_eq_nil_iff]
          exact fun hnone => hlabels hnone.1 hnone.2
        · cases hl : m.groupLeft with
          | none => exact .inl rfl
          | some ls => exact .inr (by simpa [hl] using hsides)

/-- Only names are read as labels. -/
theorem names_of_readModifiers {cs rest : List Char} (h : readModifiers? cs = some (m, rest)) :
    ∀ l ∈ m.matchingLabels, isName l = true := by
  simp only [readModifiers?, Option.bind_eq_bind, Option.bind_eq_some_iff] at h
  obtain ⟨⟨⟨on, ignoring⟩, cs'⟩, hmatching, ⟨⟨left, right⟩, rest'⟩, -, heq⟩ := h
  obtain ⟨rfl, rfl⟩ := Prod.mk.inj (Option.some.inj heq)
  simp only [readMatching?] at hmatching
  split at hmatching
  · obtain ⟨⟨ls, _⟩, hread, hsame⟩ := Option.map_eq_some_iff.1 hmatching
    cases hsame
    simpa [matchingLabels] using (readLabels_spec hread).1
  · split at hmatching
    · obtain ⟨⟨ls, _⟩, hread, hsame⟩ := Option.map_eq_some_iff.1 hmatching
      cases hsame
      simpa [matchingLabels] using (readLabels_spec hread).1
    · cases hmatching
      simp [matchingLabels]

/-- **The modifiers behind an operator are read back**, with the operand left over, just if all
labels are names and, where the side with many series has none, the operand does not open a
parenthesis. -/
theorem readModifiers_iff {op : Operator} (h : m.fault? op = none)
    (hgroup : (m.groupLeft.isSome || m.groupRight.isSome) = true) :
    readModifiers? (' ' :: m.truth (m.matching (m.sides r))) = some (m, ' ' :: r) ↔
      (∀ l ∈ m.matchingLabels ++ m.groupLabels, isName l = true) ∧
        (m.groupLabels = [] → opens r = false) := by
  obtain ⟨hone, hsome, hsides⟩ := grouped_spec h hgroup
  have hread : (∀ l ∈ m.matchingLabels, isName l = true) →
      (readModifiers? (' ' :: m.truth (m.matching (m.sides r))) = some (m, ' ' :: r) ↔
        readSides? (' ' :: m.sides r) = some ((m.groupLeft, m.groupRight), ' ' :: r)) := by
    intro hnames
    simp only [readModifiers?, readTruth_truth hone hsome,
      readMatching_matching hone hsome hnames, Option.bind_eq_bind, Option.bind_some]
    cases readSides? (' ' :: m.sides r) with
    | none => simp
    | some result =>
      obtain ⟨⟨left, right⟩, rest⟩ := result
      obtain ⟨on, ignoring, groupLeft, groupRight, returnBool⟩ := m
      simp
  rw [List.forall_mem_append]
  constructor
  · intro hmodifiers
    have hnames := names_of_readModifiers hmodifiers
    obtain ⟨hgroups, hopens⟩ := (readSides_iff hsides hgroup).1 ((hread hnames).1 hmodifiers)
    exact ⟨⟨hnames, hgroups⟩, hopens⟩
  · rintro ⟨⟨hnames, hgroups⟩, hopens⟩
    exact (hread hnames).2 ((readSides_iff hsides hgroup).2 ⟨hgroups, hopens⟩)

end Modifiers

/-! ### Operands -/

/-- Whether a text starts with a mark that is no opening parenthesis. -/
def StartsBare (text : List Char) : Prop :=
  ∃ c cs, text = c :: cs ∧ isSpace c = false ∧ c ≠ '('

theorem opens_of_startsBare {text : List Char} (h : StartsBare text) : opens text = false := by
  obtain ⟨c, cs, rfl, hspace, hparen⟩ := h
  rw [opens, skipSpace_of_head (by simpa using hspace)]
  simpa using hparen

theorem startsBare_nameChar {c : Char} (h : isNameChar c = true) (cs : List Char) :
    StartsBare (c :: cs) := by
  refine ⟨c, cs, rfl, isSpace_of_isNameChar h, ?_⟩
  rintro rfl
  exact absurd h (by decide)

theorem startsBare_name {name : String} (h : isName name = true) (r : List Char) :
    StartsBare (name.toList ++ r) := by
  obtain ⟨c, cs, htext, hc⟩ := head_of_isName h
  rw [htext]
  exact startsBare_nameChar hc (cs ++ r)

theorem startsBare_selector {metric : String} {matchers : List Matcher}
    (h : isSelector metric matchers = true) (r : List Char) :
    StartsBare ((selectorText metric matchers).toList ++ r) := by
  simp only [isSelector, Bool.and_eq_true, Bool.or_eq_true, String.isEmpty_iff,
    Bool.not_eq_true'] at h
  cases matchers with
  | nil =>
    obtain ⟨hmetric | ⟨-, hempty⟩, -⟩ := h
    · exact startsBare_name hmetric r
    · cases hempty
  | cons m ms =>
    rw [selectorText_append]
    obtain ⟨hmetric | ⟨rfl, -⟩, -⟩ := h
    · exact startsBare_name hmetric _
    · exact ⟨'\x7b', _, rfl, by decide, by decide⟩

theorem startsBare_number {s : Scalar} (h : s.isExact = true) (r : List Char) :
    StartsBare (s.text.toList ++ r) := by
  obtain ⟨hcanonical, hnan, -⟩ := Scalar.isExact_spec h
  obtain ⟨⟨c, cs, htext, hc⟩, -⟩ := formatNumber_chars hcanonical hnan
  rw [Scalar.text, htext]
  obtain hdigit | rfl | rfl := hc
  · exact startsBare_nameChar (by simp [isNameChar, Char.isAlphanum, hdigit]) (cs ++ r)
  · exact ⟨'-', _, rfl, by decide, by decide⟩
  · exact ⟨'+', _, rfl, by decide, by decide⟩

namespace Expr

/-- Only an operation has parentheses around it. -/
theorem startsBare_render {e : Expr} (h : e.isLegal = true) (hkind : e.kind ≠ .binary)
    (r : List Char) : StartsBare (e.render.toList ++ r) := by
  cases e with
  | raw _ => cases h
  | unwritable _ _ => cases h
  | binary left op right m => exact absurd rfl hkind
  | scalar s => exact startsBare_number h r
  | string value =>
    rw [render_string]
    exact ⟨'"', _, rfl, by decide, by decide⟩
  | vector metric matchers offset =>
    simp only [isLegal, Bool.and_eq_true] at h
    rw [render_vector]
    exact startsBare_selector h.1.1 _
  | range metric window matchers offset =>
    simp only [isLegal, Bool.and_eq_true] at h
    rw [render_range]
    exact startsBare_selector h.1.1.1 _
  | call name args =>
    simp only [isLegal, Bool.and_eq_true] at h
    rw [render_call]
    exact startsBare_name h.1.1.1 _
  | aggregation op body byLabels withoutLabels param =>
    simp only [isLegal, Bool.and_eq_true] at h
    have hnames : ∀ name ∈ aggregators, isName name = true := by decide
    rw [render_aggregation]
    exact startsBare_name (hnames op (List.contains_iff_mem.1 h.1.1.1.1)) _

/-- **The operands that open a parenthesis are the operations.** -/
theorem opens_render {e : Expr} (h : e.isLegal = true) :
    opens e.render.toList = true ↔ e.kind = .binary := by
  by_cases hkind : e.kind = .binary
  · refine iff_of_true ?_ hkind
    cases e with
    | binary left op right m =>
      have htext := render_binary left op right m []
      rw [List.append_nil] at htext
      rw [htext]
      rfl
    | unwritable _ _ => cases h
    | _ => cases hkind
  · have hbare := startsBare_render h hkind []
    rw [List.append_nil] at hbare
    exact iff_of_false (by rw [opens_of_startsBare hbare]; decide) hkind

/-- **Reading a grouped operation.** Behind the operator stand the modifiers and the right operand.
They are read back just if all labels are names and, where no labels are taken over, the right
operand does not open a parenthesis; of the legal operands only the operations do. -/
theorem readModifiers_grouped (left right : Expr) {op : Operator} {m : Modifiers}
    (h : m.fault? op = none) (hgroup : (m.groupLeft.isSome || m.groupRight.isSome) = true) :
    (∃ behind, (binary left op right m).render.toList =
        '(' :: left.render.toList ++ ' ' :: op.symbol.toList ++ behind ∧
      (readModifiers? behind = some (m, ' ' :: right.render.toList ++ [')']) ↔
        (∀ l ∈ m.matchingLabels ++ m.groupLabels, isName l = true) ∧
          (m.groupLabels = [] → opens right.render.toList = false))) ∧
      (right.isLegal = true → (opens right.render.toList = true ↔ right.kind = .binary)) := by
  refine ⟨⟨' ' :: m.truth (m.matching (m.sides (right.render.toList ++ [')']))), ?_, ?_⟩,
    opens_render⟩
  · have htext := render_binary left op right m []
    rw [Modifiers.words_append] at htext
    simpa using htext
  · rw [List.cons_append, Modifiers.readModifiers_iff h hgroup, opens_append _ [')'] rfl]

/-- Where a label is taken over, the right operand may be an operation. -/
theorem readModifiers_grouped_operation :
    ∃ behind,
      (binary (vector "a" [] none) .mul
          (binary (vector "b" [] none) .add (vector "c" [] none) {})
          { on := ["x"], groupLeft := some ["team"] }).render.toList = "(a *".toList ++ behind ∧
        readModifiers? behind =
          some ({ on := ["x"], groupLeft := some ["team"] }, " (b + c))".toList) := by
  have hfault : ({ on := ["x"], groupLeft := some ["team"] } : Modifiers).fault? .mul = none := by
    decide
  obtain ⟨⟨behind, htext, hread⟩, -⟩ := readModifiers_grouped (vector "a" [] none)
    (binary (vector "b" [] none) .add (vector "c" [] none) {}) hfault rfl
  exact ⟨behind, htext, hread.2 ⟨by decide, fun hnone => absurd hnone (by decide)⟩⟩

/-- An operation takes the place of the labels that are missing, and is not read as any. -/
theorem operation_takenForLabels :
    (binary (vector "a" [] none) .mul
        (binary (vector "b" [] none) .add (vector "c" [] none) {})
        { on := ["x"], groupLeft := some [] }).render = "(a * on (x) group_left (b + c))" ∧
      ({ on := ["x"], groupLeft := some [] } : Modifiers).fault? .mul = none ∧
      readModifiers? " on (x) group_left (b + c))".toList = none := by
  decide +kernel

end Expr

end MonitoringConfig.Promql
