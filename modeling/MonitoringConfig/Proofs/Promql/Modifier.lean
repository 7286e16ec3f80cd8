import MonitoringConfig.Proofs.Promql.Token
/-!
# Modifiers in expression texts

Offsets, groupings and the words behind an operator are left out where they are not set, so that
they have to be told from what stands in their place.

* `offsetText_inj` : an offset differs from an operator.
* `aggregationModifier_inj` : the labels of an aggregation.
* `Modifiers.words_inj` : the words behind an operator differ from the operand behind them, which
  starts with no such word and with no list of labels.
-/

namespace MonitoringConfig.Promql

/-! ### What closes an expression -/

/-- What can stand behind an expression: nothing, a comma, a closing parenthesis or an operator. -/
def Closes (r : List Char) : Prop :=
  r = [] ∨ (∃ cs, r = ',' :: cs) ∨ (∃ cs, r = ')' :: cs) ∨
    ∃ (op : Operator) (cs : List Char), r = ' ' :: (op.symbol.toList ++ ' ' :: cs)

theorem closes_comma (cs : List Char) : Closes (',' :: cs) := .inr (.inl ⟨cs, rfl⟩)

theorem closes_paren (cs : List Char) : Closes (')' :: cs) := .inr (.inr (.inl ⟨cs, rfl⟩))

theorem closes_operator (op : Operator) (cs : List Char) :
    Closes (' ' :: (op.symbol.toList ++ ' ' :: cs)) :=
  .inr (.inr (.inr ⟨op, cs, rfl⟩))

/-- An expression ends with the characters of its last part. -/
theorem Closes.stops {p : Char → Bool} {r : List Char} (h : Closes r)
    (hp : p ',' = false ∧ p ')' = false ∧ p ' ' = false) : Stops p r := by
  obtain rfl | ⟨cs, rfl⟩ | ⟨cs, rfl⟩ | ⟨op, cs, rfl⟩ := h
  · exact stops_nil p
  · exact (stops_cons ..).2 hp.1
  · exact (stops_cons ..).2 hp.2.1
  · exact (stops_cons ..).2 hp.2.2

/-- No operator starts like the word of a modifier. -/
theorem Closes.ne_word {r : List Char} {c d : Char} {cs : List Char} (h : Closes r)
    (hword : (c, d) ∈ [('b', 'y'), ('w', 'i'), ('o', 'f')]) : r ≠ ' ' :: c :: d :: cs := by
  obtain rfl | ⟨cs, rfl⟩ | ⟨cs, rfl⟩ | ⟨op, cs, rfl⟩ := h
  · simp
  · simp
  · simp
  · simp only [List.mem_cons, Prod.mk.injEq, List.not_mem_nil, or_false] at hword
    obtain ⟨rfl, rfl⟩ | ⟨rfl, rfl⟩ | ⟨rfl, rfl⟩ := hword <;>
      cases op <;> simp [Operator.symbol]

/-! ### Offsets -/

theorem offsetText_none (r : List Char) : (offsetText none).toList ++ r = r := by
  simp [offsetText]

theorem offsetText_some (d : Duration) (r : List Char) :
    (offsetText (some d)).toList ++ r = " offset ".toList ++ (d.format.toList ++ r) := by
  simp [offsetText]

theorem Closes.ne_offset {r : List Char} (h : Closes r) (d : Duration) (s : List Char) :
    r ≠ (offsetText (some d)).toList ++ s := by
  rw [offsetText_some]
  exact h.ne_word (by decide)

/-- An offset tells whether it is there, and where it ends. -/
theorem offsetText_inj {o o' : Option Duration} {r r' : List Char}
    (ho : o.all (·.isWholeMillis) = true) (ho' : o'.all (·.isWholeMillis) = true) (hr : Closes r)
    (hr' : Closes r') (h : (offsetText o).toList ++ r = (offsetText o').toList ++ r') :
    o = o' ∧ r = r' := by
  cases o with
  | none =>
    rw [offsetText_none] at h
    cases o' with
    | none => exact ⟨rfl, h.trans (offsetText_none r')⟩
    | some d' => exact absurd h (hr.ne_offset d' r')
  | some d =>
    cases o' with
    | none =>
      rw [offsetText_none] at h
      exact absurd h.symm (hr'.ne_offset d r)
    | some d' =>
      rw [offsetText_some, offsetText_some] at h
      obtain ⟨rfl, hrest⟩ := duration_inj ho ho' (hr.stops (by decide)) (hr'.stops (by decide))
        (List.append_cancel_left h)
      exact ⟨rfl, hrest⟩

/-! ### Lists of labels of two kinds -/

/-- What stands in front of a text: a list of labels of the one kind or of the other, each behind
its keyword, or nothing. -/
def clause (keyword keyword' : List Char) (ls ks : List String) (r : List Char) : List Char :=
  if ls ≠ [] then keyword ++ ((labelsText ls).toList ++ ' ' :: r)
  else if ks ≠ [] then keyword' ++ ((labelsText ks).toList ++ ' ' :: r)
  else r

theorem clause_left {keyword keyword' r : List Char} {ls ks : List String} (h : ls ≠ []) :
    clause keyword keyword' ls ks r = keyword ++ ((labelsText ls).toList ++ ' ' :: r) :=
  if_pos h

theorem clause_right {keyword keyword' r : List Char} {ks : List String} (h : ks ≠ []) :
    clause keyword keyword' [] ks r = keyword' ++ ((labelsText ks).toList ++ ' ' :: r) := by
  simp [clause, h]

theorem clause_nil (keyword keyword' r : List Char) : clause keyword keyword' [] [] r = r := rfl

/-- At most one of two lists has items. -/
theorem two_lists {ls ks : List String} (h : ls = [] ∨ ks = []) :
    (ls ≠ [] ∧ ks = []) ∨ (ls = [] ∧ ks ≠ []) ∨ (ls = [] ∧ ks = []) := by
  by_cases hls : ls = [] <;> by_cases hks : ks = [] <;> simp_all

/-- The labels of two kinds tell which there are, and where they end. -/
theorem clause_inj {keyword keyword' r r' : List Char} {ls ls' ks ks' : List String}
    (hkeywords : ∀ s s', keyword ++ s ≠ keyword' ++ s')
    (hr : ∀ s, r ≠ keyword ++ s ∧ r ≠ keyword' ++ s)
    (hr' : ∀ s, r' ≠ keyword ++ s ∧ r' ≠ keyword' ++ s)
    (hls : ∀ l ∈ ls ++ ks, isName l = true) (hls' : ∀ l ∈ ls' ++ ks', isName l = true)
    (hone : ls = [] ∨ ks = []) (hone' : ls' = [] ∨ ks' = [])
    (h : clause keyword keyword' ls ks r = clause keyword keyword' ls' ks' r') :
    ls = ls' ∧ ks = ks' ∧ r = r' := by
  have hlists : ∀ {k : List Char} {ns ns' : List String}, ns ≠ [] → ns' ≠ [] →
      (∀ l ∈ ns, isName l = true) → (∀ l ∈ ns', isName l = true) →
      k ++ ((labelsText ns).toList ++ ' ' :: r) = k ++ ((labelsText ns').toList ++ ' ' :: r') →
      ns = ns' ∧ r = r' := fun hns hns' hn hn' heq => by
    obtain ⟨hlabels, hrest⟩ := labelsText_inj hns hns' hn hn' (List.append_cancel_left heq)
    exact ⟨hlabels, (List.cons.inj hrest).2⟩
  -- Each side has labels of one kind, of the other, or none. Different forms start differently.
  obtain ⟨hl, rfl⟩ | ⟨rfl, hk⟩ | ⟨rfl, rfl⟩ := two_lists hone <;>
    obtain ⟨hl', rfl⟩ | ⟨rfl, hk'⟩ | ⟨rfl, rfl⟩ := two_lists hone'
  · rw [clause_left hl, clause_left hl'] at h
    obtain ⟨hlabels, hrest⟩ := hlists hl hl' (by simpa using hls) (by simpa using hls') h
    exact ⟨hlabels, rfl, hrest⟩
  · rw [clause_left hl, clause_right hk'] at h
    exact absurd h (hkeywords _ _)
  · rw [clause_left hl, clause_nil] at h
    exact absurd h.symm (hr' _).1
  · rw [clause_right hk, clause_left hl'] at h
    exact absurd h.symm (hkeywords _ _)
  · rw [clause_right hk, clause_right hk'] at h
    obtain ⟨hlabels, hrest⟩ := hlists hk hk' (by simpa using hls) (by simpa using hls') h
    exact ⟨rfl, hlabels, hrest⟩
  · rw [clause_right hk, clause_nil] at h
    exact absurd h.symm (hr' _).2
  · rw [clause_nil, clause_left hl'] at h
    exact absurd h (hr _).1
  · rw [clause_nil, clause_right hk'] at h
    exact absurd h (hr _).2
  · exact ⟨rfl, rfl, h⟩

theorem aggregationModifier_append (byLabels withoutLabels : List String) (r : List Char) :
    (aggregationModifier byLabels withoutLabels).toList ++ r =
      clause " by ".toList " without ".toList byLabels withoutLabels r := by
  simp only [aggregationModifier, clause, Bool.not_eq_true', List.isEmpty_eq_false_iff]
  split
  · simp
  · split <;> simp

/-- The labels of an aggregation tell whether they are there, and where they end. -/
theorem aggregationModifier_inj {bs bs' ws ws' : List String} {r r' : List Char}
    (hnames : ∀ l ∈ bs ++ ws, isName l = true) (hnames' : ∀ l ∈ bs' ++ ws', isName l = true)
    (hone : bs = [] ∨ ws = []) (hone' : bs' = [] ∨ ws' = [])
    (h : (aggregationModifier bs ws).toList ++ '(' :: r =
      (aggregationModifier bs' ws').toList ++ '(' :: r') : bs = bs' ∧ ws = ws' ∧ r = r' := by
  rw [aggregationModifier_append, aggregationModifier_append] at h
  have hparen : ∀ u s : List Char, '(' :: u ≠ " by ".toList ++ s ∧ '(' :: u ≠ " without ".toList ++ s :=
    fun u s => by simp
  obtain ⟨hbs, hws, hrest⟩ := clause_inj (by simp) (hparen r) (hparen r') hnames hnames' hone hone' h
  exact ⟨hbs, hws, (List.cons.inj hrest).2⟩

/-! ### The words behind an operator -/

/-- The run of characters of names at the front of a text. -/
def firstWord (cs : List Char) : List Char :=
  cs.takeWhile isNameChar

/-- The words behind an operator, which no operand starts with. -/
def modifierWords : List (List Char) :=
  ["bool", "on", "ignoring", "group_left", "group_right"].map String.toList

/-- Whether a text starts with what reads as a list of labels. -/
def opensLabels : List Char → Bool
  | '(' :: cs =>
    match (cs.dropWhile isNameChar).head? with
    | some c => c == ',' || c == ')'
    | none => false
  | _ => false

theorem firstWord_append (word : List Char) (hword : word.all isNameChar = true)
    {r : List Char} (hr : Stops isNameChar r) : firstWord (word ++ r) = word :=
  (takeWhile_append_of_stops (List.all_eq_true.1 hword) hr).1

theorem opensLabels_labelsText {ls : List String} (hne : ls ≠ [])
    (hls : ∀ l ∈ ls, isName l = true) (r : List Char) :
    opensLabels ((labelsText ls).toList ++ r) = true := by
  obtain ⟨l, ls, rfl⟩ := List.exists_cons_of_ne_nil hne
  have hl := isNameChar_of_isName (hls l List.mem_cons_self)
  rw [labelsText_append, opensLabels]
  cases ls with
  | nil =>
    rw [(takeWhile_append_of_stops hl (r := behind (')' :: r) _) ((stops_cons ..).2 rfl)).2]
    rfl
  | cons l' ls =>
    rw [(takeWhile_append_of_stops hl (r := behind (')' :: r) _) ((stops_cons ..).2 rfl)).2]
    rfl

/-- What stands in front of an operand: the keyword of a grouping, with its labels if there are
any. -/
def grouping (keyword : List Char) (ls : List String) (r : List Char) : List Char :=
  keyword ++ ' ' :: if ls = [] then r else (labelsText ls).toList ++ ' ' :: r

theorem firstWord_grouping {keyword : List Char} (hk : keyword.all isNameChar = true)
    (ls : List String) (r : List Char) : firstWord (grouping keyword ls r) = keyword :=
  firstWord_append _ hk ((stops_cons ..).2 rfl)

/-- A grouping tells whether it has labels: the operand behind it does not start with any. -/
theorem grouping_inj {keyword : List Char} {ls ls' : List String} {r r' : List Char}
    (hls : ∀ l ∈ ls, isName l = true) (hls' : ∀ l ∈ ls', isName l = true)
    (hr : opensLabels r = false) (hr' : opensLabels r' = false)
    (h : grouping keyword ls r = grouping keyword ls' r') : ls = ls' ∧ r = r' := by
  have hrest := (List.cons.inj (List.append_cancel_left h)).2
  by_cases hne : ls = [] <;> by_cases hne' : ls' = []
  · rw [if_pos hne, if_pos hne'] at hrest
    exact ⟨hne.trans hne'.symm, hrest⟩
  · rw [if_pos hne, if_neg hne'] at hrest
    rw [hrest, opensLabels_labelsText hne' hls'] at hr
    cases hr
  · rw [if_neg hne, if_pos hne'] at hrest
    rw [← hrest, opensLabels_labelsText hne hls] at hr'
    cases hr'
  · rw [if_neg hne, if_neg hne'] at hrest
    obtain ⟨hlabels, hrest⟩ := labelsText_inj hne hne' hls hls' hrest
    exact ⟨hlabels, (List.cons.inj hrest).2⟩

namespace Modifiers

/-- Whether the modifiers of an operation agree, and all labels are names. -/
def isNamed (m : Modifiers) (op : Operator) : Bool :=
  (m.fault? op).isNone
    && ((m.on ++ m.ignoring) ++ (m.groupLeft.getD [] ++ m.groupRight.getD [])).all isName

/-- A text behind the modifiers that say which side has many series. -/
def sides (m : Modifiers) (r : List Char) : List Char :=
  match m.groupLeft, m.groupRight with
  | some ls, _ => grouping "group_left".toList ls r
  | none, some ls => grouping "group_right".toList ls r
  | none, none => r

/-- A text behind the modifiers that say on which labels the sides match. -/
def matching (m : Modifiers) (r : List Char) : List Char :=
  clause "on ".toList "ignoring ".toList m.on m.ignoring r

/-- A text behind the modifier of comparisons. -/
def truth (m : Modifiers) (r : List Char) : List Char :=
  if m.returnBool then "bool ".toList ++ r else r

/-- Words in front of a text, with a blank behind each. -/
def spaced (ws : List String) (r : List Char) : List Char :=
  ws.flatMap (fun w => w.toList ++ [' ']) ++ r

theorem spaced_append (ws vs : List String) (r : List Char) :
    spaced (ws ++ vs) r = spaced ws (spaced vs r) := by
  simp [spaced]

theorem intercalate_spaced (w : String) (ws : List String) (r : List Char) :
    (" ".intercalate (w :: ws)).toList ++ ' ' :: r = w.toList ++ ' ' :: spaced ws r := by
  induction ws generalizing w with
  | nil => simp [spaced]
  | cons v vs ih =>
    rw [String.intercalate_cons_cons, String.toList_append, String.toList_append, List.append_assoc,
      List.append_assoc, ih]
    simp [spaced]

theorem spaced_sides (m : Modifiers) (r : List Char) :
    spaced (match m.groupLeft, m.groupRight with
      | some labels, _ => [groupingText "group_left" labels]
      | none, some labels => [groupingText "group_right" labels]
      | none, none => []) r = m.sides r := by
  have hgroup : ∀ keyword ls, spaced [groupingText keyword ls] r =
      grouping keyword.toList ls r := fun keyword ls => by
    cases ls with
    | nil => simp [spaced, groupingText, grouping]
    | cons l ls => simp [spaced, groupingText, grouping]
  rw [sides]
  split
  · exact hgroup _ _
  · exact hgroup _ _
  · rfl

/-- The words behind an operator, one after the other. -/
theorem words_append (m : Modifiers) (op : Operator) (r : List Char) :
    (" ".intercalate (op.symbol :: m.words)).toList ++ ' ' :: r =
      op.symbol.toList ++ ' ' :: m.truth (m.matching (m.sides r)) := by
  have htruth : ∀ s, spaced (if m.returnBool then ["bool"] else []) s = m.truth s := fun s => by
    rw [truth]
    split <;> simp [spaced]
  have hmatching : ∀ s, spaced (if !m.on.isEmpty then ["on " ++ labelsText m.on]
      else if !m.ignoring.isEmpty then ["ignoring " ++ labelsText m.ignoring] else []) s =
        m.matching s := fun s => by
    simp only [matching, clause, Bool.not_eq_true', List.isEmpty_eq_false_iff]
    split
    · simp [spaced]
    · split <;> simp [spaced]
  rw [intercalate_spaced, words, spaced_append, spaced_append, htruth, hmatching]
  exact congrArg (fun s => op.symbol.toList ++ ' ' :: m.truth (m.matching s)) (spaced_sides m r)

/-! ### Telling modifiers apart -/

variable {m m' : Modifiers} {r r' : List Char}

theorem ne_of_firstWord (word : List Char) (hword : word.all isNameChar = true)
    (hr : firstWord r ≠ word) (s : List Char) : r ≠ word ++ ' ' :: s := fun h =>
  hr (by rw [h, firstWord_append word hword ((stops_cons ..).2 rfl)])

theorem firstWord_sides (m : Modifiers) (r : List Char) :
    firstWord (m.sides r) ∈ [firstWord r, "group_left".toList, "group_right".toList] := by
  rw [sides]
  split
  · rw [firstWord_grouping (by decide)]
    simp
  · rw [firstWord_grouping (by decide)]
    simp
  · simp

theorem firstWord_matching (m : Modifiers) (r : List Char) :
    firstWord (m.matching r) ∈ [firstWord r, "on".toList, "ignoring".toList] := by
  have hon : ∀ s, firstWord ("on ".toList ++ s) = "on".toList := fun s =>
    firstWord_append "on".toList (by decide) (r := ' ' :: s) ((stops_cons ..).2 rfl)
  have hignoring : ∀ s, firstWord ("ignoring ".toList ++ s) = "ignoring".toList := fun s =>
    firstWord_append "ignoring".toList (by decide) (r := ' ' :: s) ((stops_cons ..).2 rfl)
  rw [matching, clause]
  split
  · rw [hon]
    simp
  · split
    · rw [hignoring]
      simp
    · simp

/-- What names the many side, if one does. -/
theorem sides_cases (h : m.groupLeft = none ∨ m.groupRight = none) :
    (∃ ls, m.groupLeft = some ls ∧ m.groupRight = none ∧
        m.sides = grouping "group_left".toList ls) ∨
      (∃ ls, m.groupLeft = none ∧ m.groupRight = some ls ∧
        m.sides = grouping "group_right".toList ls) ∨
      (m.groupLeft = none ∧ m.groupRight = none ∧ m.sides = id) := by
  simp only [funext_iff, sides]
  cases hl : m.groupLeft with
  | some ls => exact .inl ⟨ls, rfl, by simpa [hl] using h, fun _ => rfl⟩
  | none =>
    cases hr : m.groupRight with
    | some ls => exact .inr (.inl ⟨ls, rfl, rfl, fun _ => rfl⟩)
    | none => exact .inr (.inr ⟨rfl, rfl, fun _ => rfl⟩)

/-- The many side is told from the operand behind it. -/
theorem sides_inj (hone : m.groupLeft = none ∨ m.groupRight = none)
    (hone' : m'.groupLeft = none ∨ m'.groupRight = none)
    (hnames : ∀ l ∈ m.groupLeft.getD [] ++ m.groupRight.getD [], isName l = true)
    (hnames' : ∀ l ∈ m'.groupLeft.getD [] ++ m'.groupRight.getD [], isName l = true)
    (hword : firstWord r ∉ modifierWords) (hword' : firstWord r' ∉ modifierWords)
    (hlabels : opensLabels r = false) (hlabels' : opensLabels r' = false)
    (h : m.sides r = m'.sides r') :
    m.groupLeft = m'.groupLeft ∧ m.groupRight = m'.groupRight ∧ r = r' := by
  have hleft : ∀ ls s, firstWord (grouping "group_left".toList ls s) = "group_left".toList :=
    firstWord_grouping (by decide)
  have hright : ∀ ls s, firstWord (grouping "group_right".toList ls s) = "group_right".toList :=
    firstWord_grouping (by decide)
  have hwords := congrArg firstWord h
  -- Each side is grouped to the left, to the right, or not at all. The first word tells which.
  obtain ⟨ls, hl, hr, hs⟩ | ⟨ls, hl, hr, hs⟩ | ⟨hl, hr, hs⟩ := sides_cases hone <;>
    obtain ⟨ls', hl', hr', hs'⟩ | ⟨ls', hl', hr', hs'⟩ | ⟨hl', hr', hs'⟩ := sides_cases hone' <;>
    rw [hs, hs'] at h hwords <;> rw [hl, hr] at hnames <;> rw [hl', hr'] at hnames' <;>
    rw [hl, hr, hl', hr']
  · obtain ⟨rfl, hrest⟩ := grouping_inj (by simpa using hnames) (by simpa using hnames') hlabels
      hlabels' h
    exact ⟨rfl, rfl, hrest⟩
  · rw [hleft, hright] at hwords
    exact absurd hwords (by decide)
  · rw [hleft] at hwords
    exact absurd (hwords ▸ by decide) hword'
  · rw [hleft, hright] at hwords
    exact absurd hwords (by decide)
  · obtain ⟨rfl, hrest⟩ := grouping_inj (by simpa using hnames) (by simpa using hnames') hlabels
      hlabels' h
    exact ⟨rfl, rfl, hrest⟩
  · rw [hright] at hwords
    exact absurd (hwords ▸ by decide) hword'
  · rw [hleft] at hwords
    exact absurd (hwords ▸ by decide) hword
  · rw [hright] at hwords
    exact absurd (hwords ▸ by decide) hword
  · exact ⟨rfl, rfl, h⟩

theorem fault_none {op : Operator} (h : m.isNamed op = true) :
    (m.on = [] ∨ m.ignoring = []) ∧ (m.groupLeft = none ∨ m.groupRight = none) := by
  have hnone : m.fault? op = none := by
    simpa using (Bool.and_eq_true_iff.1 h).1
  simp only [fault?] at hnone
  split at hnone
  · cases hnone
  · next hlists =>
    split at hnone
    · cases hnone
    · next hgroups =>
      refine ⟨?_, ?_⟩
      · by_cases hon : m.on = [] <;> simp_all
      · cases hl : m.groupLeft <;> simp_all

theorem symbol_inj {op op' : Operator} (h : op.symbol = op'.symbol) : op = op' := by
  have hread : ∀ o : Operator, Operator.ofSymbol? o.symbol = some o := fun o => by cases o <;> rfl
  have hop := hread op
  rw [h, hread] at hop
  exact (Option.some.inj hop).symm

theorem truth_inj (hr : firstWord r ≠ "bool".toList) (hr' : firstWord r' ≠ "bool".toList)
    (h : m.truth r = m'.truth r') : m.returnBool = m'.returnBool ∧ r = r' := by
  have hne := ne_of_firstWord _ (by decide) hr
  have hne' := ne_of_firstWord _ (by decide) hr'
  simp only [truth] at h
  cases hb : m.returnBool <;> cases hb' : m'.returnBool <;>
    simp only [hb, hb', Bool.false_eq_true, if_true, if_false] at h
  · exact ⟨rfl, h⟩
  · exact absurd h (hne r')
  · exact absurd h.symm (hne' r)
  · exact ⟨rfl, List.append_cancel_left h⟩

theorem isNamed_names {op : Operator} (h : m.isNamed op = true) :
    (∀ l ∈ m.on ++ m.ignoring, isName l = true) ∧
      ∀ l ∈ m.groupLeft.getD [] ++ m.groupRight.getD [], isName l = true := by
  have hall := List.all_eq_true.1 (Bool.and_eq_true_iff.1 h).2
  exact ⟨fun l hl => hall l (List.mem_append_left _ hl),
    fun l hl => hall l (List.mem_append_right _ hl)⟩

theorem firstWord_sides_ne {word : List Char} (hword : word ∈ modifierWords)
    (hgroups : word ∉ ["group_left".toList, "group_right".toList])
    (hr : firstWord r ∉ modifierWords) : firstWord (m.sides r) ≠ word := by
  have hsides := m.firstWord_sides r
  rw [List.mem_cons] at hsides
  rintro rfl
  obtain hsame | hgroup := hsides
  · exact hr (hsame ▸ hword)
  · exact hgroups hgroup

theorem firstWord_matching_ne (hr : firstWord r ∉ modifierWords) :
    firstWord (m.matching (m.sides r)) ≠ "bool".toList := by
  have hmatching := m.firstWord_matching (m.sides r)
  rw [List.mem_cons] at hmatching
  intro hbool
  rw [hbool] at hmatching
  obtain hsame | hkeyword := hmatching
  · exact firstWord_sides_ne (by decide) (by decide) hr hsame.symm
  · exact absurd hkeyword (by decide)

theorem sides_ne_keyword (hr : firstWord r ∉ modifierWords) (s : List Char) :
    m.sides r ≠ "on ".toList ++ s ∧ m.sides r ≠ "ignoring ".toList ++ s :=
  ⟨ne_of_firstWord "on".toList (by decide)
      (firstWord_sides_ne (by decide) (by decide) hr) s,
    ne_of_firstWord "ignoring".toList (by decide)
      (firstWord_sides_ne (by decide) (by decide) hr) s⟩

/-- **The words behind an operator are told from the operand behind them**, if that starts neither
with such a word nor with what reads as a list of labels. -/
theorem words_inj {op op' : Operator} (hm : m.isNamed op = true) (hm' : m'.isNamed op' = true)
    (hword : firstWord r ∉ modifierWords) (hword' : firstWord r' ∉ modifierWords)
    (hlabels : opensLabels r = false) (hlabels' : opensLabels r' = false)
    (h : (" ".intercalate (op.symbol :: m.words)).toList ++ ' ' :: r =
      (" ".intercalate (op'.symbol :: m'.words)).toList ++ ' ' :: r') :
    op = op' ∧ m = m' ∧ r = r' := by
  obtain ⟨hlists, hgroups⟩ := fault_none hm
  obtain ⟨hlists', hgroups'⟩ := fault_none hm'
  have hnames := isNamed_names hm
  have hnames' := isNamed_names hm'
  have hspace : ∀ o : Operator, (∀ c ∈ o.symbol.toList, (c != ' ') = true) := fun o =>
    List.all_eq_true.1 (by cases o <;> decide)
  rw [words_append, words_append] at h
  obtain ⟨hop, hrest⟩ := append_inj_of_stops (hspace op) (hspace op') ((stops_cons ..).2 rfl)
    ((stops_cons ..).2 rfl) h
  obtain ⟨hbool, hrest⟩ := truth_inj (firstWord_matching_ne hword) (firstWord_matching_ne hword')
    (List.cons.inj hrest).2
  obtain ⟨hon, hignoring, hrest⟩ := clause_inj (by simp) (sides_ne_keyword hword)
    (sides_ne_keyword hword') hnames.1 hnames'.1 hlists hlists' hrest
  obtain ⟨hleft, hright, hrest⟩ := sides_inj hgroups hgroups' hnames.2 hnames'.2 hword hword'
    hlabels hlabels' hrest
  refine ⟨symbol_inj (String.toList_injective hop), ?_, hrest⟩
  cases m
  cases m'
  rw [mk.injEq]
  exact ⟨hon, hignoring, hleft, hright, hbool⟩

end Modifiers

end MonitoringConfig.Promql
