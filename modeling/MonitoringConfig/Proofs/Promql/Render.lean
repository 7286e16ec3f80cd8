import MonitoringConfig.Proofs.Number.Text
import MonitoringConfig.Proofs.Promql.Modifier
/-!
# The texts of expressions

Two expressions with the same text are the same tree, as long as their names are names of the
language. Every expression is closed by what stands behind it: the two texts are read side by side,
and what is left behind one part is where the next one begins.

* `Expr.isLegal` : the trees whose names, numbers and durations can be told apart in a text.
* `Expr.render_front` : the first characters of a text tell what kind of node it is, and differ from
  the words and labels that can stand in front of it.
* `Expr.equal_of_render` : trees with the same text are equal.
-/

namespace MonitoringConfig.Promql

/-! ### Legal trees -/

/-- The names of aggregations. -/
def aggregators : List String :=
  ["sum", "avg", "min", "max", "group", "count", "stddev", "stdvar", "topk", "bottomk", "quantile",
    "count_values", "limitk", "limit_ratio"]

/-- The words of the language that name neither metrics nor functions. -/
def keywords : List String :=
  ["and", "or", "unless", "by", "without", "on", "ignoring", "group_left", "group_right", "bool",
    "offset"]

/-- Whether a number is one of the floating-point format. -/
def Scalar.isExact : Scalar → Bool
  | int n => (Binary64.ofInt n).isCanonical && (Binary64.ofInt n).compareInt? n == some .eq
  | float x => x.isCanonical && x != .nan

namespace Expr

mutual

/-- Whether a tree has only names of the language, numbers of the floating-point format and
durations of whole milliseconds, and no text that is taken as it is. -/
def isLegal : Expr → Bool
  | raw _ => false
  | scalar s => s.isExact
  | vector metric matchers offset =>
    isSelector metric matchers && !keywords.contains metric && offset.all (·.isWholeMillis)
  | range metric window matchers offset =>
    isSelector metric matchers && !keywords.contains metric && window.isWholeMillis
      && offset.all (·.isWholeMillis)
  | call name args =>
    isName name && !keywords.contains name && !aggregators.contains name && areLegal args
  | string _ => true
  | aggregation op body byLabels withoutLabels param =>
    aggregators.contains op && (byLabels ++ withoutLabels).all isName
      && (byLabels.isEmpty || withoutLabels.isEmpty) && isLegalParam param && isLegal body
  | binary left op right modifiers => modifiers.isNamed op && isLegal left && isLegal right
  | unwritable .. => false

/-- Whether several trees are legal. -/
def areLegal : List Expr → Bool
  | [] => true
  | e :: es => isLegal e && areLegal es

/-- Whether a leading argument is legal, if there is one. -/
def isLegalParam : Option Expr → Bool
  | none => true
  | some e => isLegal e

end

theorem areLegal_iff {es : List Expr} : areLegal es = true ↔ ∀ e ∈ es, e.isLegal = true := by
  induction es with
  | nil => simp [areLegal]
  | cons e es ih => simp [areLegal, ih]

end Expr

/-! ### Numbers -/

namespace Scalar

theorem isExact_spec {s : Scalar} (h : s.isExact = true) :
    s.value.isCanonical = true ∧ s.value ≠ .nan ∧
      ∀ n, s = int n → s.value.compareInt? n = some .eq := by
  cases s with
  | int n =>
    simp only [isExact, Bool.and_eq_true, beq_iff_eq] at h
    refine ⟨h.1, fun hnan => ?_, fun k hk => ?_⟩
    · rw [show (Binary64.ofInt n) = .nan from hnan] at h
      cases h.2
    · cases hk
      exact h.2
  | float x =>
    simp only [isExact, Bool.and_eq_true, bne_iff_ne, ne_eq] at h
    exact ⟨h.1, h.2, fun n hn => by cases hn⟩

/-- **Numbers with the same text are equal by value.** -/
theorem equal_of_text {s s' : Scalar} (hs : s.isExact = true) (hs' : s'.isExact = true)
    (h : s.text = s'.text) : s.equal s' = true := by
  obtain ⟨hcanonical, hnan, hint⟩ := isExact_spec hs
  obtain ⟨hcanonical', hnan', hint'⟩ := isExact_spec hs'
  have hsame := formatNumber_inj hcanonical hcanonical' hnan hnan' h
  have hsame' := hsame.imp Eq.symm And.symm
  cases s with
  | int n =>
    have hn := Binary64.compareInt_of_same hsame n (hint n rfl)
    cases s' with
    | int n' => exact beq_iff_eq.2 (Binary64.compareInt_unique hn (hint' n' rfl))
    | float y => exact beq_iff_eq.2 hn
  | float x =>
    cases s' with
    | int n' => exact beq_iff_eq.2 (Binary64.compareInt_of_same hsame' n' (hint' n' rfl))
    | float y => exact Binary64.equal_of_same hnan hsame

end Scalar

/-! ### Texts of nodes -/

namespace Expr

/-- A row of expressions with commas between them, in front of what closes it. -/
def row (es : List Expr) (close : List Char) : List Char :=
  List.intercalate [','] (es.map fun e => e.render.toList) ++ close

theorem row_cons (e : Expr) (es : List Expr) (close : List Char) :
    row (e :: es) close = e.render.toList ++ behind close (es.map fun e => e.render.toList) := by
  rw [row, List.map_cons, intercalate_append]

section

attribute [local simp] render renderList renderParam

theorem renderList_eq_map (es : List Expr) : renderList es = es.map render := by
  induction es with
  | nil => rfl
  | cons e es ih => simp [ih]

theorem render_vector (metric : String) (matchers : List Matcher) (offset : Option Duration)
    (r : List Char) : (vector metric matchers offset).render.toList ++ r =
      (selectorText metric matchers).toList ++ ((offsetText offset).toList ++ r) := by
  simp

theorem render_range (metric : String) (window : Duration) (matchers : List Matcher)
    (offset : Option Duration) (r : List Char) :
    (range metric window matchers offset).render.toList ++ r =
      (selectorText metric matchers).toList ++
        '[' :: (window.format.toList ++ ']' :: ((offsetText offset).toList ++ r)) := by
  simp

theorem render_call (name : String) (args : List Expr) (r : List Char) :
    (call name args).render.toList ++ r = name.toList ++ '(' :: row args (')' :: r) := by
  simp [row, renderList_eq_map, String.toList_intercalate, Function.comp_def]

theorem render_string (value : String) (r : List Char) : (string value).render.toList ++ r =
    '"' :: (escapeString value.toList ++ '"' :: r) := by
  simp [stringText]

theorem render_aggregation (op : String) (body : Expr) (byLabels withoutLabels : List String)
    (param : Option Expr) (r : List Char) :
    (aggregation op body byLabels withoutLabels param).render.toList ++ r =
      op.toList ++ ((aggregationModifier byLabels withoutLabels).toList ++
        '(' :: row (param.toList ++ [body]) (')' :: r)) := by
  cases param with
  | none => simp [row_cons, behind]
  | some p => simp [row_cons, behind]

theorem render_binary (left : Expr) (op : Operator) (right : Expr) (m : Modifiers)
    (r : List Char) : (binary left op right m).render.toList ++ r =
      '(' :: (left.render.toList ++ ' ' :: ((" ".intercalate (op.symbol :: m.words)).toList ++
        ' ' :: (right.render.toList ++ ')' :: r))) := by
  simp

end

/-! ### The front of a text -/

/-- What kind of node a name starts, by what stands behind it. -/
def shapeBehind (name : String) : List Char → NodeKind
  | '(' :: _ => if aggregators.contains name then .aggregation else .call
  | ' ' :: 'b' :: 'y' :: _ | ' ' :: 'w' :: 'i' :: _ => .aggregation
  | _ => .vector

/-- What kind of node a text starts with; ranges start like vectors. -/
def shape (cs : List Char) : NodeKind :=
  match cs with
  | '(' :: _ => .binary
  | '"' :: _ => .string
  | c :: _ =>
    if c.isDigit || c == '-' || c == '+' then .scalar
    else shapeBehind (String.ofList (firstWord cs)) (cs.dropWhile isNameChar)
  | [] => .vector

/-- The shape of the text of a kind of node. -/
def shapeOf : NodeKind → NodeKind
  | .range => .vector
  | kind => kind

/-- What the front of a text says: the kind of its node, that it does not start with a word that
modifies an operator, and that no list of labels ends behind its first word. -/
structure Front (kind : NodeKind) (close text : List Char) : Prop where
  head : ∀ c ∈ text.head?, c ≠ ',' ∧ c ≠ ')'
  shape_eq : shape text = shapeOf kind
  firstWord_notMem : firstWord text ∉ modifierWords
  rest : text.dropWhile isNameChar = close ∨
    ∃ c cs, text.dropWhile isNameChar = c :: cs ∧ c ≠ ',' ∧ c ≠ ')'

/-- The words that modify an operator start with a letter. -/
theorem notMem_modifierWords {word : List Char}
    (h : ∀ c ∈ word.head?, c.isDigit = true) : word ∉ modifierWords := fun hmem => by
  have hletters : ∀ w ∈ modifierWords, w.head?.all Char.isDigit = false := by decide
  have hdigit : word.head?.all Char.isDigit = true := (Option.all_eq_true ..).2 h
  rw [hletters word hmem] at hdigit
  cases hdigit

/-- A text that starts with a mark. -/
theorem front_mark {kind : NodeKind} {close cs : List Char} {c : Char}
    (hshape : shape (c :: cs) = shapeOf kind) (hc : isNameChar c = false)
    (hlist : c ≠ ',' ∧ c ≠ ')') : Front kind close (c :: cs) where
  head := by simpa using hlist
  shape_eq := hshape
  firstWord_notMem := by
    have hword : firstWord (c :: cs) = [] := by simp [firstWord, hc]
    rw [hword]
    decide
  rest := .inr ⟨c, cs, by simp [hc], hlist⟩

/-- A text that starts with a name. -/
theorem front_name {kind : NodeKind} {name : String} {close u : List Char}
    (hname : isName name = true) (hword : name.toList ∉ modifierWords) (hu : Stops isNameChar u)
    (hshape : shapeBehind name u = shapeOf kind)
    (hrest : u = close ∨ ∃ c cs, u = c :: cs ∧ c ≠ ',' ∧ c ≠ ')') :
    Front kind close (name.toList ++ u) := by
  obtain ⟨htake, hdrop⟩ := takeWhile_append_of_stops (isNameChar_of_isName hname) hu
  have hfirst : firstWord (name.toList ++ u) = name.toList := htake
  rw [isName] at hname
  split at hname
  · cases hname
  · next c cs hs =>
    simp only [Bool.and_eq_true, Bool.not_eq_true', List.all_cons] at hname
    obtain ⟨hdigit, hc, -⟩ := hname
    have hne : c ≠ '(' ∧ c ≠ '"' ∧ c ≠ '-' ∧ c ≠ '+' ∧ c ≠ ',' ∧ c ≠ ')' := by
      refine ⟨?_, ?_, ?_, ?_, ?_, ?_⟩ <;> (rintro rfl; exact absurd hc (by decide))
    refine ⟨?_, ?_, by rwa [hfirst], by rwa [hdrop]⟩
    · rw [hs]
      simpa using hne.2.2.2.2
    rw [hs, List.cons_append] at hdrop hfirst ⊢
    rw [shape]
    · simp [hdigit, hne, hdrop, hfirst, ← hs, hshape]
    · exact hne.1
    · exact hne.2.1

theorem dropWhile_append_cases {p q : Char → Bool} {as close : List Char}
    (has : ∀ c ∈ as, q c = true) (hclose : Stops p close) :
    (as ++ close).dropWhile p = close ∨
      ∃ c cs, (as ++ close).dropWhile p = c :: cs ∧ q c = true := by
  induction as with
  | nil =>
    left
    cases close with
    | nil => rfl
    | cons c cs => simp [(stops_cons p c cs).1 hclose]
  | cons a as ih =>
    cases ha : p a with
    | true =>
      have hdrop : (a :: as ++ close).dropWhile p = (as ++ close).dropWhile p := by simp [ha]
      rw [hdrop]
      exact ih fun c hc => has c (List.mem_cons_of_mem _ hc)
    | false => exact .inr ⟨a, as ++ close, by simp [ha], has a List.mem_cons_self⟩

/-- A text that starts with a number. -/
theorem front_number {s : Scalar} (hs : s.isExact = true) {close : List Char}
    (hclose : Closes close) : Front .scalar close (s.text.toList ++ close) := by
  obtain ⟨hcanonical, hnan, -⟩ := Scalar.isExact_spec hs
  obtain ⟨⟨c, cs, htext, hc⟩, hall⟩ := formatNumber_chars hcanonical hnan
  have hrest := dropWhile_append_cases hall (hclose.stops (p := isNameChar) (by decide))
  have hne : c ≠ '(' ∧ c ≠ '"' ∧ c ≠ ',' ∧ c ≠ ')' := by
    refine ⟨?_, ?_, ?_, ?_⟩ <;> rintro rfl <;> exact absurd hc (by decide)
  change Front .scalar close ((formatNumber s.value).toList ++ close)
  refine ⟨?_, ?_, notMem_modifierWords fun d hd => ?_, hrest.imp_right ?_⟩
  · rw [htext]
    simpa using hne.2.2
  · rw [htext, List.cons_append, shape]
    · obtain hdigit | rfl | rfl := hc
      · simp [hdigit, shapeOf]
      · rfl
      · rfl
    · exact hne.1
    · exact hne.2.1
  · rw [htext, List.cons_append, firstWord, List.takeWhile_cons] at hd
    split at hd
    · next hname =>
      obtain rfl : c = d := by simpa using hd
      obtain hdigit | rfl | rfl := hc
      · exact hdigit
      · exact absurd hname (by decide)
      · exact absurd hname (by decide)
    · cases hd
  · rintro ⟨d, ds, hd, hnumber⟩
    refine ⟨d, ds, hd, ?_, ?_⟩ <;> rintro rfl <;> exact absurd hnumber (by decide)

/-- No operator stands behind a name as an argument list or a grouping does. -/
theorem shapeBehind_closes {close : List Char} (h : Closes close) (name : String) :
    shapeBehind name close = .vector := by
  obtain rfl | ⟨cs, rfl⟩ | ⟨cs, rfl⟩ | ⟨op, cs, rfl⟩ := h
  · rfl
  · rfl
  · rfl
  · cases op <;> rfl

theorem toList_notMem_modifierWords {name : String} (h : keywords.contains name = false) :
    name.toList ∉ modifierWords := fun hmem => by
  obtain ⟨word, hword, heq⟩ := List.mem_map.1 hmem
  have hkeyword : ∀ w ∈ ["bool", "on", "ignoring", "group_left", "group_right"],
      keywords.contains w = true := by decide
  rw [← String.toList_injective heq, hkeyword word hword] at h
  cases h

/-- A text that starts with a selection. -/
theorem front_selector {kind : NodeKind} (hkind : shapeOf kind = .vector) {metric : String}
    {matchers : List Matcher} (hs : isSelector metric matchers = true)
    (hkeyword : keywords.contains metric = false) {close u : List Char} (hu : Stops isNameChar u)
    (hshape : shapeBehind metric u = .vector)
    (hrest : u = close ∨ ∃ c cs, u = c :: cs ∧ c ≠ ',' ∧ c ≠ ')') :
    Front kind close ((selectorText metric matchers).toList ++ u) := by
  have hword := toList_notMem_modifierWords hkeyword
  simp only [isSelector, Bool.and_eq_true, Bool.or_eq_true, String.isEmpty_iff,
    Bool.not_eq_true'] at hs
  cases matchers with
  | nil =>
    obtain ⟨hname | ⟨-, hempty⟩, -⟩ := hs
    · exact front_name hname hword hu (hshape.trans hkind.symm) hrest
    · cases hempty
  | cons m ms =>
    rw [selectorText_append]
    obtain ⟨hname | ⟨rfl, -⟩, -⟩ := hs
    · exact front_name hname hword ((stops_cons ..).2 rfl) hkind.symm
        (.inr ⟨'\x7b', _, rfl, by decide⟩)
    · exact front_mark (c := '\x7b') hkind.symm rfl (by decide)

/-- A text that starts with an aggregation. -/
theorem front_aggregation {op : String} (hop : aggregators.contains op = true)
    (byLabels withoutLabels : List String) (close u : List Char) :
    Front .aggregation close (op.toList ++
      ((aggregationModifier byLabels withoutLabels).toList ++ '(' :: u)) := by
  have hall : ∀ name ∈ aggregators, isName name = true ∧ keywords.contains name = false := by
    decide
  obtain ⟨hname, hkeyword⟩ := hall op (List.contains_iff_mem.1 hop)
  have hparen : ∀ cs, shapeBehind op ('(' :: cs) = .aggregation := fun cs => if_pos hop
  rw [aggregationModifier_append, clause]
  split
  · exact front_name hname (toList_notMem_modifierWords hkeyword) ((stops_cons ..).2 rfl) rfl
      (.inr ⟨' ', _, rfl, by decide⟩)
  · split
    · exact front_name hname (toList_notMem_modifierWords hkeyword) ((stops_cons ..).2 rfl) rfl
        (.inr ⟨' ', _, rfl, by decide⟩)
    · exact front_name hname (toList_notMem_modifierWords hkeyword) ((stops_cons ..).2 rfl)
        (hparen u) (.inr ⟨'(', _, rfl, by decide⟩)

/-- **The front of the text of a node tells its kind**, and differs from what modifies an
operator. -/
theorem render_front {e : Expr} (h : e.isLegal = true) {close : List Char}
    (hclose : Closes close) : Front e.kind close (e.render.toList ++ close) := by
  cases e with
  | raw _ => cases h
  | unwritable _ _ => cases h
  | scalar s => exact front_number h hclose
  | string value =>
    rw [render_string]
    exact front_mark rfl rfl (by decide)
  | vector metric matchers offset =>
    simp only [isLegal, Bool.and_eq_true, Bool.not_eq_true'] at h
    rw [render_vector]
    cases offset with
    | none =>
      rw [offsetText_none]
      exact front_selector rfl h.1.1 h.1.2 (hclose.stops (by decide))
        (shapeBehind_closes hclose metric) (.inl rfl)
    | some d =>
      rw [offsetText_some]
      exact front_selector rfl h.1.1 h.1.2 ((stops_cons ..).2 rfl) rfl
        (.inr ⟨' ', _, rfl, by decide⟩)
  | range metric window matchers offset =>
    simp only [isLegal, Bool.and_eq_true, Bool.not_eq_true'] at h
    rw [render_range]
    exact front_selector rfl h.1.1.1 h.1.1.2 ((stops_cons ..).2 rfl) rfl
      (.inr ⟨'[', _, rfl, by decide⟩)
  | call name args =>
    simp only [isLegal, Bool.and_eq_true, Bool.not_eq_true'] at h
    have hcall : ∀ cs, shapeBehind name ('(' :: cs) = .call := fun cs =>
      if_neg (by rw [h.1.2]; decide)
    rw [render_call]
    exact front_name h.1.1.1 (toList_notMem_modifierWords h.1.1.2) ((stops_cons ..).2 rfl)
      (hcall _) (.inr ⟨'(', _, rfl, by decide⟩)
  | aggregation op body byLabels withoutLabels param =>
    simp only [isLegal, Bool.and_eq_true] at h
    rw [render_aggregation]
    exact front_aggregation h.1.1.1.1 byLabels withoutLabels close _
  | binary left op right m =>
    rw [render_binary]
    exact front_mark rfl rfl (by decide)

theorem opensLabels_of_shape {cs : List Char} (h : shape cs ≠ .binary) :
    opensLabels cs = false := by
  cases cs with
  | nil => rfl
  | cons c cs =>
    rw [opensLabels]
    intro ds heq
    obtain ⟨rfl, rfl⟩ := List.cons.inj heq
    exact h rfl

/-- An operand does not start with a list of labels: in an operation, a blank follows what stands
behind the parenthesis. -/
theorem opensLabels_render {e : Expr} (h : e.isLegal = true) (r : List Char) :
    opensLabels (e.render.toList ++ ')' :: r) = false := by
  have hshape := (render_front h (closes_paren r)).shape_eq
  cases e with
  | binary left op right m =>
    simp only [isLegal, Bool.and_eq_true] at h
    rw [render_binary, Modifiers.words_append, opensLabels]
    generalize m.truth _ = u
    obtain hrest | ⟨c, cs, hrest, hc⟩ := (render_front h.1.2 (closes_operator op u)).rest
    · rw [hrest]
      rfl
    · rw [hrest]
      simp [hc]
  | unwritable _ _ => cases h
  | _ => exact opensLabels_of_shape (by rw [hshape]; simp [shapeOf, kind])

/-! ### Trees with the same text -/

mutual

/-- Induction over the parts of an expression. -/
@[elab_as_elim]
theorem induct {P : Expr → Prop} (raw : ∀ text, P (.raw text)) (scalar : ∀ s, P (.scalar s))
    (vector : ∀ metric matchers offset, P (.vector metric matchers offset))
    (range : ∀ metric window matchers offset, P (.range metric window matchers offset))
    (call : ∀ name args, (∀ e ∈ args, P e) → P (.call name args))
    (string : ∀ value, P (.string value))
    (aggregation : ∀ op body byLabels withoutLabels param, P body → (∀ e ∈ param, P e) →
      P (.aggregation op body byLabels withoutLabels param))
    (binary : ∀ left op right m, P left → P right → P (.binary left op right m))
    (unwritable : ∀ kind cause, P (.unwritable kind cause)) (e : Expr) : P e :=
  match e with
  | .raw text => raw text
  | .scalar s => scalar s
  | .vector metric matchers offset => vector metric matchers offset
  | .range metric window matchers offset => range metric window matchers offset
  | .call name args => call name args
      (inductList raw scalar vector range call string aggregation binary unwritable args)
  | .string value => string value
  | .aggregation op body byLabels withoutLabels none =>
    aggregation op body byLabels withoutLabels none
      (induct raw scalar vector range call string aggregation binary unwritable body)
      (fun _ h => by cases h)
  | .aggregation op body byLabels withoutLabels (some p) =>
    aggregation op body byLabels withoutLabels (some p)
      (induct raw scalar vector range call string aggregation binary unwritable body)
      (fun _ h => by
        cases h
        exact induct raw scalar vector range call string aggregation binary unwritable p)
  | .binary left op right m => binary left op right m
      (induct raw scalar vector range call string aggregation binary unwritable left)
      (induct raw scalar vector range call string aggregation binary unwritable right)
  | .unwritable kind cause => unwritable kind cause

theorem inductList {P : Expr → Prop} (raw : ∀ text, P (.raw text)) (scalar : ∀ s, P (.scalar s))
    (vector : ∀ metric matchers offset, P (.vector metric matchers offset))
    (range : ∀ metric window matchers offset, P (.range metric window matchers offset))
    (call : ∀ name args, (∀ e ∈ args, P e) → P (.call name args))
    (string : ∀ value, P (.string value))
    (aggregation : ∀ op body byLabels withoutLabels param, P body → (∀ e ∈ param, P e) →
      P (.aggregation op body byLabels withoutLabels param))
    (binary : ∀ left op right m, P left → P right → P (.binary left op right m))
    (unwritable : ∀ kind cause, P (.unwritable kind cause)) : ∀ es : List Expr, ∀ e ∈ es, P e
  | [] => fun _ h => absurd h List.not_mem_nil
  | e :: es => List.forall_mem_cons.2
      ⟨induct raw scalar vector range call string aggregation binary unwritable e,
        inductList raw scalar vector range call string aggregation binary unwritable es⟩

end

attribute [local simp] equal equalList equalOption

theorem equalList_iff {es es' : List Expr} :
    equalList es es' = true ↔ List.Forall₂ (fun e e' => e.equal e' = true) es es' := by
  induction es generalizing es' with
  | nil => cases es' <;> simp
  | cons e es ih => cases es' <;> simp [ih]

/-- No row is closed where an expression starts. -/
theorem render_append_ne_paren {e : Expr} (h : e.isLegal = true) (r cs : List Char) :
    e.render.toList ++ r ≠ ')' :: cs := fun heq => by
  have hhead := (render_front h (closes_comma [])).head
  cases htext : e.render.toList with
  | nil =>
    rw [htext] at hhead
    exact (hhead ',' rfl).1 rfl
  | cons c ds =>
    rw [htext] at hhead heq
    exact (hhead c rfl).2 (List.cons.inj heq).1

/-- What it means for a tree that its text tells where it ends and which tree it is. -/
def IsReadable (e : Expr) : Prop :=
  ∀ e' r r', e'.isLegal = true → Closes r → Closes r' →
    e.render.toList ++ r = e'.render.toList ++ r' → e.equal e' = true ∧ r = r'

/-- A row of expressions tells where it ends, if its items do. -/
theorem row_inj {es es' : List Expr} {r r' : List Char} (hes : areLegal es = true)
    (hes' : areLegal es' = true) (hread : ∀ e ∈ es, e.IsReadable)
    (h : row es (')' :: r) = row es' (')' :: r')) : equalList es es' = true ∧ r = r' := by
  rw [areLegal_iff] at hes hes'
  -- An empty row ends at once, where no expression starts.
  cases es with
  | nil =>
    cases es' with
    | nil => exact ⟨rfl, (List.cons.inj h).2⟩
    | cons e' es' =>
      rw [row_cons] at h
      exact absurd h.symm (render_append_ne_paren (hes' e' List.mem_cons_self) _ _)
  | cons e es =>
    cases es' with
    | nil =>
      rw [row_cons] at h
      exact absurd h (render_append_ne_paren (hes e List.mem_cons_self) _ _)
    | cons e' es' =>
      rw [row_cons, row_cons] at h
      obtain ⟨heq, hrest⟩ := hread e List.mem_cons_self e' _ _ (hes' e' List.mem_cons_self)
        (follows_behind closes_comma (closes_paren r) _)
        (follows_behind closes_comma (closes_paren r') _) h
      obtain ⟨htail, hclose⟩ := behind_inj _ closes_comma (by decide) (closes_paren r)
        (closes_paren r') (R := fun e e' => e.equal e' = true)
        (fun x hx y hy s s' hs hs' => hread x (List.mem_cons_of_mem _ hx) y s s'
          (hes' y (List.mem_cons_of_mem _ hy)) hs hs') hrest
      exact ⟨equalList_iff.2 (.cons heq htail), hclose⟩

theorem stops_offset {p : Char → Bool} (hp : p ',' = false ∧ p ')' = false ∧ p ' ' = false)
    (offset : Option Duration) {r : List Char} (hr : Closes r) :
    Stops p ((offsetText offset).toList ++ r) := by
  cases offset with
  | none =>
    rw [offsetText_none]
    exact hr.stops hp
  | some d =>
    rw [offsetText_some]
    exact (stops_cons ..).2 hp.2.2

theorem stops_aggregationModifier (byLabels withoutLabels : List String) (cs : List Char) :
    Stops isNameChar ((aggregationModifier byLabels withoutLabels).toList ++ '(' :: cs) := by
  rw [aggregationModifier_append, clause]
  split
  · exact (stops_cons ..).2 rfl
  · split <;> exact (stops_cons ..).2 rfl

theorem closes_words (op : Operator) (m : Modifiers) (r : List Char) :
    Closes (' ' :: ((" ".intercalate (op.symbol :: m.words)).toList ++ ' ' :: r)) := by
  rw [Modifiers.words_append]
  exact closes_operator op _

/-- Expressions whose texts agree in front start alike. -/
theorem shapeOf_kind_eq {e e' : Expr} {r r' : List Char} (h : e.isLegal = true)
    (h' : e'.isLegal = true) (hr : Closes r) (hr' : Closes r')
    (heq : e.render.toList ++ r = e'.render.toList ++ r') : shapeOf e.kind = shapeOf e'.kind := by
  rw [← (render_front h hr).shape_eq, heq, (render_front h' hr').shape_eq]

theorem isReadable_scalar {s : Scalar} (h : s.isExact = true) : (scalar s).IsReadable := by
  intro e' r r' h' hr hr' heq
  have hshape := shapeOf_kind_eq (e := scalar s) h h' hr hr' heq
  cases e' with
  | scalar s' =>
    obtain ⟨hcanonical, hnan, -⟩ := Scalar.isExact_spec h
    obtain ⟨hcanonical', hnan', -⟩ := Scalar.isExact_spec h'
    obtain ⟨htext, hrest⟩ := append_inj_of_stops (p := isNumberChar)
      (formatNumber_chars hcanonical hnan).2 (formatNumber_chars hcanonical' hnan').2
      (hr.stops (by decide)) (hr'.stops (by decide)) heq
    exact ⟨Scalar.equal_of_text h h' (String.toList_injective htext), hrest⟩
  | raw _ => cases h'
  | unwritable _ _ => cases h'
  | _ => cases hshape

theorem isReadable_string (value : String) : (string value).IsReadable := by
  intro e' r r' h' hr hr' heq
  have hshape := shapeOf_kind_eq (e := string value) rfl h' hr hr' heq
  cases e' with
  | string value' =>
    obtain ⟨rfl, hrest⟩ := stringText_inj heq
    exact ⟨by simp, hrest⟩
  | raw _ => cases h'
  | unwritable _ _ => cases h'
  | _ => cases hshape

/-- A selection without a window is told from one with a window. -/
theorem isReadable_vector {metric : String} {matchers : List Matcher} {offset : Option Duration}
    (h : (vector metric matchers offset).isLegal = true) :
    (vector metric matchers offset).IsReadable := by
  intro e' r r' h' hr hr' heq
  have hshape := shapeOf_kind_eq h h' hr hr' heq
  simp only [isLegal, Bool.and_eq_true] at h
  cases e' with
  | vector metric' matchers' offset' =>
    simp only [isLegal, Bool.and_eq_true] at h'
    rw [render_vector, render_vector] at heq
    obtain ⟨rfl, rfl, hrest⟩ := selectorText_inj h.1.1 h'.1.1 (stops_offset (by decide) offset hr)
      (stops_offset (by decide) offset' hr') heq
    obtain ⟨rfl, hclose⟩ := offsetText_inj h.2 h'.2 hr hr' hrest
    exact ⟨by simp, hclose⟩
  | range metric' window' matchers' offset' =>
    simp only [isLegal, Bool.and_eq_true] at h'
    rw [render_vector, render_range] at heq
    obtain ⟨-, -, hrest⟩ := selectorText_inj h.1.1 h'.1.1.1 (stops_offset (by decide) offset hr)
      ((stops_cons ..).2 rfl) heq
    have hbracket := stops_offset (p := (· == '[')) (by decide) offset hr
    rw [hrest, stops_cons] at hbracket
    exact absurd hbracket (by decide)
  | raw _ => cases h'
  | unwritable _ _ => cases h'
  | _ => cases hshape

theorem isReadable_range {metric : String} {window : Duration} {matchers : List Matcher}
    {offset : Option Duration} (h : (range metric window matchers offset).isLegal = true) :
    (range metric window matchers offset).IsReadable := by
  intro e' r r' h' hr hr' heq
  have hshape := shapeOf_kind_eq h h' hr hr' heq
  cases e' with
  | range metric' window' matchers' offset' =>
    simp only [isLegal, Bool.and_eq_true] at h h'
    rw [render_range, render_range] at heq
    obtain ⟨rfl, rfl, hrest⟩ := selectorText_inj h.1.1.1 h'.1.1.1 ((stops_cons ..).2 rfl)
      ((stops_cons ..).2 rfl) heq
    obtain ⟨rfl, hoffset⟩ := duration_inj h.1.2 h'.1.2 ((stops_cons ..).2 rfl)
      ((stops_cons ..).2 rfl) (List.cons.inj hrest).2
    obtain ⟨rfl, hclose⟩ := offsetText_inj h.2 h'.2 hr hr' (List.cons.inj hoffset).2
    exact ⟨by simp, hclose⟩
  | vector metric' matchers' offset' =>
    obtain ⟨hequal, hclose⟩ := isReadable_vector h' _ r' r h hr' hr heq.symm
    simp at hequal
  | raw _ => cases h'
  | unwritable _ _ => cases h'
  | _ => cases hshape

theorem isReadable_call {name : String} {args : List Expr}
    (h : (call name args).isLegal = true) (hread : ∀ e ∈ args, e.IsReadable) :
    (call name args).IsReadable := by
  intro e' r r' h' hr hr' heq
  have hshape := shapeOf_kind_eq h h' hr hr' heq
  cases e' with
  | call name' args' =>
    simp only [isLegal, Bool.and_eq_true] at h h'
    rw [render_call, render_call] at heq
    obtain ⟨rfl, hrest⟩ := name_inj (isNameChar_of_isName h.1.1.1) (isNameChar_of_isName h'.1.1.1)
      ((stops_cons ..).2 rfl) ((stops_cons ..).2 rfl) heq
    obtain ⟨hargs, hclose⟩ := row_inj h.2 h'.2 hread (List.cons.inj hrest).2
    exact ⟨by simp [hargs], hclose⟩
  | raw _ => cases h'
  | unwritable _ _ => cases h'
  | _ => cases hshape

/-- The leading argument of an aggregation and its body are a row of one or two. -/
theorem equal_of_param {body body' : Expr} {param param' : Option Expr}
    (h : equalList (param.toList ++ [body]) (param'.toList ++ [body']) = true) :
    body.equal body' = true ∧ equalOption param param' = true := by
  cases param <;> cases param' <;> simp_all [equalList, equalOption]

theorem areLegal_param {body : Expr} {param : Option Expr} (hparam : isLegalParam param = true)
    (hbody : body.isLegal = true) : areLegal (param.toList ++ [body]) = true := by
  cases param with
  | none => simpa [areLegal] using hbody
  | some p => simpa [areLegal] using ⟨hparam, hbody⟩

theorem isReadable_aggregation {op : String} {body : Expr} {byLabels withoutLabels : List String}
    {param : Option Expr} (h : (aggregation op body byLabels withoutLabels param).isLegal = true)
    (hbody : body.IsReadable) (hparam : ∀ e ∈ param, e.IsReadable) :
    (aggregation op body byLabels withoutLabels param).IsReadable := by
  intro e' r r' h' hr hr' heq
  have hshape := shapeOf_kind_eq h h' hr hr' heq
  cases e' with
  | aggregation op' body' byLabels' withoutLabels' param' =>
    simp only [isLegal, Bool.and_eq_true, Bool.or_eq_true, List.isEmpty_iff,
      List.all_eq_true] at h h'
    obtain ⟨⟨⟨⟨hop, hnames⟩, hone⟩, hlegalParam⟩, hlegalBody⟩ := h
    obtain ⟨⟨⟨⟨hop', hnames'⟩, hone'⟩, hlegalParam'⟩, hlegalBody'⟩ := h'
    have hname : ∀ name, aggregators.contains name = true → ∀ c ∈ name.toList, isNameChar c = true :=
      fun name hname => isNameChar_of_isName
        ((by decide : ∀ a ∈ aggregators, isName a = true) name (List.contains_iff_mem.1 hname))
    have hread : ∀ e ∈ param.toList ++ [body], e.IsReadable := fun e he => by
      obtain he | he := List.mem_append.1 he
      · exact hparam e (Option.mem_toList.1 he)
      · rwa [List.mem_singleton.1 he]
    rw [render_aggregation, render_aggregation] at heq
    -- The text is taken apart from the left: the name, the labels, the arguments.
    obtain ⟨rfl, hrest⟩ := name_inj (hname op hop) (hname op' hop')
      (stops_aggregationModifier byLabels withoutLabels _)
      (stops_aggregationModifier byLabels' withoutLabels' _) heq
    obtain ⟨rfl, rfl, hrow⟩ := aggregationModifier_inj hnames hnames' hone hone' hrest
    obtain ⟨hargs, hclose⟩ := row_inj (areLegal_param hlegalParam hlegalBody)
      (areLegal_param hlegalParam' hlegalBody') hread hrow
    obtain ⟨hequal, hequalParam⟩ := equal_of_param hargs
    exact ⟨by simp [hequal, hequalParam], hclose⟩
  | raw _ => cases h'
  | unwritable _ _ => cases h'
  | _ => cases hshape

theorem isReadable_binary {left right : Expr} {op : Operator} {m : Modifiers}
    (h : (binary left op right m).isLegal = true) (hleft : left.IsReadable)
    (hright : right.IsReadable) : (binary left op right m).IsReadable := by
  intro e' r r' h' hr hr' heq
  have hshape := shapeOf_kind_eq h h' hr hr' heq
  cases e' with
  | binary left' op' right' m' =>
    simp only [isLegal, Bool.and_eq_true] at h h'
    obtain ⟨⟨hm, hlegalLeft⟩, hlegalRight⟩ := h
    obtain ⟨⟨hm', hlegalLeft'⟩, hlegalRight'⟩ := h'
    rw [render_binary, render_binary] at heq
    obtain ⟨hequalLeft, hrest⟩ := hleft left' _ _ hlegalLeft' (closes_words op m _)
      (closes_words op' m' _) (List.cons.inj heq).2
    obtain ⟨rfl, rfl, hoperand⟩ := Modifiers.words_inj hm hm'
      (render_front hlegalRight (closes_paren r)).firstWord_notMem
      (render_front hlegalRight' (closes_paren r')).firstWord_notMem
      (opensLabels_render hlegalRight r) (opensLabels_render hlegalRight' r')
      (List.cons.inj hrest).2
    obtain ⟨hequalRight, hclose⟩ := hright right' _ _ hlegalRight' (closes_paren r)
      (closes_paren r') hoperand
    exact ⟨by simp [hequalLeft, hequalRight], (List.cons.inj hclose).2⟩
  | raw _ => cases h'
  | unwritable _ _ => cases h'
  | _ => cases hshape

/-- **The text of a tree tells where it ends and which tree it is.** -/
theorem isReadable_of_isLegal {e : Expr} (h : e.isLegal = true) : e.IsReadable := by
  induction e using induct with
  | raw _ => cases h
  | unwritable _ _ => cases h
  | scalar s => exact isReadable_scalar h
  | string value => exact isReadable_string value
  | vector metric matchers offset => exact isReadable_vector h
  | range metric window matchers offset => exact isReadable_range h
  | call name args ih =>
    have hargs := areLegal_iff.1 (Bool.and_eq_true_iff.1 h).2
    exact isReadable_call h fun e he => ih e he (hargs e he)
  | aggregation op body byLabels withoutLabels param ihBody ihParam =>
    have hlegal := h
    simp only [isLegal, Bool.and_eq_true] at hlegal
    refine isReadable_aggregation h (ihBody hlegal.2) fun e he => ihParam e he ?_
    rw [Option.mem_def.1 he] at hlegal
    exact hlegal.1.2
  | binary left op right m ihLeft ihRight =>
    have hlegal := h
    simp only [isLegal, Bool.and_eq_true] at hlegal
    exact isReadable_binary h (ihLeft hlegal.1.2) (ihRight hlegal.2)

/-- **Trees with the same text are equal**, so no structure is lost when a tree is written. -/
theorem equal_of_render {e e' : Expr} (h : e.isLegal = true) (h' : e'.isLegal = true)
    (hrender : e.render = e'.render) : e.equal e' = true :=
  (isReadable_of_isLegal h e' [] [] h' (.inl rfl) (.inl rfl) (by rw [hrender])).1

/-- A ratio with delimiters inside its texts, written with either zero. -/
theorem equal_of_render_zeros :
    let tree (negative : Bool) := binary
      (aggregation "sum" (call "rate" [range "errors_total" ⟨300000000000⟩
        [⟨"path", .regex, "a\"\x7d[5m]) or \\"⟩] (some ⟨1000000⟩)]) ["job"] [] none)
      .greater (binary (scalar (.float (.zero negative))) .add (call "label_replace"
        [vector "" [⟨"job", .equal, ""⟩] none, string "),\""]) {})
      { on := ["job"], groupLeft := some [], returnBool := true }
    (tree false).isLegal = true ∧ (tree true).isLegal = true ∧
      (tree false).render = (tree true).render ∧ (tree false).equal (tree true) = true := by
  intro tree
  have hlegal : (tree false).isLegal = true := by decide
  have hlegal' : (tree true).isLegal = true := by decide
  have hrender : (tree false).render = (tree true).render := by decide
  exact ⟨hlegal, hlegal', hrender, equal_of_render hlegal hlegal' hrender⟩

end Expr

end MonitoringConfig.Promql
