import Mathlib.Data.List.Forall2
import MonitoringConfig.Promql.Text
import MonitoringConfig.Proofs.Duration
import MonitoringConfig.Proofs.Matcher
/-!
# The parts of expression texts

The text of each part of an expression tells where the part ends: two texts that start with such
parts and agree as a whole agree in the parts and in what stands behind them.

* `append_inj_of_stops` : runs of characters of one class.
* `readQuoted_escape`, `readQuoted_escapeString` : texts between quotes, whatever stands in them.
* `behind_inj` : rows with commas between their items.
* `selectorText_inj`, `offsetText_inj`, `labelsText_inj` : selections, offsets, lists of labels.
-/

namespace MonitoringConfig.Promql

/-! ### Runs of characters -/

/-- Whether a text does not go on with a character of a class. -/
def Stops (p : Char → Bool) (cs : List Char) : Prop :=
  ∀ c ∈ cs.head?, p c = false

@[simp] theorem stops_nil (p : Char → Bool) : Stops p [] := by simp [Stops]

@[simp] theorem stops_cons (p : Char → Bool) (c : Char) (cs : List Char) :
    Stops p (c :: cs) ↔ p c = false := by
  simp [Stops]

theorem takeWhile_append_of_stops {p : Char → Bool} {as r : List Char} (has : ∀ c ∈ as, p c = true)
    (hr : Stops p r) : (as ++ r).takeWhile p = as ∧ (as ++ r).dropWhile p = r := by
  rw [List.takeWhile_append_of_pos has, List.dropWhile_append_of_pos has]
  cases r with
  | nil => simp
  | cons c cs => simp [(stops_cons p c cs).1 hr]

/-- Two runs of characters of a class agree if the texts they start agree. -/
theorem append_inj_of_stops {p : Char → Bool} {as bs r r' : List Char}
    (has : ∀ c ∈ as, p c = true) (hbs : ∀ c ∈ bs, p c = true) (hr : Stops p r) (hr' : Stops p r')
    (h : as ++ r = bs ++ r') : as = bs ∧ r = r' := by
  obtain ⟨htake, hdrop⟩ := takeWhile_append_of_stops has hr
  obtain ⟨htake', hdrop'⟩ := takeWhile_append_of_stops hbs hr'
  exact ⟨by rw [← htake, h, htake'], by rw [← hdrop, h, hdrop']⟩

/-! ### Quotes -/

/-- The text up to the first quote that is not escaped, and what stands behind that quote. -/
def readQuoted : List Char → Option (List Char × List Char)
  | [] => none
  | '"' :: cs => some ([], cs)
  | '\\' :: c :: cs => (readQuoted cs).map fun (v, r) => (Matcher.escaped c :: v, r)
  | c :: cs => (readQuoted cs).map fun (v, r) => (c :: v, r)

theorem readQuoted_cons {c : Char} (hquote : c ≠ '"') (hslash : c ≠ '\\') (cs : List Char) :
    readQuoted (c :: cs) = (readQuoted cs).map fun (v, r) => (c :: v, r) :=
  readQuoted.eq_4 c cs (fun h => hquote h) (fun _ _ h _ => hslash h)

/-- The value of a matcher is read back from between its quotes. -/
theorem readQuoted_escape (v r : List Char) :
    readQuoted (Matcher.escape v ++ '"' :: r) = some (v, r) := by
  fun_induction Matcher.escape v with
  | case1 => rfl
  | case2 cs ih => simp [readQuoted, Matcher.escaped, ih]
  | case3 cs ih => simp [readQuoted, Matcher.escaped, ih]
  | case4 cs ih => simp [readQuoted, Matcher.escaped, ih]
  | case5 c cs hslash hquote _ ih =>
    rw [List.cons_append, readQuoted_cons hquote hslash, ih]
    rfl

/-- A text is read back from between its quotes. -/
theorem readQuoted_escapeString (v r : List Char) :
    readQuoted (escapeString v ++ '"' :: r) = some (v, r) := by
  fun_induction escapeString v with
  | case1 => rfl
  | case2 cs ih => simp [readQuoted, Matcher.escaped, ih]
  | case3 cs ih => simp [readQuoted, Matcher.escaped, ih]
  | case4 c cs hslash hquote ih =>
    rw [List.cons_append, readQuoted_cons hquote hslash, ih]
    rfl

theorem stringText_inj {v v' : String} {r r' : List Char}
    (h : (stringText v).toList ++ r = (stringText v').toList ++ r') : v = v' ∧ r = r' := by
  have hquoted : ∀ w s, (stringText w).toList ++ s =
      '"' :: (escapeString w.toList ++ '"' :: s) := fun w s => by simp [stringText]
  rw [hquoted, hquoted, List.cons_inj_right] at h
  have hread := readQuoted_escapeString v.toList r
  rw [h, readQuoted_escapeString, Option.some.injEq, Prod.mk.injEq] at hread
  exact ⟨String.toList_injective hread.1.symm, hread.2.symm⟩

/-! ### Rows with commas -/

/-- What stands behind the first item of a row: the other items, each behind a comma, and what
closes the row. -/
def behind (close : List Char) : List (List Char) → List Char
  | [] => close
  | t :: ts => ',' :: (t ++ behind close ts)

theorem intercalate_append (t : List Char) (ts : List (List Char)) (close : List Char) :
    List.intercalate [','] (t :: ts) ++ close = t ++ behind close ts := by
  induction ts generalizing t with
  | nil => simp [behind]
  | cons u us ih =>
    rw [List.intercalate_cons_cons, List.append_assoc, ih, behind]
    simp

theorem follows_behind {Follows : List Char → Prop} (hcomma : ∀ cs, Follows (',' :: cs))
    {close : List Char} (hclose : Follows close) (ts : List (List Char)) :
    Follows (behind close ts) := by
  cases ts with
  | nil => exact hclose
  | cons t ts => exact hcomma _

/-- Two rows agree item by item if what stands behind their first items agrees. -/
theorem behind_inj {α : Type} {text : α → List Char} {R : α → α → Prop}
    (Follows : List Char → Prop) (hcomma : ∀ cs, Follows (',' :: cs)) {c : Char} (hc : c ≠ ',')
    {r r' : List Char} (hr : Follows (c :: r)) (hr' : Follows (c :: r')) {xs ys : List α}
    (hread : ∀ x ∈ xs, ∀ y ∈ ys, ∀ s s', Follows s → Follows s' → text x ++ s = text y ++ s' →
      R x y ∧ s = s')
    (h : behind (c :: r) (xs.map text) = behind (c :: r') (ys.map text)) :
    List.Forall₂ R xs ys ∧ r = r' := by
  induction xs generalizing ys with
  | nil =>
    cases ys with
    | nil => exact ⟨.nil, (List.cons.inj h).2⟩
    | cons y ys => exact absurd (List.cons.inj h).1 hc
  | cons x xs ih =>
    cases ys with
    | nil => exact absurd (List.cons.inj h).1.symm hc
    | cons y ys =>
      obtain ⟨hxy, hrest⟩ := hread x List.mem_cons_self y List.mem_cons_self _ _
        (follows_behind hcomma hr _) (follows_behind hcomma hr' _) (List.cons.inj h).2
      obtain ⟨htail, hclose⟩ := ih (fun x' hx' y' hy' => hread x' (List.mem_cons_of_mem _ hx') y'
        (List.mem_cons_of_mem _ hy')) hrest
      exact ⟨.cons hxy htail, hclose⟩

/-! ### Names and labels -/

/-- Whether a character can stand in a name. -/
def isNameChar (c : Char) : Bool :=
  c.isAlphanum || c == '_' || c == ':'

/-- Whether a text is a name: letters, digits, underscores and colons, with no digit in front. -/
def isName (s : String) : Bool :=
  match s.toList with
  | [] => false
  | c :: cs => !c.isDigit && (c :: cs).all isNameChar

theorem isNameChar_of_isName {s : String} (h : isName s = true) :
    ∀ c ∈ s.toList, isNameChar c = true := by
  rw [isName] at h
  split at h
  · cases h
  · next hs =>
    rw [hs]
    exact List.all_eq_true.1 (Bool.and_eq_true_iff.1 h).2

theorem name_inj {s s' : String} {r r' : List Char} (hs : ∀ c ∈ s.toList, isNameChar c = true)
    (hs' : ∀ c ∈ s'.toList, isNameChar c = true) (hr : Stops isNameChar r)
    (hr' : Stops isNameChar r') (h : s.toList ++ r = s'.toList ++ r') : s = s' ∧ r = r' := by
  obtain ⟨htext, hrest⟩ := append_inj_of_stops hs hs' hr hr' h
  exact ⟨String.toList_injective htext, hrest⟩

theorem labelsText_append (l : String) (ls : List String) (r : List Char) :
    (labelsText (l :: ls)).toList ++ r =
      '(' :: (l.toList ++ behind (')' :: r) (ls.map String.toList)) := by
  rw [← intercalate_append]
  simp [labelsText, String.toList_intercalate]

/-- A list of labels tells where it ends. -/
theorem labelsText_inj {ls ls' : List String} {r r' : List Char} (hne : ls ≠ []) (hne' : ls' ≠ [])
    (hls : ∀ l ∈ ls, isName l = true) (hls' : ∀ l ∈ ls', isName l = true)
    (h : (labelsText ls).toList ++ r = (labelsText ls').toList ++ r') : ls = ls' ∧ r = r' := by
  obtain ⟨l, ls, rfl⟩ := List.exists_cons_of_ne_nil hne
  obtain ⟨l', ls', rfl⟩ := List.exists_cons_of_ne_nil hne'
  have hcomma : ∀ cs, Stops isNameChar (',' :: cs) := fun cs => (stops_cons ..).2 rfl
  have hclose : ∀ cs, Stops isNameChar (')' :: cs) := fun cs => (stops_cons ..).2 rfl
  rw [labelsText_append, labelsText_append, List.cons_inj_right] at h
  obtain ⟨rfl, hrest⟩ := name_inj (isNameChar_of_isName (hls l List.mem_cons_self))
    (isNameChar_of_isName (hls' l' List.mem_cons_self)) (follows_behind hcomma (hclose r) _)
    (follows_behind hcomma (hclose r') _) h
  obtain ⟨htail, hrest⟩ := behind_inj (R := Eq) _ hcomma (by decide) (hclose r) (hclose r')
    (fun x hx y hy s s' hs hs' hxy =>
      name_inj (isNameChar_of_isName (hls x (List.mem_cons_of_mem _ hx)))
        (isNameChar_of_isName (hls' y (List.mem_cons_of_mem _ hy))) hs hs' hxy) hrest
  rw [List.forall₂_eq_eq_eq] at htail
  exact ⟨by rw [htail], hrest⟩

/-! ### Durations -/

/-- Whether a character can stand in the text of a duration. -/
def isDurationChar (c : Char) : Bool :=
  c.isDigit || ['-', 'h', 'm', 's', 'd', 'w', 'y'].contains c

theorem isDurationChar_format (d : Duration) : ∀ c ∈ d.format.toList, isDurationChar c = true := by
  have hbody : ∀ ts : List Duration.Token, ∀ c ∈ ts.flatMap Duration.Token.text,
      isDurationChar c = true := fun ts c hc => by
    obtain ⟨t, -, hc⟩ := List.mem_flatMap.1 hc
    obtain hc | hc := List.mem_append.1 hc
    · have hdigit := Nat.isDigit_of_mem_toDigits (by decide) (by decide) hc
      rw [isDurationChar, hdigit, Bool.true_or]
    · have hunit : ∀ u : Duration.TimeUnit, ∀ c ∈ u.symbol, isDurationChar c = true := fun u =>
        List.all_eq_true.1 (by cases u <;> decide)
      exact hunit t.unit c hc
  rw [Duration.format]
  split
  · exact List.all_eq_true.1 (by decide)
  · rw [String.toList_ofList]
    split
    · exact List.forall_mem_cons.2 ⟨rfl, hbody _⟩
    · exact hbody _

/-- A duration of whole milliseconds tells where it ends. -/
theorem duration_inj {d d' : Duration} {r r' : List Char} (hd : d.isWholeMillis = true)
    (hd' : d'.isWholeMillis = true) (hr : Stops isDurationChar r) (hr' : Stops isDurationChar r')
    (h : d.format.toList ++ r = d'.format.toList ++ r') : d = d' ∧ r = r' := by
  obtain ⟨htext, hrest⟩ := append_inj_of_stops (isDurationChar_format d) (isDurationChar_format d')
    hr hr' h
  have hread := d.parse_format
  rw [String.toList_injective htext, d'.parse_format, Duration.truncated_eq_self hd,
    Duration.truncated_eq_self hd'] at hread
  exact ⟨(Except.ok.inj hread).symm, hrest⟩

/-! ### Selections -/

/-- A matcher tells where it ends. -/
theorem matcher_inj {m m' : Matcher} {r r' : List Char} (hm : isName m.name = true)
    (hm' : isName m'.name = true) (h : m.format.toList ++ r = m'.format.toList ++ r') :
    m = m' ∧ r = r' := by
  have htext : ∀ (n : Matcher) (s : List Char), n.format.toList ++ s =
      n.name.toList ++ (n.op.symbol.toList ++ '"' :: (Matcher.escape n.value.toList ++ '"' :: s)) :=
    fun n s => by simp [Matcher.format]
  have hop : ∀ (op : MatchType) (s : List Char), Stops isNameChar (op.symbol.toList ++ s) :=
    fun op s => by cases op <;> exact (stops_cons ..).2 rfl
  obtain ⟨name, op, value⟩ := m
  obtain ⟨name', op', value'⟩ := m'
  rw [htext, htext] at h
  obtain ⟨hname, hrest⟩ := name_inj (isNameChar_of_isName hm) (isNameChar_of_isName hm')
    (hop _ _) (hop _ _) h
  have hread := Matcher.readOp_symbol op (Matcher.escape value.toList ++ '"' :: r)
  rw [hrest, Matcher.readOp_symbol, Option.some.injEq, Prod.mk.injEq, List.cons_inj_right] at hread
  obtain ⟨hops, hvalues⟩ := hread
  have hquoted := readQuoted_escape value.toList r
  rw [← hvalues, readQuoted_escape, Option.some.injEq, Prod.mk.injEq] at hquoted
  refine ⟨?_, hquoted.2.symm⟩
  rw [Matcher.mk.injEq]
  exact ⟨hname, hops.symm, String.toList_injective hquoted.1.symm⟩

/-- Whether a metric name and matchers select something by names that can be told apart from what
stands behind them. -/
def isSelector (metric : String) (matchers : List Matcher) : Bool :=
  (isName metric || metric.isEmpty && !matchers.isEmpty) && matchers.all (isName ·.name)

theorem selectorText_append (metric : String) (m : Matcher) (ms : List Matcher) (r : List Char) :
    (selectorText metric (m :: ms)).toList ++ r = metric.toList ++
      '\x7b' :: (m.format.toList ++ behind ('\x7d' :: r) (ms.map fun n => n.format.toList)) := by
  have hrow := intercalate_append m.format.toList (ms.map fun n => n.format.toList) ('\x7d' :: r)
  rw [← hrow]
  simp [selectorText, String.toList_intercalate, Function.comp_def]

/-- A selection tells where it ends. -/
theorem selectorText_inj {metric metric' : String} {ms ms' : List Matcher} {r r' : List Char}
    (hs : isSelector metric ms = true) (hs' : isSelector metric' ms' = true)
    (hr : Stops (fun c => isNameChar c || c == '\x7b') r)
    (hr' : Stops (fun c => isNameChar c || c == '\x7b') r')
    (h : (selectorText metric ms).toList ++ r = (selectorText metric' ms').toList ++ r') :
    metric = metric' ∧ ms = ms' ∧ r = r' := by
  have hchars : ∀ {n ns}, isSelector n ns = true → ∀ c ∈ n.toList, isNameChar c = true :=
    fun {n ns} hn => by
      simp only [isSelector, Bool.and_eq_true, Bool.or_eq_true, String.isEmpty_iff] at hn
      obtain ⟨hname | ⟨rfl, -⟩, -⟩ := hn
      · exact isNameChar_of_isName hname
      · simp
  have hmatchers : ∀ {n ns}, isSelector n ns = true → ∀ m ∈ ns, isName m.name = true :=
    fun hn => List.all_eq_true.1 (Bool.and_eq_true_iff.1 hn).2
  have hname : ∀ {s}, Stops (fun c => isNameChar c || c == '\x7b') s → Stops isNameChar s :=
    fun hs c hc => (Bool.or_eq_false_iff.1 (hs c hc)).1
  have hbrace : ∀ cs, Stops isNameChar ('\x7b' :: cs) := fun cs => (stops_cons ..).2 rfl
  -- A brace stands behind the metric just if there are matchers.
  cases ms with
  | nil =>
    cases ms' with
    | nil =>
      obtain ⟨hmetric, hrest⟩ := name_inj (hchars hs) (hchars hs') (hname hr) (hname hr') h
      exact ⟨hmetric, rfl, hrest⟩
    | cons m' ms' =>
      rw [selectorText_append] at h
      obtain ⟨-, rfl⟩ := name_inj (hchars hs) (hchars hs') (hname hr) (hbrace _) h
      exact absurd ((stops_cons ..).1 hr) (by decide)
  | cons m ms =>
    cases ms' with
    | nil =>
      rw [selectorText_append] at h
      obtain ⟨-, rfl⟩ := name_inj (hchars hs) (hchars hs') (hbrace _) (hname hr') h
      exact absurd ((stops_cons ..).1 hr') (by decide)
    | cons m' ms' =>
      rw [selectorText_append, selectorText_append] at h
      obtain ⟨hmetric, hrest⟩ := name_inj (hchars hs) (hchars hs') (hbrace _) (hbrace _) h
      obtain ⟨rfl, hbehind⟩ := matcher_inj (hmatchers hs m List.mem_cons_self)
        (hmatchers hs' m' List.mem_cons_self) (List.cons.inj hrest).2
      obtain ⟨htail, hrest⟩ := behind_inj (R := Eq) (fun _ => True) (fun _ => trivial)
        (by decide) trivial trivial (fun x hx y hy s s' _ _ hxy =>
          matcher_inj (hmatchers hs x (List.mem_cons_of_mem _ hx))
            (hmatchers hs' y (List.mem_cons_of_mem _ hy)) hxy) hbehind
      rw [List.forall₂_eq_eq_eq] at htail
      exact ⟨hmetric, by rw [htail], hrest⟩

end MonitoringConfig.Promql
