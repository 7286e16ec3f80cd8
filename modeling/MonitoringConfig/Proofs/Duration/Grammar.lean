import Mathlib.Algebra.BigOperators.Group.List.Basic
import Mathlib.Algebra.Ring.Int.Defs
import Mathlib.Tactic.Choose
import MonitoringConfig.Projection.Wire
/-!
# The grammar of durations

The reader of durations takes one token after the other and prefers `ms` to `m`. What it accepts is
said here without a reader: a row of tokens, each some digits and the name of a unit.

* `Duration.Spells` : the grammar.
* `Duration.Starts` : the token at the front of a text, as the reader takes it.
* `Duration.tokens_eq_ok` : the reader accepts what the grammar spells, so that a text is spelled in
  one way.
* `Duration.tokens_eq_error` : **the reader stops at the end of the longest row of tokens at the
  front of the text.**
* `Duration.parseValue_eq_ok`, `Duration.parseValue_eq_error` : the texts of durations, what they
  mean, and what is said of all others.
* `Duration.Spells.millisecond` : where digits end in `ms`, the token is one of milliseconds.
-/

namespace MonitoringConfig

namespace Duration

variable {cs ds rest : List Char} {ts : List Token} {u : TimeUnit} {start : Nat}

/-! ### The grammar -/

/-- The number that digits denote. -/
def numberOf (ds : List Char) : Nat :=
  Nat.ofDigitChars 10 ds 0

/-- Whether a text has digits, and nothing else. -/
def IsDigits (ds : List Char) : Prop :=
  ds ≠ [] ∧ ∀ c ∈ ds, c.isDigit = true

/-- Whether a text is a row of tokens: each has digits, and behind them the name of its unit. -/
inductive Spells : List Char → List Token → Prop
  | nil : Spells [] []
  | cons {ds cs : List Char} {ts : List Token} (hds : IsDigits ds) (u : TimeUnit)
      (hcs : Spells cs ts) : Spells (ds ++ (u.symbol ++ cs)) (⟨numberOf ds, u⟩ :: ts)

/-- The token at the front of a text, and what stands behind it. An `m` with an `s` behind it is no
unit by itself. -/
structure Starts (cs ds : List Char) (u : TimeUnit) (rest : List Char) : Prop where
  digits : IsDigits ds
  split : cs = ds ++ (u.symbol ++ rest)
  whole : u = .minute → rest.head? ≠ some 's'

/-- No unit starts with a digit. -/
theorem not_isDigit_of_symbol {c : Char} {cs : List Char} (h : u.symbol ++ rest = c :: cs) :
    c.isDigit = false := by
  cases u <;> (cases h; rfl)

theorem Spells.append {cs' : List Char} {ts' : List Token} (h : Spells cs ts)
    (h' : Spells cs' ts') : Spells (cs ++ cs') (ts ++ ts') := by
  induction h with
  | nil => exact h'
  | cons hds u _ ih =>
    rw [List.append_assoc, List.append_assoc]
    exact .cons hds u ih

/-- A row of tokens is empty or starts with a digit. -/
theorem Spells.head (h : Spells cs ts) : ∀ c, cs.head? = some c → c.isDigit = true := by
  intro c hc
  cases h with
  | nil => cases hc
  | @cons ds _ _ hds u _ =>
    obtain ⟨hne, hdigits⟩ := hds
    cases ds with
    | nil => exact absurd rfl hne
    | cons d ds =>
      cases hc
      exact hdigits _ List.mem_cons_self

theorem Spells.head_ne (h : Spells cs ts) : cs.head? ≠ some 's' := by
  intro hs
  exact absurd (h.head _ hs) (by decide)

/-! ### The first token -/

/-- Digits end where something else starts. -/
theorem digits_append_inj {ds ds' xs xs' : List Char} (hds : ∀ c ∈ ds, c.isDigit = true)
    (hds' : ∀ c ∈ ds', c.isDigit = true) (hxs : ∀ c, xs.head? = some c → c.isDigit = false)
    (hxs' : ∀ c, xs'.head? = some c → c.isDigit = false) (h : ds ++ xs = ds' ++ xs') :
    ds = ds' ∧ xs = xs' := by
  have htake : ∀ {ds xs : List Char}, (∀ c ∈ ds, c.isDigit = true) →
      (∀ c, xs.head? = some c → c.isDigit = false) → (ds ++ xs).takeWhile Char.isDigit = ds := by
    intro ds xs hds hxs
    rw [List.takeWhile_append_of_pos hds]
    cases xs with
    | nil => simp
    | cons c xs => simp [hxs c rfl]
  have heq : ds = ds' := by
    rw [← htake hds hxs, h, htake hds' hxs']
  subst heq
  exact ⟨rfl, List.append_cancel_left h⟩

theorem symbol_head (u : TimeUnit) (rest : List Char) :
    ∀ c, (u.symbol ++ rest).head? = some c → c.isDigit = false := by
  intro c hc
  obtain ⟨cs, hcs⟩ := List.head?_eq_some_iff.1 hc
  exact not_isDigit_of_symbol hcs

/-- Two units at one place are the same, or the minute is the front of the millisecond. -/
theorem symbol_append_inj {u u' : TimeUnit} {rest rest' : List Char}
    (h : u.symbol ++ rest = u'.symbol ++ rest') :
    (u = u' ∧ rest = rest') ∨ (u = .minute ∧ u' = .millisecond ∧ rest = 's' :: rest') ∨
      (u = .millisecond ∧ u' = .minute ∧ rest' = 's' :: rest) := by
  cases u <;> cases u' <;> simp_all [TimeUnit.symbol]

theorem Starts.spells (h : Starts cs ds u rest) (hrest : Spells rest ts) :
    Spells cs (⟨numberOf ds, u⟩ :: ts) := by
  rw [h.split]
  exact .cons h.digits u hrest

theorem Starts.length (h : Starts cs ds u rest) :
    cs.length = ds.length + u.symbol.length + rest.length := by
  rw [h.split, List.length_append, List.length_append]
  omega

theorem Starts.length_lt (h : Starts cs ds u rest) : rest.length < cs.length := by
  have hpos := List.length_pos_iff.2 h.digits.1
  have hlength := h.length
  omega

/-! ### One token read -/

theorem readTokens_digits (hds : ∀ c ∈ ds, c.isDigit = true) (rest : List Char)
    (start position : Nat) (count : Option Nat) (hne : ds ≠ []) :
    readTokens start position count (ds ++ rest) =
      readTokens start (position + ds.length) (some (Nat.ofDigitChars 10 ds (count.getD 0)))
        rest := by
  induction ds generalizing position count with
  | nil => exact absurd rfl hne
  | cons c ds ih =>
    have hc : c.isDigit = true := hds c List.mem_cons_self
    have hlength : position + (c :: ds).length = position + 1 + ds.length := by
      simp only [List.length_cons]
      omega
    rw [List.cons_append, readTokens.eq_def, hlength, Nat.ofDigitChars_cons]
    simp only [hc, if_true]
    cases ds with
    | nil => rfl
    | cons d ds =>
      exact ih (fun d hd => hds d (List.mem_cons_of_mem _ hd)) _ _ (List.cons_ne_nil _ _)

/-- The name of a unit ends a token, if no letter follows that could belong to it. -/
theorem readTokens_symbol (start position n : Nat) (u : TimeUnit)
    (hrest : u = .minute → rest.head? ≠ some 's') :
    readTokens start position (some n) (u.symbol ++ rest) =
      (readTokens (position + u.symbol.length) (position + u.symbol.length) none rest).map
        (⟨n, u⟩ :: ·) := by
  -- an `m` is the minute only because no `s` follows it
  cases u with
  | minute =>
    cases rest with
    | nil => simp [TimeUnit.symbol, readTokens, TimeUnit.ofLetter?]
    | cons c cs =>
      have hne : c ≠ 's' := fun h => hrest rfl (by rw [h]; rfl)
      simp [TimeUnit.symbol, readTokens, TimeUnit.ofLetter?, hne]
  | millisecond => simp [TimeUnit.symbol, readTokens]
  | second | hour | day | week | year =>
    simp [TimeUnit.symbol, readTokens, TimeUnit.ofLetter?]

/-- **The token at the front of a text is read first.** -/
theorem readTokens_of_starts (h : Starts cs ds u rest) (start : Nat) :
    readTokens start start none cs =
      (readTokens (start + (ds.length + u.symbol.length)) (start + (ds.length + u.symbol.length))
        none rest).map (⟨numberOf ds, u⟩ :: ·) := by
  rw [h.split, readTokens_digits h.digits.2 _ _ _ _ h.digits.1, readTokens_symbol _ _ _ _ h.whole,
    ← Nat.add_assoc]
  rfl

theorem ofLetter_symbol {c : Char} (h : TimeUnit.ofLetter? c = some u) : u.symbol = [c] := by
  unfold TimeUnit.ofLetter? at h
  split at h <;> cases h <;> rfl

/-- Behind a number stands the name of a unit, or nothing can be read. -/
theorem readTokens_number {xs : List Char}
    (hxs : ∀ c, xs.head? = some c → c.isDigit = false) (start position n : Nat) :
    (∃ (u : TimeUnit) (rest : List Char), xs = u.symbol ++ rest ∧
      (u = .minute → rest.head? ≠ some 's')) ∨
      readTokens start position (some n) xs = .error start := by
  cases xs with
  | nil => exact .inr rfl
  | cons c xs =>
    have hc : c.isDigit = false := hxs c rfl
    rw [readTokens.eq_def]
    simp only [hc, Bool.false_eq_true, if_false]
    split
    · next rest => exact .inl ⟨.millisecond, rest, rfl, fun h => nomatch h⟩
    · next hms =>
      cases hletter : TimeUnit.ofLetter? c with
      | none => exact .inr rfl
      | some u =>
        refine .inl ⟨u, xs, by rw [ofLetter_symbol hletter]; rfl, fun hu hs => ?_⟩
        obtain ⟨rest, rfl⟩ := List.head?_eq_some_iff.1 hs
        have hm := ofLetter_symbol hletter
        rw [hu] at hm
        exact hms rest (List.cons.inj hm).1.symm rfl

/-- Where no token starts, no token is read. -/
theorem readTokens_eq_error (hne : cs ≠ []) (h : ∀ ds u rest, ¬ Starts cs ds u rest)
    (start : Nat) : readTokens start start none cs = .error start := by
  have hsplit : cs = cs.takeWhile Char.isDigit ++ cs.dropWhile Char.isDigit :=
    List.takeWhile_append_dropWhile.symm
  have hdigits : ∀ c ∈ cs.takeWhile Char.isDigit, c.isDigit = true :=
    List.all_eq_true.1 List.all_takeWhile
  have hbehind : ∀ c, (cs.dropWhile Char.isDigit).head? = some c → c.isDigit = false := by
    intro c hc
    have hfirst := List.head?_dropWhile_not Char.isDigit cs
    rw [hc] at hfirst
    simpa using hfirst
  -- A token starts with digits, and behind them with the name of a unit.
  by_cases hnone : cs.takeWhile Char.isDigit = []
  · rw [hnone, List.nil_append] at hsplit
    rw [← hsplit] at hbehind
    cases cs with
    | nil => exact absurd rfl hne
    | cons c cs =>
      have hc : c.isDigit = false := hbehind c rfl
      rw [readTokens.eq_def]
      simp only [hc, Bool.false_eq_true, if_false]
  · rw [hsplit, readTokens_digits hdigits _ _ _ _ hnone]
    obtain ⟨u, rest, hxs, hwhole⟩ | herror := readTokens_number hbehind start
      (start + (cs.takeWhile Char.isDigit).length)
      (Nat.ofDigitChars 10 (cs.takeWhile Char.isDigit) ((none : Option Nat).getD 0))
    · exact absurd ⟨⟨hnone, hdigits⟩, by rw [← hxs, ← hsplit], hwhole⟩ (h _ u rest)
    · exact herror

/-! ### Rows of tokens -/

/-- **The reader accepts what the grammar spells.** -/
theorem readTokens_of_spells (h : Spells cs ts) (start : Nat) :
    readTokens start start none cs = .ok ts := by
  induction h generalizing start with
  | nil => rfl
  | cons hds u hcs ih =>
    rw [readTokens_of_starts ⟨hds, rfl, fun _ => hcs.head_ne⟩, ih]
    rfl

/-- The longest row of tokens at the front of a text. -/
structure LongestFront (cs front : List Char) : Prop where
  atFront : front <+: cs
  spelled : ∃ ts, Spells front ts
  longest : ∀ other, other <+: cs → (∃ ts, Spells other ts) → other.length ≤ front.length

/-- Digits and the name of a unit are a token, if only because an `s` belongs to them. -/
theorem exists_starts (hds : IsDigits ds) (u : TimeUnit) (rest : List Char) :
    ∃ u' rest', Starts (ds ++ (u.symbol ++ rest)) ds u' rest' := by
  by_cases h : u = .minute ∧ rest.head? = some 's'
  · obtain ⟨rfl, hs⟩ := h
    obtain ⟨rest', rfl⟩ := List.head?_eq_some_iff.1 hs
    exact ⟨.millisecond, rest', hds, rfl, fun h => nomatch h⟩
  · exact ⟨u, rest, hds, rfl, fun hu hs => h ⟨hu, hs⟩⟩

/-- Where no token starts, no row of tokens is at the front. -/
theorem longestFront_nil (h : ∀ ds u rest, ¬ Starts cs ds u rest) : LongestFront cs [] where
  atFront := List.nil_prefix
  spelled := ⟨[], .nil⟩
  longest := by
    rintro other ⟨behind, rfl⟩ ⟨ts, hother⟩
    cases hother with
    | nil => exact Nat.le_refl _
    | @cons ds cs _ hds u _ =>
      obtain ⟨u', rest', hstarts⟩ := exists_starts hds u (cs ++ behind)
      rw [← List.append_assoc u.symbol, ← List.append_assoc] at hstarts
      exact absurd hstarts (h ds u' rest')

/-- The longest row goes on behind the token at the front. -/
theorem Starts.longestFront {front : List Char} (h : Starts cs ds u rest)
    (hfront : LongestFront rest front) : LongestFront cs (ds ++ (u.symbol ++ front)) where
  atFront := by
    obtain ⟨behind, rfl⟩ := hfront.atFront
    exact ⟨behind, by rw [h.split, List.append_assoc, List.append_assoc]⟩
  spelled := by
    obtain ⟨ts, hts⟩ := hfront.spelled
    exact ⟨_, .cons h.digits u hts⟩
  longest := by
    rintro other ⟨behind, hsplit⟩ ⟨ts, hother⟩
    cases hother with
    | nil => exact Nat.zero_le _
    | @cons ds' cs' ts' hds' u' hcs' =>
      rw [h.split, List.append_assoc, List.append_assoc] at hsplit
      obtain ⟨rfl, hrest⟩ := digits_append_inj hds'.2 h.digits.2 (symbol_head u' _)
        (symbol_head u rest) hsplit
      simp only [List.length_append]
      obtain ⟨rfl, hsame⟩ | ⟨rfl, rfl, hs⟩ | ⟨-, rfl, hs⟩ := symbol_append_inj hrest
      · have hle := hfront.longest cs' ⟨behind, hsame⟩ ⟨ts', hcs'⟩
        omega
      · -- the other row takes the minute for the millisecond, and ends there
        have hnil : cs' = [] := by
          cases cs' with
          | nil => rfl
          | cons c cs' =>
            cases hs
            exact absurd rfl hcs'.head_ne
        simp only [hnil, List.length_nil, TimeUnit.symbol, List.length_cons]
        omega
      · exact absurd (by rw [hs]; rfl) (h.whole rfl)

/-- **What the reader gives for a text** is a row of tokens that the text spells, or the end of the
longest row of tokens at the front of the text. -/
theorem readTokens_spec (cs : List Char) (start : Nat) :
    (∃ ts, readTokens start start none cs = .ok ts ∧ Spells cs ts) ∨
      ∃ front, LongestFront cs front ∧
        readTokens start start none cs = .error (start + front.length) := by
  induction hlength : cs.length using Nat.strongRecOn generalizing cs start with
  | _ n ih =>
    by_cases hstarts : ∃ ds u rest, Starts cs ds u rest
    · obtain ⟨ds, u, rest, h⟩ := hstarts
      rw [readTokens_of_starts h]
      obtain ⟨ts, hread, hts⟩ | ⟨front, hfront, hread⟩ :=
        ih rest.length (hlength ▸ h.length_lt) rest (start + (ds.length + u.symbol.length)) rfl
      · rw [hread]
        exact .inl ⟨_, rfl, h.spells hts⟩
      · rw [hread]
        refine .inr ⟨_, h.longestFront hfront, ?_⟩
        simp only [Except.map, List.length_append]
        congr 1
        omega
    · simp only [not_exists] at hstarts
      by_cases hcs : cs = []
      · rw [hcs]
        exact .inl ⟨[], rfl, .nil⟩
      · exact .inr ⟨[], longestFront_nil hstarts, readTokens_eq_error hcs hstarts start⟩

theorem tokens_eq_ok : tokens cs = .ok ts ↔ Spells cs ts := by
  constructor
  · intro h
    obtain ⟨us, hread, hus⟩ | ⟨front, -, hread⟩ := readTokens_spec cs 0
    · cases hread.symm.trans h
      exact hus
    · cases hread.symm.trans h
  · intro h
    exact readTokens_of_spells h 0

theorem LongestFront.unique {front front' : List Char} (h : LongestFront cs front)
    (h' : LongestFront cs front') : front = front' := by
  have hlength : front.length = front'.length :=
    Nat.le_antisymm (h'.longest _ h.atFront h.spelled) (h.longest _ h'.atFront h'.spelled)
  have hprefix := List.prefix_of_prefix_length_le h.atFront h'.atFront (Nat.le_of_eq hlength)
  exact hprefix.eq_of_length hlength

theorem tokens_eq_error {position : Nat} : tokens cs = .error position ↔
    (∀ ts, ¬ Spells cs ts) ∧ ∃ front, LongestFront cs front ∧ position = front.length := by
  constructor
  · intro h
    refine ⟨fun ts hts => ?_, ?_⟩
    · cases (tokens_eq_ok.2 hts).symm.trans h
    · obtain ⟨us, hread, -⟩ | ⟨front, hfront, hread⟩ := readTokens_spec cs 0
      · cases hread.symm.trans h
      · refine ⟨front, hfront, ?_⟩
        rw [Nat.zero_add] at hread
        exact (Except.error.inj (hread.symm.trans h)).symm
  · rintro ⟨hnone, front, hfront, rfl⟩
    obtain ⟨us, -, hus⟩ | ⟨front', hfront', hread⟩ := readTokens_spec cs 0
    · exact absurd hus (hnone us)
    · rw [hfront.unique hfront', ← Nat.zero_add front'.length]
      exact hread

/-- A text is spelled in one way. -/
theorem Spells.unique {us : List Token} (h : Spells cs ts) (h' : Spells cs us) : ts = us :=
  Except.ok.inj ((tokens_eq_ok.2 h).symm.trans (tokens_eq_ok.2 h'))

/-! ### Durations -/

/-- A text behind its sign. -/
def withSign (negative : Bool) (cs : List Char) : List Char :=
  if negative then '-' :: cs else cs

theorem withSign_splitSign (cs : List Char) :
    withSign (splitSign cs).1 (splitSign cs).2 = cs := by
  unfold splitSign
  split <;> rfl

/-- The sign in front of a text that has none is split from it. -/
theorem splitSign_withSign (h : cs.head? ≠ some '-') (negative : Bool) :
    splitSign (withSign negative cs) = (negative, cs) := by
  cases negative with
  | true => rfl
  | false =>
    unfold withSign splitSign
    split
    · next rest hrest => exact absurd (by rw [show cs = '-' :: rest from hrest]; rfl) h
    · rfl

theorem Spells.splitSign (h : Spells cs ts) (negative : Bool) :
    splitSign (withSign negative cs) = (negative, cs) :=
  splitSign_withSign (fun hhead => absurd (h.head _ hhead) (by decide)) negative

theorem Spells.eq_nil_iff (h : Spells cs ts) : cs = [] ↔ ts = [] := by
  cases h with
  | nil => exact ⟨fun _ => rfl, fun _ => rfl⟩
  | cons hds u _ => simp [hds.1]

/-- **A row of tokens behind a sign is read as its duration.** -/
theorem parse_of_spells (h : Spells cs ts) (hne : ts ≠ []) (negative : Bool) :
    parse? (String.ofList (withSign negative cs)) = .ok (ofTokens negative ts) := by
  have hbody : cs.isEmpty = false := by
    rw [List.isEmpty_eq_false_iff]
    exact fun hcs => hne (h.eq_nil_iff.1 hcs)
  rw [parse?, String.toList_ofList, h.splitSign]
  simp only [hbody, Bool.false_eq_true, if_false, tokens_eq_ok.2 h]

/-- What is read of a text behind its sign. -/
theorem parse_cases (text : String) :
    ((splitSign text.toList).2 = [] ∧ parse? text = .error .empty) ∨
      (∃ ts, ts ≠ [] ∧ Spells (splitSign text.toList).2 ts ∧
        parse? text = .ok (ofTokens (splitSign text.toList).1 ts)) ∨
      (splitSign text.toList).2 ≠ [] ∧ ∃ front, LongestFront (splitSign text.toList).2 front ∧
        parse? text = .error (.malformed front.length) := by
  unfold parse?
  by_cases hbody : (splitSign text.toList).2 = []
  · exact .inl ⟨hbody, by simp [hbody]⟩
  · have hfalse : (splitSign text.toList).2.isEmpty = false := List.isEmpty_eq_false_iff.2 hbody
    simp only [hfalse, Bool.false_eq_true, if_false]
    cases hread : tokens (splitSign text.toList).2 with
    | ok ts =>
      have hts := tokens_eq_ok.1 hread
      exact .inr (.inl ⟨ts, fun h => hbody (hts.eq_nil_iff.2 h), hts, rfl⟩)
    | error position =>
      obtain ⟨-, front, hfront, rfl⟩ := tokens_eq_error.1 hread
      exact .inr (.inr ⟨hbody, front, hfront, rfl⟩)

theorem totalSize_eq_sum (ts : List Token) :
    totalSize ts = (ts.map fun t => (t.count * t.unit.size : Int)).sum := by
  induction ts with
  | nil => rfl
  | cons t ts ih =>
    rw [totalSize, ih, List.map_cons, List.sum_cons, Token.size, Int.natCast_mul]

/-! ### Parts of a row -/

/-- What ends in no digit and stands in front of digits and `ms` does not end within a unit. -/
theorem exists_symbol_append {xs : List Char} (hne : xs ≠ []) (hds : ∀ c ∈ ds, c.isDigit = true)
    (h : u.symbol ++ cs = xs ++ (ds ++ 'm' :: 's' :: rest)) : ∃ ys, xs = u.symbol ++ ys := by
  obtain ⟨ys, hxs, -⟩ | ⟨ys, hunit, hrest⟩ := List.append_eq_append_iff.1 h
  · exact ⟨ys, hxs⟩
  · cases hys : ys with
    | nil => exact ⟨[], by rw [hunit, hys, List.append_nil, List.append_nil]⟩
    | cons c cs' =>
      -- only the name of the millisecond has an end of its own, and no token starts with that
      have hc : c = 's' := by
        rw [hys] at hunit
        obtain ⟨x, xs, rfl⟩ := List.exists_cons_of_ne_nil hne
        cases u with
        | millisecond =>
          cases xs with
          | nil => exact (List.cons.inj (List.cons.inj hunit).2).1.symm
          | cons y xs => simp [TimeUnit.symbol] at hunit
        | _ => simp [TimeUnit.symbol] at hunit
      rw [hys, hc] at hrest
      cases ds with
      | nil => simp at hrest
      | cons d ds =>
        obtain ⟨rfl, -⟩ := List.cons.inj hrest
        exact absurd (hds _ List.mem_cons_self) (by decide)

theorem eq_nil_of_digits (hds : ∀ c ∈ ds, c.isDigit = true)
    (hlast : ∀ c, ds.getLast? = some c → c.isDigit = false) : ds = [] := by
  cases hc : ds.getLast? with
  | none => exact List.getLast?_eq_none_iff.1 hc
  | some c =>
    have hdigit := hds c (List.mem_of_getLast? hc)
    rw [hlast c hc] at hdigit
    cases hdigit

/-- **Where digits end in `ms`, the token is one of milliseconds**, whatever row it stands in. -/
theorem Spells.millisecond {before : List Char} (hds : ∀ c ∈ ds, c.isDigit = true)
    (hbefore : ∀ c, before.getLast? = some c → c.isDigit = false)
    (h : Spells (before ++ (ds ++ 'm' :: 's' :: rest)) ts) :
    ∃ us vs, Spells before us ∧ Spells rest vs ∧
      ts = us ++ ⟨numberOf ds, .millisecond⟩ :: vs := by
  generalize htext : before ++ (ds ++ 'm' :: 's' :: rest) = cs at h
  induction h generalizing before with
  | nil => simp at htext
  | @cons ds' cs ts' hds' u hcs ih =>
    obtain ⟨xs, hdigits, -⟩ | ⟨xs, hxs, hunit⟩ := List.append_eq_append_iff.1 htext
    · -- the first token is the one with these digits
      have hempty : before = [] := eq_nil_of_digits (fun c hc =>
        hds'.2 c (hdigits ▸ List.mem_append_left _ hc)) hbefore
      rw [hempty, List.nil_append] at htext
      have hm : ∀ c, ('m' :: 's' :: rest).head? = some c → c.isDigit = false := by
        intro c hc
        cases hc
        rfl
      obtain ⟨rfl, hms⟩ := digits_append_inj hds hds'.2 hm (symbol_head u cs) htext
      have hms : TimeUnit.millisecond.symbol ++ rest = u.symbol ++ cs := hms
      obtain ⟨rfl, rfl⟩ | ⟨h, -⟩ | ⟨-, rfl, rfl⟩ := symbol_append_inj hms
      · exact ⟨[], ts', hempty ▸ .nil, hcs, rfl⟩
      · cases h
      · exact absurd rfl hcs.head_ne
    · -- the first token stands in front of it
      have hne : xs ≠ [] := by
        rintro rfl
        rw [List.append_nil] at hxs
        exact hds'.1 (eq_nil_of_digits hds'.2 (hxs ▸ hbefore))
      obtain ⟨ys, rfl⟩ := exists_symbol_append hne hds hunit
      have hlast : ∀ c, ys.getLast? = some c → c.isDigit = false := by
        intro c hc
        refine hbefore c ?_
        rw [hxs, List.getLast?_append, List.getLast?_append, hc]
        rfl
      rw [List.append_assoc] at hunit
      obtain ⟨us, vs, hus, hvs, rfl⟩ := ih hlast (List.append_cancel_left hunit).symm
      refine ⟨⟨numberOf ds', u⟩ :: us, vs, ?_, hvs, rfl⟩
      rw [hxs]
      exact .cons hds' u hus

/-- Tokens behind each other are a row. -/
theorem spells_flatten {parts : List (List Char)} {token : List Char → Token}
    (h : ∀ p ∈ parts, Spells p [token p]) : Spells parts.flatten (parts.map token) := by
  induction parts with
  | nil => exact .nil
  | cons p parts ih =>
    rw [List.flatten_cons, List.map_cons]
    exact (h p List.mem_cons_self).append (ih fun q hq => h q (List.mem_cons_of_mem _ hq))

theorem ofTokens_perm {us : List Token} (h : ts.Perm us) (negative : Bool) :
    ofTokens negative ts = ofTokens negative us := by
  have hsum : totalSize ts = totalSize us := by
    rw [totalSize_eq_sum, totalSize_eq_sum]
    exact (h.map _).sum_eq
  rw [ofTokens, ofTokens, hsum]

/-- **The durations of rows behind each other add up.** -/
theorem ofTokens_append (negative : Bool) (ts us : List Token) :
    ofTokens negative (ts ++ us) = (ofTokens negative ts).add (ofTokens negative us) := by
  cases negative with
  | true =>
    simp only [ofTokens, if_true, add, totalSize_append, mk.injEq]
    omega
  | false => simp [ofTokens, add, totalSize_append]

theorem parseValue_of_spells (h : Spells cs ts) (hne : ts ≠ []) (negative : Bool) :
    parseValue (.text (String.ofList (withSign negative cs))) = .ok (ofTokens negative ts) := by
  show read (String.ofList (withSign negative cs)) = _
  rw [read, parse_of_spells h hne]

/-- **The order of tokens does not matter.** -/
theorem parseValue_perm {parts parts' : List (List Char)} (h : ∀ p ∈ parts, ∃ t, Spells p [t])
    (hperm : parts.Perm parts') (negative : Bool) :
    parseValue (.text (String.ofList (withSign negative parts.flatten))) =
      parseValue (.text (String.ofList (withSign negative parts'.flatten))) := by
  have : Nonempty Token := ⟨⟨0, .second⟩⟩
  choose! token htoken using h
  have htoken' : ∀ p ∈ parts', Spells p [token p] := fun p hp => htoken p (hperm.mem_iff.2 hp)
  by_cases hparts : parts = []
  · subst hparts
    obtain rfl := hperm.nil_eq
    rfl
  · have hparts' : parts' ≠ [] := fun h => hparts (hperm.trans (h ▸ .nil)).eq_nil
    rw [parseValue_of_spells (spells_flatten htoken) (by simpa using hparts),
      parseValue_of_spells (spells_flatten htoken') (by simpa using hparts'),
      ofTokens_perm (hperm.map token)]

theorem nanoseconds_ofTokens (negative : Bool) (ts : List Token) :
    (ofTokens negative ts).nanoseconds = (if negative then -1 else 1) *
      (ts.map fun t => (t.count * t.unit.size : Int)).sum := by
  rw [ofTokens, totalSize_eq_sum]
  cases negative with
  | true => exact (Int.neg_one_mul _).symm
  | false => exact (Int.one_mul _).symm

theorem parseValue_eq_ok {text : String} {d : Duration} : parseValue (.text text) = .ok d ↔
    ∃ negative cs ts, text = String.ofList (withSign negative cs) ∧ ts ≠ [] ∧ Spells cs ts ∧
      d = ofTokens negative ts := by
  constructor
  · intro h
    change read text = .ok d at h
    rw [read] at h
    obtain ⟨-, hread⟩ | ⟨ts, hne, hts, hread⟩ | ⟨-, front, -, hread⟩ := parse_cases text
    · rw [hread] at h
      cases h
    · rw [hread] at h
      cases h
      refine ⟨_, _, ts, ?_, hne, hts, rfl⟩
      rw [withSign_splitSign, String.ofList_toList]
    · rw [hread] at h
      cases h
  · rintro ⟨negative, cs, ts, rfl, hne, hts, rfl⟩
    exact parseValue_of_spells hts hne negative

/-- What is said of a text that is no duration. -/
theorem parseValue_eq_error {text : String} (h : ∀ d, parseValue (.text text) ≠ .ok d) :
    ∃ f, parseValue (.text text) = .error f ∧ f.category = .malformedDuration ∧
      ((splitSign text.toList).2 = [] → f = .emptyDuration text) ∧
      ((splitSign text.toList).2 ≠ [] → ∃ front, LongestFront (splitSign text.toList).2 front ∧
        f = .malformedDuration text front.length) := by
  have hparse : parseValue (.text text) = read text := rfl
  rw [hparse, read] at h
  rw [hparse, read]
  obtain ⟨hempty, hread⟩ | ⟨ts, -, -, hread⟩ | ⟨hbody, front, hfront, hread⟩ := parse_cases text
  · rw [hread]
    exact ⟨_, rfl, rfl, fun _ => rfl, fun hne => absurd hempty hne⟩
  · rw [hread] at h
    exact absurd rfl (h _)
  · rw [hread]
    exact ⟨_, rfl, rfl, fun hempty => absurd hempty hbody, fun _ => ⟨front, hfront, rfl⟩⟩

end Duration

end MonitoringConfig
