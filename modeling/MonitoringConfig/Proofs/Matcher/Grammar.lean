import MonitoringConfig.Matcher
import MonitoringConfig.Proofs.Text.Blank
/-!
# The grammar of matchers

What the reader of matchers accepts is said here without a reader.

* `Matcher.Spells` : a name between blanks, an operator and anything behind it.
* `Matcher.IsValue` : the value that a text between blanks stands for, with quotes around it or
  without.
* `Matcher.parse_eq_some` : **the reader accepts what the grammar spells**, with the operator of two
  characters where there is one.
-/

namespace MonitoringConfig

namespace Matcher

open Text (AllBlank Trimmed)

variable {text name rest cs ds : List Char} {op : MatchType}

/-! ### Names and operators -/

/-- Whether a text can be the name of a matcher: it has no blanks, quotes or characters of
operators. -/
def IsName (name : List Char) : Prop :=
  name ≠ [] ∧ ∀ c ∈ name, c ∉ ['=', '!', '~', '"'] ∧ Text.isBlank c = false

/-- Whether a text is a name between blanks, an operator, and something behind it. -/
structure Spells (text name : List Char) (op : MatchType) (rest : List Char) : Prop where
  isName : IsName name
  split : ∃ before behind, AllBlank before ∧ AllBlank behind ∧
    text = before ++ (name ++ (behind ++ (op.symbol.toList ++ rest)))

/-- Whether an operator is not the front of one of two characters. -/
def IsWhole (op : MatchType) (rest : List Char) : Prop :=
  op = .equal → rest.head? ≠ some '~'

theorem isNameChar_iff (c : Char) :
    isNameChar c = true ↔ c ∉ ['=', '!', '~', '"'] ∧ Text.isBlank c = false := by
  simp [isNameChar, and_assoc]

theorem isName_iff : IsName name ↔ name ≠ [] ∧ ∀ c ∈ name, isNameChar c = true := by
  simp only [IsName, isNameChar_iff]

theorem isBlank_of_isNameChar {c : Char} (h : isNameChar c = true) : Text.isBlank c = false :=
  ((isNameChar_iff c).1 h).2

theorem readOp_eq_some : readOp? cs = some (op, rest) ↔
    cs = op.symbol.toList ++ rest ∧ IsWhole op rest := by
  constructor
  · intro h
    unfold readOp? at h
    split at h
    · cases h
      exact ⟨rfl, fun h => nomatch h⟩
    · cases h
      exact ⟨rfl, fun h => nomatch h⟩
    · cases h
      exact ⟨rfl, fun h => nomatch h⟩
    · next cs hne =>
      cases h
      refine ⟨rfl, fun _ htilde => ?_⟩
      obtain ⟨rest, rfl⟩ := List.head?_eq_some_iff.1 htilde
      exact hne rest rfl
    · cases h
  · rintro ⟨rfl, hwhole⟩
    cases op with
    | equal =>
      cases rest with
      | nil => rfl
      | cons c rest =>
        have hc : c ≠ '~' := fun h => hwhole rfl (by rw [h]; rfl)
        show readOp? ('=' :: c :: rest) = some (.equal, c :: rest)
        unfold readOp?
        split <;> simp_all
    | notEqual | regex | notRegex => rfl

/-- Every operator is, or is the front of, one that the reader takes. -/
theorem exists_whole (op : MatchType) (rest : List Char) : ∃ op' rest',
    op.symbol.toList ++ rest = op'.symbol.toList ++ rest' ∧ IsWhole op' rest' := by
  by_cases h : op = .equal ∧ rest.head? = some '~'
  · obtain ⟨rfl, htilde⟩ := h
    obtain ⟨rest', rfl⟩ := List.head?_eq_some_iff.1 htilde
    exact ⟨.regex, rest', rfl, fun h => nomatch h⟩
  · exact ⟨op, rest, rfl, fun hop htilde => h ⟨hop, htilde⟩⟩

/-! ### Parts -/

/-- The name at the front of a text, the operator, and what stands behind it. -/
def parts? (text : List Char) : Option (List Char × MatchType × List Char) :=
  let cs := Text.dropBlank text
  let name := cs.takeWhile isNameChar
  if name.isEmpty then none
  else (readOp? (Text.dropBlank (cs.dropWhile isNameChar))).map fun (op, rest) => (name, op, rest)

theorem parse_eq_parts (text : String) : parse? text = (parts? text.toList).map
    fun (name, op, rest) => ⟨String.ofList name, op, String.ofList (readValue rest)⟩ := by
  unfold parse? parts?
  dsimp only
  split
  · rfl
  · cases readOp? (Text.dropBlank ((Text.dropBlank text.toList).dropWhile isNameChar)) <;> rfl

/-- No operator starts with a character that may stand in a name. -/
theorem symbol_head (op : MatchType) :
    ∃ c cs, op.symbol.toList = c :: cs ∧ isNameChar c = false ∧ Text.isBlank c = false := by
  cases op
  · exact ⟨'=', [], by decide +kernel⟩
  · exact ⟨'!', ['='], by decide +kernel⟩
  · exact ⟨'=', ['~'], by decide +kernel⟩
  · exact ⟨'!', ['~'], by decide +kernel⟩

/-- An operator starts with no blank and with no character of a name. -/
theorem head_symbol (op : MatchType) (rest : List Char) :
    ∀ c, (op.symbol.toList ++ rest).head? = some c →
      isNameChar c = false ∧ Text.isBlank c = false := by
  intro c hc
  obtain ⟨o, os, hop, hname, hblank⟩ := symbol_head op
  rw [hop] at hc
  cases hc
  exact ⟨hname, hblank⟩

/-- A name ends where blanks or an operator start. -/
theorem head_behind {behind : List Char} (hbehind : AllBlank behind) (op : MatchType)
    (rest : List Char) :
    ∀ c, (behind ++ (op.symbol.toList ++ rest)).head? = some c → isNameChar c = false := by
  intro c hc
  cases behind with
  | nil => exact (head_symbol op rest c hc).1
  | cons b behind =>
    cases hc
    have hblank := hbehind c List.mem_cons_self
    simp [isNameChar, hblank]

theorem takeWhile_name {behind : List Char} (hname : ∀ c ∈ name, isNameChar c = true)
    (hbehind : ∀ c, behind.head? = some c → isNameChar c = false) :
    (name ++ behind).takeWhile isNameChar = name ∧
      (name ++ behind).dropWhile isNameChar = behind := by
  rw [List.takeWhile_append_of_pos hname, List.dropWhile_append_of_pos hname,
    Text.dropWhile_of_head hbehind]
  refine ⟨?_, rfl⟩
  cases behind with
  | nil => simp
  | cons c behind => simp [hbehind c rfl]

/-- **The parts that are found are those of the grammar.** -/
theorem parts_eq_some :
    parts? text = some (name, op, rest) ↔ Spells text name op rest ∧ IsWhole op rest := by
  constructor
  · intro h
    simp only [parts?, Option.ite_none_left_eq_some, List.isEmpty_iff, Option.map_eq_some_iff,
      Prod.exists, Prod.mk.injEq] at h
    obtain ⟨hne, op, rest, hop, rfl, rfl, rfl⟩ := h
    obtain ⟨hsplit, hwhole⟩ := readOp_eq_some.1 hop
    obtain ⟨before, hbefore, hfront⟩ := Text.dropBlank_split text
    obtain ⟨behind, hbehind, hmiddle⟩ :=
      Text.dropBlank_split ((Text.dropBlank text).dropWhile isNameChar)
    refine ⟨⟨isName_iff.2 ⟨hne, List.all_eq_true.1 List.all_takeWhile⟩, before, behind, hbefore,
      hbehind, ?_⟩, hwhole⟩
    rw [← hsplit, ← hmiddle, List.takeWhile_append_dropWhile, ← hfront]
  · rintro ⟨⟨hname, before, behind, hbefore, hbehind, rfl⟩, hwhole⟩
    obtain ⟨hne, hchars⟩ := isName_iff.1 hname
    obtain ⟨htake, hdrop⟩ := takeWhile_name hchars (head_behind hbehind op rest)
    have hhead : ∀ c, (name ++ (behind ++ (op.symbol.toList ++ rest))).head? = some c →
        Text.isBlank c = false := by
      intro c hc
      cases name with
      | nil => exact absurd rfl hne
      | cons d name =>
        cases hc
        exact isBlank_of_isNameChar (hchars _ List.mem_cons_self)
    rw [parts?]
    simp only [Text.dropBlank_append hbefore hhead, htake, hdrop,
      Text.dropBlank_append hbehind fun c hc => (head_symbol op rest c hc).2,
      readOp_eq_some.2 ⟨rfl, hwhole⟩]
    simp [hne]

/-! ### Values -/

/-- What a text between quotes stands for: a backslash makes `n` the line break, `t` the tab and any
other character itself, and stands for itself at the end. -/
inductive Decodes : List Char → List Char → Prop
  | nil : Decodes [] []
  | plain {c : Char} {cs ds : List Char} (hc : c ≠ '\\') (h : Decodes cs ds) :
      Decodes (c :: cs) (c :: ds)
  | escaped {c : Char} {cs ds : List Char} (h : Decodes cs ds) :
      Decodes ('\\' :: c :: cs) ((if c = 'n' then '\n' else if c = 't' then '\t' else c) :: ds)
  | last : Decodes ['\\'] ['\\']

theorem escaped_eq (c : Char) :
    escaped c = if c = 'n' then '\n' else if c = 't' then '\t' else c := by
  unfold escaped
  split
  · rfl
  · rfl
  · next hn ht => rw [if_neg hn, if_neg ht]

/-- **What stands between quotes is decoded** as the grammar says. -/
theorem unescape_eq_iff : unescape cs = ds ↔ Decodes cs ds := by
  constructor
  · rintro rfl
    fun_induction unescape cs with
    | case1 => exact .nil
    | case2 => exact .last
    | case3 c cs ih =>
      rw [escaped_eq]
      exact .escaped ih
    | case4 c cs hlast hpair ih =>
      refine .plain (fun hc => ?_) ih
      cases cs with
      | nil => exact hlast hc rfl
      | cons d cs => exact hpair d cs hc rfl
  · intro h
    induction h with
    | nil => rfl
    | @plain c cs ds hc _ ih =>
      rw [unescape.eq_4 c cs (fun h _ => hc h) (fun _ _ h _ => hc h), ih]
    | escaped _ ih => rw [unescape, ih, escaped_eq]
    | last => rfl

/-- The value that a text stands for: what is between its quotes, decoded, if it starts and ends
with one, and else all of it. -/
inductive IsValue : List Char → List Char → Prop
  | quoted {inner value : List Char} (h : Decodes inner value) :
      IsValue ('"' :: (inner ++ ['"'])) value
  | bare {cs : List Char} (h : ∀ inner, cs ≠ '"' :: (inner ++ ['"'])) : IsValue cs cs

theorem unquote_eq_some {inner : List Char} :
    unquote? cs = some inner ↔ cs = '"' :: (inner ++ ['"']) := by
  constructor
  · intro h
    unfold unquote? at h
    split at h
    · next cs =>
      simp only [beq_iff_eq, Option.ite_none_right_eq_some, Option.some.injEq] at h
      obtain ⟨hlast, rfl⟩ := h
      obtain ⟨front, rfl⟩ := List.getLast?_eq_some_iff.1 hlast
      rw [List.dropLast_concat]
    · cases h
  · rintro rfl
    simp [unquote?]

/-- What is taken of a text without blanks at its ends is the value that it stands for. -/
theorem unquoted_eq_iff {value : List Char} :
    ((unquote? cs).map unescape).getD cs = value ↔ IsValue cs value := by
  cases hunquote : unquote? cs with
  | none =>
    have hbare : ∀ inner, cs ≠ '"' :: (inner ++ ['"']) := fun inner h => by
      rw [unquote_eq_some.2 h] at hunquote
      cases hunquote
    constructor
    · rintro rfl
      exact .bare hbare
    · intro h
      cases h with
      | quoted h => exact absurd rfl (hbare _)
      | bare => rfl
  | some inner =>
    have hquoted := unquote_eq_some.1 hunquote
    constructor
    · intro h
      rw [hquoted]
      exact .quoted (unescape_eq_iff.1 h)
    · intro h
      cases h with
      | quoted h =>
        obtain rfl := List.append_cancel_right (List.cons.inj hquoted).2
        exact unescape_eq_iff.2 h
      | bare h => exact absurd hquoted (h inner)

theorem readValue_eq (cs : List Char) :
    readValue cs = ((unquote? (Text.trim cs)).map unescape).getD (Text.trim cs) := by
  rw [readValue]
  cases unquote? (Text.trim cs) <;> rfl

/-- **What is read behind an operator is the value without the blanks around it.** -/
theorem readValue_eq_iff {value : List Char} :
    readValue rest = value ↔ ∃ cs, Trimmed rest cs ∧ IsValue cs value := by
  rw [readValue_eq]
  constructor
  · intro h
    exact ⟨_, Text.trimmed_trim rest, unquoted_eq_iff.1 h⟩
  · rintro ⟨cs, htrimmed, hcs⟩
    rw [Text.trim_eq_iff.2 htrimmed]
    exact unquoted_eq_iff.2 hcs

/-- **The reader accepts what the grammar spells.** -/
theorem parse_eq_some {text : String} {m : Matcher} : parse? text = some m ↔ ∃ rest cs,
    Spells text.toList m.name.toList m.op rest ∧ IsWhole m.op rest ∧ Trimmed rest cs ∧
      IsValue cs m.value.toList := by
  rw [parse_eq_parts, Option.map_eq_some_iff]
  constructor
  · rintro ⟨⟨name, op, rest⟩, hparts, rfl⟩
    obtain ⟨hspells, hwhole⟩ := parts_eq_some.1 hparts
    obtain ⟨cs, htrimmed, hvalue⟩ := readValue_eq_iff.1 (rfl : readValue rest = _)
    refine ⟨rest, cs, ?_, hwhole, htrimmed, ?_⟩
    · rwa [String.toList_ofList]
    · rwa [String.toList_ofList]
  · rintro ⟨rest, cs, hspells, hwhole, htrimmed, hvalue⟩
    refine ⟨(m.name.toList, m.op, rest), parts_eq_some.2 ⟨hspells, hwhole⟩, ?_⟩
    simp only [readValue_eq_iff.2 ⟨cs, htrimmed, hvalue⟩, String.ofList_toList]

/-- A text is that of a matcher just if it is spelled so with any operator. -/
theorem parse_isSome_iff {text : String} :
    (∃ m, parse? text = some m) ↔ ∃ name op rest, Spells text.toList name op rest := by
  constructor
  · rintro ⟨m, hm⟩
    obtain ⟨rest, -, hspells, -⟩ := parse_eq_some.1 hm
    exact ⟨_, _, rest, hspells⟩
  · rintro ⟨name, op, rest, hname, before, behind, hbefore, hbehind, hsplit⟩
    obtain ⟨op', rest', hsame, hwhole⟩ := exists_whole op rest
    rw [hsame] at hsplit
    have hparts := parts_eq_some.2 ⟨⟨hname, before, behind, hbefore, hbehind, hsplit⟩, hwhole⟩
    exact ⟨_, by rw [parse_eq_parts, hparts]; rfl⟩

end Matcher

end MonitoringConfig
