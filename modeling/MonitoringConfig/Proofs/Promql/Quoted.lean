import MonitoringConfig.Proofs.Promql.Token
/-!
# Quoted tokens

A text stands between quotes in two places: as the value of a matcher, and as an argument of its
own. A quoted token ends at the first quote that is not escaped, stands on one line, and has
escapes for backslashes, quotes and line breaks only.

* `readToken`, `IsToken` : reading one token, which has to end where the text ends.
* `readToken_escape`, `readToken_escapeString` : both ways of escaping are read back.
* `escape_eq_escapeString` : they differ by the escapes of line breaks.
* `quoted_tokens` : **the value of a matcher is always one token; a text is one just if it has no
  line breaks**, and just then it is the same token.
-/

namespace MonitoringConfig.Promql

/-! ### Reading a token -/

/-- The characters up to the first quote that is not behind a backslash, and what stands behind
that quote. -/
def splitQuote : List Char → Option (List Char × List Char)
  | [] => none
  | '"' :: cs => some ([], cs)
  | '\\' :: c :: cs => (splitQuote cs).map fun (body, rest) => ('\\' :: c :: body, rest)
  | c :: cs => (splitQuote cs).map fun (body, rest) => (c :: body, rest)

/-- The text that stands between quotes. A backslash is followed by itself, by a quote or by the
letter for a line break. -/
def decodeEscapes : List Char → Option (List Char)
  | [] => some []
  | '\\' :: '\\' :: cs => (decodeEscapes cs).map ('\\' :: ·)
  | '\\' :: '"' :: cs => (decodeEscapes cs).map ('"' :: ·)
  | '\\' :: 'n' :: cs => (decodeEscapes cs).map ('\n' :: ·)
  | '\\' :: _ => none
  | c :: cs => (decodeEscapes cs).map (c :: ·)

/-- The text that a quoted token stands for, if the quote that closes it is its last character. -/
def readToken : List Char → Option (List Char)
  | '"' :: cs =>
    match splitQuote cs with
    | some (body, []) => decodeEscapes body
    | _ => none
  | _ => none

/-- Whether a text is one quoted token on one line that stands for a value. -/
def IsToken (token value : List Char) : Prop :=
  '\n' ∉ token ∧ readToken token = some value

instance (token value : List Char) : Decidable (IsToken token value) :=
  inferInstanceAs (Decidable (_ ∧ _))

theorem splitQuote_cons {c : Char} (hquote : c ≠ '"') (hslash : c ≠ '\\') (cs : List Char) :
    splitQuote (c :: cs) = (splitQuote cs).map fun (body, rest) => (c :: body, rest) :=
  splitQuote.eq_4 c cs (fun h => hquote h) (fun _ _ h _ => hslash h)

theorem decodeEscapes_cons {c : Char} (hslash : c ≠ '\\') (cs : List Char) :
    decodeEscapes (c :: cs) = (decodeEscapes cs).map (c :: ·) := by
  rw [decodeEscapes]
  all_goals
    intros
    contradiction

/-- A token is read by its body, if no quote in the body ends it. -/
theorem readToken_eq {body : List Char} (h : splitQuote (body ++ ['"']) = some (body, [])) :
    readToken ('"' :: body ++ ['"']) = decodeEscapes body := by
  rw [List.cons_append, readToken, h]

/-! ### Both ways of escaping -/

theorem splitQuote_escape (v : List Char) :
    splitQuote (Matcher.escape v ++ ['"']) = some (Matcher.escape v, []) := by
  fun_induction Matcher.escape v with
  | case1 => rfl
  | case2 cs ih | case3 cs ih | case4 cs ih => simp [splitQuote, ih]
  | case5 c cs hslash hquote _ ih =>
    rw [List.cons_append, splitQuote_cons hquote hslash, ih]
    rfl

theorem splitQuote_escapeString (v : List Char) :
    splitQuote (escapeString v ++ ['"']) = some (escapeString v, []) := by
  fun_induction escapeString v with
  | case1 => rfl
  | case2 cs ih | case3 cs ih => simp [splitQuote, ih]
  | case4 c cs hslash hquote ih =>
    rw [List.cons_append, splitQuote_cons hquote hslash, ih]
    rfl

theorem decodeEscapes_escape (v : List Char) : decodeEscapes (Matcher.escape v) = some v := by
  fun_induction Matcher.escape v with
  | case1 => rfl
  | case2 cs ih | case3 cs ih | case4 cs ih => simp [decodeEscapes, ih]
  | case5 c cs hslash _ _ ih =>
    rw [decodeEscapes_cons hslash, ih]
    rfl

theorem decodeEscapes_escapeString (v : List Char) : decodeEscapes (escapeString v) = some v := by
  fun_induction escapeString v with
  | case1 => rfl
  | case2 cs ih | case3 cs ih => simp [decodeEscapes, ih]
  | case4 c cs hslash _ ih =>
    rw [decodeEscapes_cons hslash, ih]
    rfl

/-- The value of a matcher is read back from its token. -/
theorem readToken_escape (v : List Char) :
    readToken ('"' :: Matcher.escape v ++ ['"']) = some v := by
  rw [readToken_eq (splitQuote_escape v), decodeEscapes_escape]

/-- A text is read back from its token. -/
theorem readToken_escapeString (v : List Char) :
    readToken ('"' :: escapeString v ++ ['"']) = some v := by
  rw [readToken_eq (splitQuote_escapeString v), decodeEscapes_escapeString]

theorem escapeString_eq_replace (cs : List Char) :
    escapeString cs =
      Matcher.replace '"' ['\\', '"'] (Matcher.replace '\\' ['\\', '\\'] cs) := by
  simp only [Matcher.replace, List.flatMap_assoc]
  fun_induction escapeString cs with
  | case1 => rfl
  | case2 cs ih | case3 cs ih => simp [ih]
  | case4 c cs hslash hquote ih =>
    simp [ih, show c ≠ '\\' from hslash, show c ≠ '"' from hquote]

/-- A matcher escapes the line breaks as well. -/
theorem escape_eq_escapeString (cs : List Char) :
    Matcher.escape cs = Matcher.replace '\n' ['\\', 'n'] (escapeString cs) := by
  rw [Matcher.escape_eq_replace, escapeString_eq_replace]

/-! ### Line breaks -/

theorem notMem_replace {c : Char} {others : List Char} (h : c ∉ others) (cs : List Char) :
    c ∉ Matcher.replace c others cs := by
  intro hmem
  obtain ⟨d, -, hd⟩ := List.mem_flatMap.1 hmem
  split at hd
  · exact h hd
  · next hne => exact hne (List.mem_singleton.1 hd).symm

theorem replace_eq_self {c : Char} {others cs : List Char} (h : c ∉ cs) :
    Matcher.replace c others cs = cs := by
  have hsame : cs.flatMap (fun d => if d = c then others else [d]) = cs.flatMap ([·]) := by
    refine List.flatMap_congr fun d hd => if_neg ?_
    rintro rfl
    exact h hd
  rw [Matcher.replace, hsame, List.flatMap_singleton']

/-- Escaping leaves the line breaks of a text. -/
theorem lineBreak_mem_escapeString (cs : List Char) :
    '\n' ∈ escapeString cs ↔ '\n' ∈ cs := by
  fun_induction escapeString cs with
  | case1 => rfl
  | case2 cs ih | case3 cs ih => simp [ih]
  | case4 c cs _ _ ih => simp [ih]

theorem lineBreak_notMem_quoted {cs : List Char} :
    '\n' ∉ '"' :: cs ++ ['"'] ↔ '\n' ∉ cs := by
  simp

/-- **What stands between quotes.** The value of a matcher is one token, behind the name and the
operator, whatever the value is. A text of its own is read back up to its last character too, but
its line breaks stay as they are: it is one token just if it has none. The token of a matcher is
that of the text with its line breaks escaped, and so it is the same token just then. -/
theorem quoted_tokens (v : String) :
    (∀ name op, ∃ token,
      (⟨name, op, v⟩ : Matcher).format.toList = name.toList ++ op.symbol.toList ++ token ∧
        IsToken token v.toList ∧
        token = Matcher.replace '\n' ['\\', 'n'] (Expr.string v).render.toList ∧
        (token = (Expr.string v).render.toList ↔ '\n' ∉ v.toList)) ∧
      readToken (Expr.string v).render.toList = some v.toList ∧
      (IsToken (Expr.string v).render.toList v.toList ↔ '\n' ∉ v.toList) := by
  have hliteral : (Expr.string v).render.toList = '"' :: escapeString v.toList ++ ['"'] := by
    simp [Expr.render, stringText]
  have hread : readToken (Expr.string v).render.toList = some v.toList := by
    rw [hliteral, readToken_escapeString]
  have hbreak : '\n' ∉ (Expr.string v).render.toList ↔ '\n' ∉ v.toList := by
    rw [hliteral, lineBreak_notMem_quoted, lineBreak_mem_escapeString]
  refine ⟨fun name op => ⟨'"' :: Matcher.escape v.toList ++ ['"'], ?_, ⟨?_, ?_⟩, ?_, ?_⟩, hread, ?_⟩
  · simp [Matcher.format]
  · rw [lineBreak_notMem_quoted, escape_eq_escapeString]
    exact notMem_replace (by decide) _
  · exact readToken_escape v.toList
  · rw [hliteral, escape_eq_escapeString]
    simp [Matcher.replace]
  · rw [← hbreak, hliteral, escape_eq_escapeString]
    constructor
    · intro hsame
      rw [← hsame, lineBreak_notMem_quoted]
      exact notMem_replace (by decide) _
    · intro hnone
      rw [replace_eq_self (lineBreak_notMem_quoted.1 hnone)]
  · rw [IsToken, hbreak]
    exact and_iff_left hread

/-- A text of two lines is not one token, where the value of a matcher is. -/
theorem twoLines_unescaped :
    ¬IsToken (Expr.string "a\nb").render.toList "a\nb".toList ∧
      (Expr.string "a\nb").render = "\"a\nb\"" ∧
      (⟨"job", .equal, "a\nb"⟩ : Matcher).format = "job=\"a\\nb\"" := by
  decide +kernel

end MonitoringConfig.Promql
