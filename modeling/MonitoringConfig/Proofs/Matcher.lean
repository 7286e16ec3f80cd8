import MonitoringConfig.Projection.Wire
import MonitoringConfig.Proofs.Matcher.Grammar
/-!
# The texts of matchers

* `Matcher.escape_eq_replace` : escaping is three replacements, one after the other.
* `Matcher.parse_format` : a matcher is read back from its text if its name can stand in one
  (`Matcher.isReadable`), whatever its operator and value.
* `Matcher.isReadable_of_parse` : every matcher that is read from a text is such.
* `Matcher.text_canonical` : **the text of a matcher is read back just if its name can stand in
  it**, its mapping is read back whatever its name, and what is read from any text is written in one
  way.
-/

namespace MonitoringConfig

namespace Matcher

/-- Whether the name of a matcher can be told from the operator behind it in a text. -/
def isReadable (m : Matcher) : Bool :=
  !m.name.toList.isEmpty && m.name.toList.all isNameChar

theorem isReadable_iff_isName (m : Matcher) : m.isReadable = true ↔ IsName m.name.toList := by
  simp [isReadable, isName_iff]

theorem isReadable_iff (m : Matcher) : m.isReadable = true ↔
    m.name ≠ "" ∧ ∀ c ∈ m.name.toList, c ∉ ['=', '!', '~', '"'] ∧ Text.isBlank c = false := by
  rw [isReadable_iff_isName, IsName, Ne, Ne, String.toList_eq_nil_iff]

/-- A text between quotes has no blanks at its ends. -/
theorem trimmed_quoted (cs : List Char) :
    Text.Trimmed ('"' :: (cs ++ ['"'])) ('"' :: (cs ++ ['"'])) := by
  have hquote : Text.isBlank '"' = false := by decide +kernel
  refine .self (fun c hc => ?_) (fun c hc => ?_)
  · cases hc
    exact hquote
  · rw [← List.cons_append, List.getLast?_concat] at hc
    cases hc
    exact hquote

theorem readOp_symbol (op : MatchType) (cs : List Char) :
    readOp? (op.symbol.toList ++ '"' :: cs) = some (op, '"' :: cs) := by
  cases op <;> rfl

/-- **A matcher is read back from its text.** -/
theorem parse_format {m : Matcher} (h : m.isReadable = true) : parse? m.format = some m := by
  have htext : m.format.toList = [] ++ (m.name.toList ++ ([] ++ (m.op.symbol.toList ++
      '"' :: (escape m.value.toList ++ ['"'])))) := by
    simp [format]
  have hvalue : Decodes (escape m.value.toList) m.value.toList :=
    unescape_eq_iff.1 (unescape_escape _)
  refine parse_eq_some.2 ⟨_, _, ⟨(isReadable_iff_isName m).1 h, [], [], Text.allBlank_nil,
    Text.allBlank_nil, htext⟩, fun _ htilde => ?_, trimmed_quoted _, .quoted hvalue⟩
  cases htilde

/-! ### Escapes -/

/-- A text with others in place of one character. -/
def replace (c : Char) (others cs : List Char) : List Char :=
  cs.flatMap fun d => if d = c then others else [d]

/-- Backslashes are replaced first, so that those of the other escapes stay single. -/
theorem escape_eq_replace (cs : List Char) :
    escape cs =
      replace '\n' ['\\', 'n'] (replace '"' ['\\', '"'] (replace '\\' ['\\', '\\'] cs)) := by
  simp only [replace, List.flatMap_assoc]
  fun_induction escape cs with
  | case1 => rfl
  | case2 cs ih | case3 cs ih | case4 cs ih => simp [ih]
  | case5 c cs hbackslash hquote hbreak ih =>
    simp [ih, show c ≠ '\\' from hbackslash, show c ≠ '"' from hquote, show c ≠ '\n' from hbreak]

/-! ### Every spelling -/

/-- Only a name that can stand in a text is read from one. -/
theorem isReadable_of_parse {text : String} {m : Matcher} (h : parse? text = some m) :
    m.isReadable = true := by
  obtain ⟨rest, -, hspells, -⟩ := parse_eq_some.1 h
  exact (isReadable_iff_isName m).2 hspells.isName

end Matcher

/-! ### Matchers as mappings -/

theorem MatchType.ofValue_symbol (op : MatchType) : ofValue (.text op.symbol) = .ok op := by
  cases op <;> rfl

theorem MatchType.isTruthy_symbol (op : MatchType) : (Value.text op.symbol).isTruthy = true := by
  cases op <;> rfl

/-- A matcher comes back from its mapping, whatever its name. -/
theorem Matcher.ofValue_toPlain_camel (m : Matcher) : ofValue (m.toPlain .camel) = .ok m := by
  have hname : ("name" == "value") = false ∧ ("name" == "matchType") = false ∧
      ("value" == "matchType") = false := by decide
  simp only [toPlain, ofValue, ofEntries, Value.record, List.map, Value.lookup?, Value.equal,
    List.find?, beq_self_eq_true, hname, Option.map, Option.getD, MatchType.isTruthy_symbol,
    MatchType.ofValue_symbol]
  rfl

/-- **The text of a matcher is canonical.** It is read back just if the name can stand in a text;
the mapping is read back whatever the name; and what is read from a text of any spelling is read
again from the text that is written for it. -/
theorem Matcher.text_canonical :
    (∀ m : Matcher, parse? m.format = some m ↔
      m.name ≠ "" ∧ ∀ c ∈ m.name.toList, c ∉ ['=', '!', '~', '"'] ∧ Text.isBlank c = false) ∧
    (∀ m : Matcher, ofValue (m.toPlain .camel) = .ok m) ∧
    ∀ text m, parse? text = some m → parse? m.format = some m := by
  refine ⟨fun m => ?_, ofValue_toPlain_camel, fun text m h => parse_format (isReadable_of_parse h)⟩
  rw [← isReadable_iff]
  exact ⟨isReadable_of_parse, parse_format⟩

/-- A value that ends in a backslash, without quotes and with blanks around the parts. -/
theorem Matcher.text_canonical_blanks :
    parse? " team != a\\" = some ⟨"team", .notEqual, "a\\"⟩ ∧
      parse? (⟨"team", .notEqual, "a\\"⟩ : Matcher).format = some ⟨"team", .notEqual, "a\\"⟩ := by
  obtain ⟨-, -, hread⟩ := text_canonical
  have hspelled : parse? " team != a\\" = some ⟨"team", .notEqual, "a\\"⟩ := by decide +kernel
  exact ⟨hspelled, hread _ _ hspelled⟩

end MonitoringConfig
