import MonitoringConfig.Calendar.Interval
import MonitoringConfig.Proofs.Number.Nearest
import MonitoringConfig.Proofs.Number.Text
import MonitoringConfig.Proofs.Text.Blank
/-!
# Ranges in texts

A range is written as its two ends with a colon between them, or as one end that stands for both.
An end is a number, or a name in any letter case; blanks can stand around it.

* `bounds_colon` and `bounds_single` : a range is read end by end.
* `bound_intText` : **an integer is read as itself.**
* `bound_name` : **a name is read as its number, in any letter case and between blanks.**
-/

namespace MonitoringConfig

/-! ### Two ends -/

theorem splitColon_colon {first : List Char} (h : ':' ∉ first) (last : List Char) :
    splitColon (first ++ ':' :: last) = (first, some last) := by
  have hall : ∀ c ∈ first, (c != ':') = true := fun c hc => by
    rw [bne_iff_ne]
    rintro rfl
    exact h hc
  rw [splitColon, List.dropWhile_append_of_pos hall, List.takeWhile_append_of_pos hall]
  simp

theorem splitColon_single {cs : List Char} (h : ':' ∉ cs) : splitColon cs = (cs, none) := by
  have hall : ∀ c ∈ cs, (c != ':') = true := fun c hc => by
    rw [bne_iff_ne]
    rintro rfl
    exact h hc
  rw [splitColon, List.dropWhile_eq_nil_iff.2 hall]

variable {number? : String → Option Int}

/-- Two ends with a colon between them are read one by one. -/
theorem bounds_colon {first : List Char} (h : ':' ∉ first) (last : List Char) :
    bounds? number? (String.ofList (first ++ ':' :: last)) =
      (bound? number? first).bind fun low => (bound? number? last).map fun high => (low, high) := by
  rw [bounds?, String.toList_ofList, splitColon_colon h]
  dsimp only
  cases bound? number? first <;> cases bound? number? last <;> rfl

/-- One end stands for both. -/
theorem bounds_single {cs : List Char} (h : ':' ∉ cs) :
    bounds? number? (String.ofList cs) = (bound? number? cs).map fun n => (n, n) := by
  rw [bounds?, String.toList_ofList, splitColon_single h]
  dsimp only
  cases bound? number? cs <;> rfl

/-! ### Blanks and letter case -/

/-- No visible character of ASCII is blank. -/
theorem isBlank_of_visible {c : Char} (h : 33 ≤ c.toNat ∧ c.toNat ≤ 126) :
    Text.isBlank c = false := by
  rw [Text.isBlank, Text.covers, ← Array.any_toList]
  simp [Text.blankRanges]
  omega

/-- Characters of ASCII are brought to lower case one by one. -/
theorem lower_ascii {cs : List Char} (h : ∀ c ∈ cs, c.toNat < 128) :
    Text.lower cs = cs.map Char.toLower := by
  -- A sigma looks back at what is before it, so the induction is for any text before.
  have hfrom : ∀ before, Text.lowerFrom before cs = cs.map Char.toLower := by
    induction cs with
    | nil => intro before; rfl
    | cons c cs ih =>
      intro before
      have hc := h c List.mem_cons_self
      have hsigma : (c.toNat == 0x3A3) = false := by
        rw [beq_eq_false_iff_ne]
        omega
      have hdotted : (c.toNat == 304) = false := by
        rw [beq_eq_false_iff_ne]
        omega
      rw [Text.lowerFrom, ih fun d hd => h d (List.mem_cons_of_mem _ hd)]
      simp only [hsigma, hdotted, Bool.false_eq_true, if_false, Text.lowerChar, if_pos hc]
      rfl
  exact hfrom []

/-- What becomes a visible character of ASCII in lower case is one itself. -/
theorem visible_of_toLower {c : Char} (h : 33 ≤ c.toLower.toNat ∧ c.toLower.toNat ≤ 126) :
    33 ≤ c.toNat ∧ c.toNat ≤ 126 := by
  by_cases hcapital : c.val ≥ 'A'.val ∧ c.val ≤ 'Z'.val
  · have hge : 65 ≤ c.toNat := hcapital.1
    have hle : c.toNat ≤ 90 := hcapital.2
    omega
  · have hsame : c.toLower = c := dif_neg hcapital
    rwa [hsame] at h

/-- An end between blanks is read as it is in lower case, if all its characters are visible. -/
theorem bound_between {before cs behind token : List Char}
    (hbefore : ∀ c ∈ before, Text.isBlank c = true)
    (hbehind : ∀ c ∈ behind, Text.isBlank c = true) (hcs : cs.map Char.toLower = token)
    (htoken : ∀ c ∈ token, 33 ≤ c.toNat ∧ c.toNat ≤ 126) :
    bound? number? (before ++ (cs ++ behind)) =
      (number? (String.ofList token)).orElse fun _ => Text.integer? token := by
  have hvisible : ∀ c ∈ cs, 33 ≤ c.toNat ∧ c.toNat ≤ 126 := fun c hc =>
    visible_of_toLower (htoken _ (hcs ▸ List.mem_map_of_mem hc))
  have hlower : Text.lower cs = token :=
    (lower_ascii fun c hc => Nat.lt_of_le_of_lt (hvisible c hc).2 (by decide)).trans hcs
  have htrim : Text.trim (before ++ (cs ++ behind)) = cs := Text.trim_between hbefore hbehind
    (fun c hc => isBlank_of_visible (hvisible c (List.mem_of_head? hc)))
    (fun c hc => isBlank_of_visible (hvisible c (List.mem_of_getLast? hc)))
  rw [bound?, htrim, hlower]
  cases number? (String.ofList token) <;> rfl

/-! ### Names -/

theorem nameNumber_of_getElem {names : List String} (hnodup : names.Nodup) {i : Nat}
    {name : String} (h : names[i]? = some name) (first : Int) :
    nameNumber? names first name = some (first + i) := by
  obtain ⟨hi, rfl⟩ := List.getElem?_eq_some_iff.1 h
  have hfind : names.findIdx? (· == names[i]) = some i := by
    rw [List.findIdx?_eq_some_iff_getElem]
    refine ⟨hi, by simp, fun j hj => ?_⟩
    rw [beq_iff_eq, hnodup.getElem_inj_iff]
    omega
  rw [nameNumber?, hfind]
  rfl

/-- **A name is read as its number, in any letter case and between blanks.** -/
theorem bound_name {names : List String} (hnodup : names.Nodup)
    (hvisible : names.all fun name => name.toList.all fun c => 33 ≤ c.toNat ∧ c.toNat ≤ 126)
    (first : Int) {i : Nat} {name : String} (hname : names[i]? = some name)
    {before cs behind : List Char}
    (hbefore : ∀ c ∈ before, Text.isBlank c = true)
    (hbehind : ∀ c ∈ behind, Text.isBlank c = true) (hcs : cs.map Char.toLower = name.toList) :
    bound? (nameNumber? names first) (before ++ (cs ++ behind)) = some (first + i) := by
  simp only [List.all_eq_true, decide_eq_true_eq] at hvisible
  rw [bound_between hbefore hbehind hcs (hvisible name (List.mem_of_getElem? hname)),
    String.ofList_toList, nameNumber_of_getElem hnodup hname]
  rfl

/-! ### Integers -/

theorem readDigits_digits {ds : List Char} (hds : ∀ c ∈ ds, c.isDigit = true) (total : Nat) :
    Text.readDigits total ds = some (Nat.ofDigitChars 10 ds total) := by
  induction ds generalizing total with
  | nil => rfl
  | cons d ds ih =>
    have hd := hds d List.mem_cons_self
    have hne : d ≠ '_' := by
      rintro rfl
      exact absurd hd (by decide)
    rw [Text.readDigits, Binary64.digitValue_of_isDigit hd]
    · simp only [ih fun c hc => hds c (List.mem_cons_of_mem _ hc), Nat.ofDigitChars_cons]
    · intro _ _ h
      exact absurd h hne

theorem natural_digitsText (n : Nat) : Text.natural? (digitsText n) = some n := by
  have hdigits : ∀ c ∈ digitsText n, c.isDigit = true := fun c => Decimal.isDigit_digitsText
  have hvalue := Decimal.ofDigitChars_digitsText n
  have hne : digitsText n ≠ [] := Nat.toDigits_ne_nil
  obtain ⟨d, ds, hds⟩ := List.exists_cons_of_ne_nil hne
  rw [hds] at hdigits hvalue ⊢
  rw [Text.natural?, Binary64.digitValue_of_isDigit (hdigits d List.mem_cons_self)]
  simp only [readDigits_digits fun c hc => hdigits c (List.mem_cons_of_mem _ hc)]
  rw [Nat.ofDigitChars_cons] at hvalue
  rw [← hvalue]
  congr 2
  omega

/-- The characters of an integer are digits and a sign. -/
theorem mem_intText {n : Int} {c : Char} (h : c ∈ (intText n).toList) :
    c = '-' ∨ c.isDigit = true := by
  rw [intText, String.toList_ofList] at h
  split at h
  · obtain rfl | h := List.mem_cons.1 h
    · exact .inl rfl
    · exact .inr (Decimal.isDigit_digitsText h)
  · exact .inr (Decimal.isDigit_digitsText h)

theorem visible_intText {n : Int} {c : Char} (h : c ∈ (intText n).toList) :
    33 ≤ c.toNat ∧ c.toNat ≤ 126 := by
  obtain rfl | hdigit := mem_intText h
  · decide
  · simp only [Char.isDigit, Bool.and_eq_true, decide_eq_true_eq, UInt32.le_iff_toNat_le] at hdigit
    have hlow : 48 ≤ c.toNat := hdigit.1
    have hhigh : c.toNat ≤ 57 := hdigit.2
    omega

theorem unpadded_visible {cs : List Char} (h : ∀ c ∈ cs, 33 ≤ c.toNat ∧ c.toNat ≤ 126) :
    Text.unpadded cs = cs := by
  have hpadding : ∀ c ∈ cs, Text.isPadding c = false := fun c hc => by
    rw [Text.isPadding, isBlank_of_visible (h c hc)]
    rfl
  have hhead : ∀ c, cs.head? = some c → Text.isPadding c = false := fun c hc =>
    hpadding c (List.mem_of_head? hc)
  have hlast : ∀ c, cs.reverse.head? = some c → Text.isPadding c = false := fun c hc =>
    hpadding c (List.mem_reverse.1 (List.mem_of_head? hc))
  rw [Text.unpadded, Text.dropWhile_of_head hhead, Text.dropWhile_of_head hlast,
    List.reverse_reverse]

/-- An integer is read back from its text. -/
theorem integer_intText (n : Int) : Text.integer? (intText n).toList = some n := by
  rw [Text.integer?, unpadded_visible fun c => visible_intText, intText, String.toList_ofList]
  split_ifs with hneg
  · have hn : -(n.natAbs : Int) = n := by omega
    simp only [natural_digitsText]
    exact congrArg some hn
  · have hn : (n.natAbs : Int) = n := by omega
    -- No digit is taken for a sign.
    have hsign : ∀ c ∈ digitsText n.natAbs, c ≠ '-' ∧ c ≠ '+' := fun c hc => by
      have hdigit := Decimal.isDigit_digitsText hc
      constructor <;> rintro rfl <;> exact absurd hdigit (by decide)
    split
    · next cs hcs => exact absurd rfl (hsign '-' (hcs ▸ List.mem_cons_self)).1
    · next cs hcs => exact absurd rfl (hsign '+' (hcs ▸ List.mem_cons_self)).2
    · rw [natural_digitsText]
      exact congrArg some hn

/-- **An integer is read as itself**, where it is not a name. -/
theorem bound_intText {n : Int} (hname : number? (intText n) = none) {before behind : List Char}
    (hbefore : ∀ c ∈ before, Text.isBlank c = true)
    (hbehind : ∀ c ∈ behind, Text.isBlank c = true) :
    bound? number? (before ++ ((intText n).toList ++ behind)) = some n := by
  have hlower : (intText n).toList.map Char.toLower = (intText n).toList := by
    refine (List.map_congr_left fun c hc => ?_).trans (List.map_id _)
    obtain rfl | hdigit := mem_intText hc
    · rfl
    · exact Binary64.toLower_of_isDigit hdigit
  rw [bound_between hbefore hbehind hlower fun c => visible_intText, String.ofList_toList, hname,
    integer_intText]
  rfl

/-- **The text of a range of integers denotes just these.** -/
theorem bounds_rangeText (a b : Int) :
    bounds? (fun _ => none) (intText a ++ ":" ++ intText b) = some (a, b) := by
  have htext : intText a ++ ":" ++ intText b =
      String.ofList ((intText a).toList ++ ':' :: (intText b).toList) := by
    rw [← String.toList_inj]
    simp
  have hcolon : ':' ∉ (intText a).toList := fun h => by
    obtain h | h := mem_intText h <;> cases h
  have hread : ∀ n : Int, bound? (fun _ => none) (intText n).toList = some n := fun n => by
    simpa using @bound_intText (fun _ => none) n rfl [] [] (by simp) (by simp)
  rw [htext, bounds_colon hcolon, hread, hread]
  rfl

end MonitoringConfig
