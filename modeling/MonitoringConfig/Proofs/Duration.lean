import MonitoringConfig.Proofs.Duration.Grammar
/-!
# The texts of durations

A duration is written as tokens and read back from them.

* `Duration.tokens_flatMap` : every row of tokens is read back, whatever its units and their order.
* `Duration.parse_format` : what is read back from the text of a duration is the duration without
  what is finer than a millisecond (`Duration.truncated`).
* `Duration.format_truncated` : that part does not show in the text, so the text is stable.
* `Duration.components_text` : the parts of the text, the longest unit first.
* `Duration.format_canonical` : **two texts mean the same duration just if it is written in the same
  way**, as its sign and its hours, minutes, seconds and milliseconds.
-/

namespace MonitoringConfig

namespace Duration

/-! ### Rows of tokens -/

theorem isDigits_digitsText (n : Nat) : IsDigits (digitsText n) :=
  ⟨Nat.toDigits_ne_nil, fun _ hc => Nat.isDigit_of_mem_toDigits (by decide) (by decide) hc⟩

theorem spells_flatMap (ts : List Token) : Spells (ts.flatMap Token.text) ts := by
  induction ts with
  | nil => exact .nil
  | cons t ts ih =>
    have hcount : numberOf (digitsText t.count) = t.count := Nat.ofDigitChars_ten_toDigits
    have hcons := Spells.cons (isDigits_digitsText t.count) t.unit ih
    rw [hcount] at hcons
    rw [List.flatMap_cons, Token.text, List.append_assoc]
    exact hcons

/-- **A row of tokens is read back from its text**, whatever its units and their order. -/
theorem tokens_flatMap (ts : List Token) : tokens (ts.flatMap Token.text) = .ok ts :=
  tokens_eq_ok.2 (spells_flatMap ts)

/-! ### What the text keeps -/

/-- Whether a duration is a whole number of milliseconds. -/
def isWholeMillis (d : Duration) : Bool :=
  d.nanoseconds % 1000000 == 0

/-- A duration without what is finer than a millisecond. -/
def truncated (d : Duration) : Duration :=
  let whole := d.nanoseconds.natAbs / 1000000 * 1000000
  ⟨if d.nanoseconds < 0 then -(whole : Int) else whole⟩

theorem truncated_eq_self {d : Duration} (h : d.isWholeMillis = true) : d.truncated = d := by
  simp only [isWholeMillis, beq_iff_eq] at h
  cases d with
  | mk n =>
    have habs : n.natAbs / 1000000 * 1000000 = n.natAbs :=
      Nat.div_mul_cancel (Int.natAbs_dvd_natAbs.2 (Int.dvd_of_emod_eq_zero h))
    simp only [truncated, habs, mk.injEq]
    split <;> omega

theorem natAbs_truncated (d : Duration) :
    d.truncated.nanoseconds.natAbs = d.nanoseconds.natAbs / 1000000 * 1000000 := by
  simp only [truncated]
  split <;> omega

theorem totalSize_components_cons (n : Nat) (u : TimeUnit) (us : List TimeUnit) :
    totalSize (components n (u :: us)) =
      (n / u.size * u.size : Nat) + totalSize (components (n % u.size) us) := by
  simp only [components, beq_iff_eq]
  split
  · next h => simp [h]
  · rfl

/-- The tokens of a number of nanoseconds are together as long as its whole milliseconds. -/
theorem totalSize_components (n : Nat) :
    totalSize (components n writtenUnits) = (n / 1000000 * 1000000 : Nat) := by
  simp only [writtenUnits, totalSize_components_cons, TimeUnit.size]
  simp only [components, totalSize]
  omega

/-- The tokens do not depend on what is finer than all their units. -/
theorem components_whole {k : Nat} {us : List TimeUnit} (hus : ∀ u ∈ us, k ∣ u.size) (n : Nat) :
    components (n / k * k) us = components n us := by
  induction us generalizing n with
  | nil => rfl
  | cons u us ih =>
    obtain ⟨j, hj⟩ := hus u List.mem_cons_self
    have hcount : n / k * k / u.size = n / u.size := by
      obtain rfl | hk := Nat.eq_zero_or_pos k
      · simp [hj]
      · rw [hj, ← Nat.div_div_eq_div_mul, Nat.mul_div_cancel _ hk, Nat.div_div_eq_div_mul]
    have hrest : n / k * k % u.size = n % u.size / k * k := by
      rw [hj, Nat.mod_mul_right_div_self, Nat.mul_comm (n / k), Nat.mul_mod_mul_left,
        Nat.mul_comm]
    have htail := ih (fun v hv => hus v (List.mem_cons_of_mem _ hv)) (n % u.size)
    simp only [components, hcount, hrest, htail]

theorem writtenUnits_dvd : ∀ u ∈ writtenUnits, 1000000 ∣ u.size := by
  decide

/-- What has tokens is at least a millisecond. -/
theorem le_of_components_ne_nil {n : Nat} (h : components n writtenUnits ≠ []) : 1000000 ≤ n := by
  refine Nat.le_of_not_lt fun hn => h ?_
  rw [← components_whole writtenUnits_dvd, Nat.div_eq_of_lt hn]
  rfl

/-- **What is finer than a millisecond does not show in the text.** -/
theorem format_truncated (d : Duration) : d.truncated.format = d.format := by
  simp only [format, natAbs_truncated, components_whole writtenUnits_dvd]
  cases hc : components d.nanoseconds.natAbs writtenUnits with
  | nil => rfl
  | cons t ts =>
    have hn := le_of_components_ne_nil (hc ▸ List.cons_ne_nil t ts)
    have hsign : d.truncated.nanoseconds < 0 ↔ d.nanoseconds < 0 := by
      simp only [truncated]
      split <;> omega
    simp only [hsign]

theorem splitSign_flatMap (ts : List Token) :
    splitSign (ts.flatMap Token.text) = (false, ts.flatMap Token.text) :=
  (spells_flatMap ts).splitSign false

/-- **The text of a duration is read back as its whole milliseconds.** -/
theorem parse_format (d : Duration) : parse? d.format = .ok d.truncated := by
  have htotal := totalSize_components d.nanoseconds.natAbs
  rw [format]
  split
  · next hc =>
    have hzero : d.truncated = zero := by
      rw [hc, totalSize] at htotal
      simp only [truncated, zero, mk.injEq]
      split <;> omega
    rw [hzero]
    rfl
  · next ts hne =>
    have hbody : ((components d.nanoseconds.natAbs writtenUnits).flatMap Token.text).isEmpty =
        false := by
      cases hc : components d.nanoseconds.natAbs writtenUnits with
      | nil => exact absurd hc hne
      | cons t ts => simp [Token.text, digitsText, Nat.toDigits_ne_nil]
    by_cases hneg : d.nanoseconds < 0
    · simp [parse?, hneg, splitSign, hbody, tokens_flatMap, ofTokens, htotal, truncated]
    · simp [parse?, hneg, splitSign_flatMap, hbody, tokens_flatMap, ofTokens, htotal, truncated]

/-! ### The parts of the text -/

/-- A part of the text of a duration: how many there are of a unit, or nothing where there is
none. -/
def component (count : Nat) (unit : String) : String :=
  if count = 0 then "" else toString count ++ unit

theorem components_cons_text (n : Nat) (u : TimeUnit) (us : List TimeUnit) :
    String.ofList ((components n (u :: us)).flatMap Token.text) =
      component (n / u.size) (String.ofList u.symbol) ++
        String.ofList ((components (n % u.size) us).flatMap Token.text) := by
  simp only [components, component, beq_iff_eq]
  split
  · rw [String.empty_append]
  · rw [List.flatMap_cons, String.ofList_append, Token.text, String.ofList_append]
    rfl

/-- **The text of a number of nanoseconds has a part for hours, minutes, seconds and
milliseconds**, and all but the hours are fewer than the unit before them holds. -/
theorem components_text (n : Nat) :
    ∃ hours minutes seconds millis : Nat, minutes < 60 ∧ seconds < 60 ∧ millis < 1000 ∧
      ((hours * 60 + minutes) * 60 + seconds) * 1000 + millis = n / 1000000 ∧
      String.ofList ((components n writtenUnits).flatMap Token.text) =
        component hours "h" ++ component minutes "m" ++ component seconds "s" ++
          component millis "ms" := by
  let behindHours := n % TimeUnit.hour.size
  let behindMinutes := behindHours % TimeUnit.minute.size
  let behindSeconds := behindMinutes % TimeUnit.second.size
  have htext : String.ofList ((components n writtenUnits).flatMap Token.text) =
      component (n / TimeUnit.hour.size) "h" ++
        component (behindHours / TimeUnit.minute.size) "m" ++
        component (behindMinutes / TimeUnit.second.size) "s" ++
        component (behindSeconds / TimeUnit.millisecond.size) "ms" := by
    have hend : ∀ rest, String.ofList ((components rest []).flatMap Token.text) = "" :=
      fun _ => rfl
    simp only [writtenUnits, components_cons_text, hend, String.append_empty, String.append_assoc]
    rfl
  refine ⟨_, _, _, _, ?_, ?_, ?_, ?_, htext⟩
  all_goals
    simp only [behindSeconds, behindMinutes, behindHours, TimeUnit.size]
    omega

/-- **A duration is written by its whole milliseconds**, behind a sign where it is negative. -/
theorem format_eq {d : Duration} (h : 1000000 ≤ d.nanoseconds.natAbs) :
    d.format = (if d.nanoseconds < 0 then "-" else "") ++
      String.ofList ((components d.nanoseconds.natAbs writtenUnits).flatMap Token.text) := by
  have htotal := totalSize_components d.nanoseconds.natAbs
  rw [format]
  split
  · next hc =>
    rw [hc, totalSize] at htotal
    omega
  · next hne =>
    split
    · rw [← String.ofList_append]
      rfl
    · rw [String.empty_append]

/-- What is shorter than a millisecond has no parts. -/
theorem format_of_lt {d : Duration} (h : d.nanoseconds.natAbs < 1000000) : d.format = "0s" := by
  have hnil : components d.nanoseconds.natAbs writtenUnits = [] :=
    Decidable.byContradiction fun hne => Nat.not_le_of_lt h (le_of_components_ne_nil hne)
  rw [format, hnil]

/-! ### One text for each duration -/

/-- Every unit is a whole number of milliseconds. -/
theorem size_dvd (u : TimeUnit) : 1000000 ∣ u.size := by
  cases u <;> decide

theorem dvd_totalSize (ts : List Token) : (1000000 : Int) ∣ totalSize ts := by
  induction ts with
  | nil => exact Int.dvd_zero _
  | cons t ts ih =>
    have ht : (1000000 : Int) ∣ (t.size : Int) :=
      Int.natCast_dvd_natCast.2 (Nat.dvd_mul_left_of_dvd (size_dvd t.unit) t.count)
    exact Int.dvd_add ht ih

/-- **What is read is a whole number of milliseconds.** -/
theorem isWholeMillis_of_parse {text : String} {d : Duration} (h : parse? text = .ok d) :
    d.isWholeMillis = true := by
  rw [parse?] at h
  dsimp only at h
  split at h
  · cases h
  · split at h
    · next ts _ =>
      cases h
      have hdvd := dvd_totalSize ts
      simp only [isWholeMillis, ofTokens, beq_iff_eq]
      split <;> omega
    · cases h

theorem parse_format_of_parse {text : String} {d : Duration} (h : parse? text = .ok d) :
    parse? d.format = .ok d := by
  rw [parse_format, truncated_eq_self (isWholeMillis_of_parse h)]

/-- **The text of a duration is canonical.** It names the whole milliseconds of the duration by
their parts and is read back as them, so that two texts mean the same duration just if that is
written in the same way. -/
theorem format_canonical :
    (∀ n : Int,
      (n.natAbs < 1000000 → format ⟨n⟩ = "0s") ∧
      (1000000 ≤ n.natAbs → ∃ hours minutes seconds millis : Nat,
        minutes < 60 ∧ seconds < 60 ∧ millis < 1000 ∧
        ((hours * 60 + minutes) * 60 + seconds) * 1000 + millis = n.natAbs / 1000000 ∧
        format ⟨n⟩ = (if n < 0 then "-" else "") ++ (component hours "h" ++
          component minutes "m" ++ component seconds "s" ++ component millis "ms")) ∧
      parse? (format ⟨n⟩) = .ok ⟨n.sign * (n.natAbs / 1000000 * 1000000 : Nat)⟩ ∧
      (1000000 ∣ n → parse? (format ⟨n⟩) = .ok ⟨n⟩)) ∧
    ∀ text text' d d', parse? text = .ok d → parse? text' = .ok d' →
      (d = d' ↔ d.format = d'.format) := by
  refine ⟨fun n => ⟨fun h => format_of_lt h, fun h => ?_, ?_, fun h => ?_⟩, ?_⟩
  · obtain ⟨hours, minutes, seconds, millis, hm, hs, hms, hvalue, htext⟩ := components_text n.natAbs
    exact ⟨hours, minutes, seconds, millis, hm, hs, hms, hvalue, by rw [format_eq h, htext]⟩
  · have hsign : (truncated ⟨n⟩).nanoseconds =
        n.sign * (n.natAbs / 1000000 * 1000000 : Nat) := by
      simp only [truncated]
      split
      · next hneg => rw [Int.sign_eq_neg_one_of_neg hneg, Int.neg_one_mul]
      · next hpos =>
        rcases Int.lt_or_eq_of_le (Int.not_lt.1 hpos) with hpos | hzero
        · rw [Int.sign_eq_one_of_pos hpos, Int.one_mul]
        · rw [← hzero]
          rfl
    rw [parse_format, ← hsign]
  · have hwhole : (⟨n⟩ : Duration).isWholeMillis = true := by
      simpa [isWholeMillis] using Int.emod_eq_zero_of_dvd h
    rw [parse_format, truncated_eq_self hwhole]
  · intro text text' d d' h h'
    refine ⟨congrArg format, fun heq => ?_⟩
    have hread := parse_format_of_parse h
    rw [heq, parse_format_of_parse h'] at hread
    exact (Except.ok.inj hread).symm

/-- An hour and a half is not written as an hour is, and a negative duration is read back without
what is finer than a millisecond. -/
theorem format_canonical_ninetyMinutes :
    parse? "90m" = .ok ⟨5400000000000⟩ ∧ parse? "1h" = .ok ⟨3600000000000⟩ ∧
      format ⟨5400000000000⟩ ≠ format ⟨3600000000000⟩ ∧
      parse? (format ⟨-61001500000⟩) = .ok ⟨-61001000000⟩ := by
  have hminutes : parse? "90m" = .ok ⟨5400000000000⟩ := rfl
  have hhour : parse? "1h" = .ok ⟨3600000000000⟩ := rfl
  obtain ⟨hparts, hsame⟩ := format_canonical
  refine ⟨hminutes, hhour, fun heq => ?_, (hparts _).2.2.1⟩
  exact absurd ((hsame _ _ _ _ hminutes hhour).2 heq) (by decide)

end Duration

end MonitoringConfig
