import Mathlib.Data.List.TakeWhile
import MonitoringConfig.Promql.Scalar
import MonitoringConfig.Proofs.Number.Shortest
/-!
# The numbers that texts denote

* `Decimal.denoted_positional` : a decimal is written as a text that denotes its value.
* `Promql.formatNumber_inj` : two numbers with the same text are the same number, or both zero.
-/

namespace MonitoringConfig

namespace Decimal

/-! ### Positional texts -/

/-- The value that an unsigned text of digits with a point denotes. -/
def denotedUnsigned (cs : List Char) : ℚ :=
  let fraction := (cs.dropWhile (· != '.')).drop 1
  (Nat.ofDigitChars 10 (cs.takeWhile (· != '.') ++ fraction) 0 : ℚ) / 10 ^ fraction.length

/-- The value that a text of digits with a sign and a point denotes. -/
def denoted : List Char → ℚ
  | '-' :: cs => -denotedUnsigned cs
  | cs => denotedUnsigned cs

theorem isDigit_digitsText {n : Nat} {c : Char} (h : c ∈ digitsText n) : c.isDigit = true :=
  Nat.isDigit_of_mem_toDigits (by decide) (by decide) h

theorem ofDigitChars_digitsText (n : Nat) : Nat.ofDigitChars 10 (digitsText n) 0 = n :=
  Nat.ofDigitChars_ten_toDigits

/-- The digits on both sides of the point are digits, and there are some before it. -/
theorem isDigit_parts (d : Decimal) :
    d.parts.1 ≠ [] ∧ (∀ c ∈ d.parts.1, c.isDigit = true) ∧ ∀ c ∈ d.parts.2, c.isDigit = true := by
  have hpad : ∀ n, ∀ c ∈ List.replicate n '0', c.isDigit = true := fun n c h => by
    rw [List.eq_of_mem_replicate h]
    rfl
  have hdigits : ∀ c ∈ digitsText d.digits, c.isDigit = true := fun c => isDigit_digitsText
  have hne : digitsText d.digits ≠ [] := Nat.toDigits_ne_nil
  simp only [parts]
  split
  · refine ⟨by simp [hne], fun c hc => ?_, by simp⟩
    exact (List.mem_append.1 hc).elim (hdigits c) (hpad _ c)
  · generalize hp : List.replicate _ '0' ++ digitsText d.digits = padded
    have hall : ∀ c ∈ padded, c.isDigit = true := fun c hc => by
      rw [← hp] at hc
      exact (List.mem_append.1 hc).elim (hpad _ c) (hdigits c)
    have hlength : (-d.exponent).toNat < padded.length := by
      rw [← hp, List.length_append, List.length_replicate]
      omega
    refine ⟨fun h => ?_, fun c hc => hall c (List.mem_of_mem_take hc),
      fun c hc => hall c (List.mem_of_mem_drop hc)⟩
    have := congrArg List.length h
    simp only [List.length_take, List.length_nil] at this
    omega

/-- The digits together are those of the decimal, with as many behind the point as it says. -/
theorem parts_value (d : Decimal) :
    (Nat.ofDigitChars 10 (d.parts.1 ++ d.parts.2) 0 : ℚ) / 10 ^ d.parts.2.length =
      d.magnitude := by
  simp only [parts, magnitude]
  split
  · next h =>
    obtain ⟨n, hn⟩ := Int.eq_ofNat_of_zero_le h
    simp only [List.append_nil, List.length_nil, pow_zero, div_one, Nat.ofDigitChars_append,
      Nat.ofDigitChars_replicate_zero, ofDigitChars_digitsText, hn, Int.toNat_natCast,
      zpow_natCast]
    push_cast
    ring
  · next h =>
    obtain ⟨n, hn⟩ := Int.eq_ofNat_of_zero_le (show 0 ≤ -d.exponent by omega)
    have hexp : d.exponent = -(n : Int) := by omega
    generalize hp : List.replicate _ '0' ++ digitsText d.digits = padded
    have hvalue : Nat.ofDigitChars 10 padded 0 = d.digits := by
      rw [← hp, Nat.ofDigitChars_append, Nat.ofDigitChars_replicate_zero, Nat.mul_zero,
        ofDigitChars_digitsText]
    have hlength : padded.length - (padded.length - (-d.exponent).toNat) = n := by
      rw [← hp, List.length_append, List.length_replicate]
      omega
    rw [List.take_append_drop, List.length_drop, hlength, hvalue, hexp, zpow_neg, zpow_natCast,
      div_eq_mul_inv]

/-- A fraction behind its point, if there is one. -/
def pointed (fraction : List Char) : List Char :=
  if fraction.isEmpty then [] else '.' :: fraction

theorem positional_toList (d : Decimal) :
    d.positional.toList = d.signText ++ (d.parts.1 ++ pointed d.parts.2) := by
  simp [positional, pointed]

theorem denotedUnsigned_pointed {whole : List Char} (hwhole : ∀ c ∈ whole, c.isDigit = true)
    (fraction : List Char) :
    denotedUnsigned (whole ++ pointed fraction) =
      (Nat.ofDigitChars 10 (whole ++ fraction) 0 : ℚ) / 10 ^ fraction.length := by
  have hpoint : ∀ c ∈ whole, (c != '.') = true := fun c hc => by
    have := hwhole c hc
    simp only [bne_iff_ne, ne_eq]
    rintro rfl
    exact absurd this (by decide)
  rw [denotedUnsigned]
  cases fraction with
  | nil => simp [pointed, List.takeWhile_eq_self_iff.2 hpoint, List.dropWhile_eq_nil_iff.2 hpoint]
  | cons c cs =>
    simp [pointed, List.takeWhile_append_of_pos hpoint, List.dropWhile_append_of_pos hpoint]

/-- A sign in front of digits changes the sign of what they denote. -/
theorem denoted_signText (d : Decimal) {whole rest : List Char} (hne : whole ≠ [])
    (hwhole : ∀ c ∈ whole, c.isDigit = true) :
    denoted (d.signText ++ (whole ++ rest)) =
      if d.negative then -denotedUnsigned (whole ++ rest) else denotedUnsigned (whole ++ rest) := by
  rw [signText]
  cases d.negative with
  | true => rfl
  | false =>
    obtain ⟨c, cs, rfl⟩ := List.exists_cons_of_ne_nil hne
    have hc : c ≠ '-' := by
      rintro rfl
      exact absurd (hwhole '-' List.mem_cons_self) (by decide)
    simp only [Bool.false_eq_true, if_false, List.nil_append, List.cons_append]
    exact denoted.eq_2 _ fun _ h => hc (List.cons.inj h).1

/-- **A decimal is written as a text that denotes its value.** -/
theorem denoted_positional (d : Decimal) : denoted d.positional.toList = d.value := by
  obtain ⟨hne, hwhole, -⟩ := d.isDigit_parts
  rw [positional_toList, denoted_signText d hne hwhole, denotedUnsigned_pointed hwhole,
    parts_value, value]

/-- The text of a decimal starts with a sign or a digit, and has no others than these and a
point. -/
theorem positional_chars (d : Decimal) :
    (∃ c cs, d.positional.toList = c :: cs ∧ (c.isDigit = true ∨ c = '-')) ∧
      ∀ c ∈ d.positional.toList, c.isDigit = true ∨ c = '-' ∨ c = '.' := by
  obtain ⟨hne, hwhole, hfraction⟩ := d.isDigit_parts
  rw [positional_toList, signText, pointed]
  constructor
  · cases d.negative with
    | true => exact ⟨'-', _, rfl, .inr rfl⟩
    | false =>
      cases hw : d.parts.1 with
      | nil => exact absurd hw hne
      | cons c cs => exact ⟨c, _, rfl, .inl (hwhole c (by rw [hw]; exact List.mem_cons_self))⟩
  · intro c hc
    rw [List.mem_append, List.mem_append] at hc
    obtain hc | hc | hc := hc
    · split at hc
      · exact .inr (.inl (List.mem_singleton.1 hc))
      · cases hc
    · exact .inl (hwhole c hc)
    · split at hc
      · cases hc
      · obtain rfl | hc := List.mem_cons.1 hc
        · exact .inr (.inr rfl)
        · exact .inl (hfraction c hc)

/-- Two decimals with the same value have the same sign and the same magnitude, unless they are
zero. -/
theorem value_inj {d d' : Decimal} (hd : 0 < d.magnitude) (hd' : 0 < d'.magnitude)
    (h : d.value = d'.value) : d.negative = d'.negative ∧ d.magnitude = d'.magnitude := by
  simp only [value] at h
  cases hn : d.negative <;> cases hn' : d'.negative <;>
    simp only [hn, hn', Bool.false_eq_true, if_true, if_false] at h
  · exact ⟨rfl, h⟩
  · linarith
  · linarith
  · exact ⟨rfl, neg_inj.1 h⟩

end Decimal

/-! ### Numbers with the same text -/

namespace Promql

open Shortest

theorem contains_pos {m : Nat} {e : Int} {q : ℚ} (hm : 0 < m)
    (h : (Rounding.of m e).Contains q) : 0 < q := by
  have hlower : 0 < (Rounding.of m e).lower := by
    simp only [Rounding.of]
    split <;> omega
  have hstep : 0 < (Rounding.of m e).step := by rw [Rounding.step_of]; positivity
  have hpos : (0 : ℚ) < (Rounding.of m e).lower * (Rounding.of m e).step :=
    mul_pos (by exact_mod_cast hlower) hstep
  exact hpos.trans_le h.bounds.1

/-- A finite number other than zero is written as a decimal that reads back as it. -/
theorem formatNumber_finite {n : Bool} {m : Nat} {e : Int} (hpos : 0 < m)
    (hx : (Binary64.finite n m e).isCanonical = true) :
    ∃ d : Decimal, formatNumber (.finite n m e) = d.positional ∧ d.negative = n ∧
      (Rounding.of m e).Contains d.magnitude := by
  have hlt : m < 2 ^ 53 := by
    simp only [Binary64.isCanonical, Bool.and_eq_true, decide_eq_true_eq] at hx
    exact hx.1.2
  obtain ⟨d, hd, hsign, hreads⟩ := Binary64.shortest_reads n e hpos hlt
  have hzero : (Binary64.finite n m e).isZero = false := by simpa [Binary64.isZero] using hpos.ne'
  exact ⟨d, by simp [formatNumber, hzero, hd], hsign, hreads⟩

/-- What the text of a number can be. -/
theorem formatNumber_cases {x : Binary64} (hx : x.isCanonical = true) (hnan : x ≠ .nan) :
    (∃ n, x = .infinite n ∧ formatNumber x = if n then "-Inf" else "+Inf") ∨
      (x.isZero = true ∧ formatNumber x = "0") ∨
      ∃ n m e, ∃ d : Decimal, x = .finite n m e ∧ 0 < m ∧ formatNumber x = d.positional ∧
        d.negative = n ∧ (Rounding.of m e).Contains d.magnitude := by
  cases x with
  | nan => exact absurd rfl hnan
  | infinite n => exact .inl ⟨n, rfl, rfl⟩
  | finite n m e =>
    obtain rfl | hpos := Nat.eq_zero_or_pos m
    · exact .inr (.inl ⟨rfl, rfl⟩)
    · obtain ⟨d, htext, hsign, hreads⟩ := formatNumber_finite hpos hx
      exact .inr (.inr ⟨n, m, e, d, rfl, hpos, htext, hsign, hreads⟩)

/-- Whether a character can stand in a number. -/
def isNumberChar (c : Char) : Bool :=
  c.isDigit || ['+', '-', '.', 'I', 'n', 'f'].contains c

/-- A number starts with a digit or a sign. -/
theorem formatNumber_chars {x : Binary64} (hx : x.isCanonical = true) (hnan : x ≠ .nan) :
    (∃ c cs, (formatNumber x).toList = c :: cs ∧ (c.isDigit = true ∨ c = '-' ∨ c = '+')) ∧
      ∀ c ∈ (formatNumber x).toList, isNumberChar c = true := by
  obtain ⟨n, -, ht⟩ | ⟨-, ht⟩ | ⟨-, -, -, d, -, -, ht, -, -⟩ := formatNumber_cases hx hnan
  · rw [ht]
    cases n with
    | true => exact ⟨⟨'-', _, rfl, .inr (.inl rfl)⟩, List.all_eq_true.1 (by decide)⟩
    | false => exact ⟨⟨'+', _, rfl, .inr (.inr rfl)⟩, List.all_eq_true.1 (by decide)⟩
  · rw [ht]
    exact ⟨⟨'0', [], rfl, .inl rfl⟩, List.all_eq_true.1 (by decide)⟩
  · obtain ⟨⟨c, cs, hhead, hc⟩, hall⟩ := d.positional_chars
    rw [ht]
    refine ⟨⟨c, cs, hhead, hc.imp_right .inl⟩, fun c hc => ?_⟩
    obtain h | rfl | rfl := hall c hc
    · rw [isNumberChar, h, Bool.true_or]
    · rfl
    · rfl

/-- Two decimals with the same text have the same sign and the same magnitude, unless they are
zero. -/
theorem positional_inj {d d' : Decimal} (hd : 0 < d.magnitude) (hd' : 0 < d'.magnitude)
    (h : d.positional = d'.positional) :
    d.negative = d'.negative ∧ d.magnitude = d'.magnitude :=
  Decimal.value_inj hd hd' (by rw [← Decimal.denoted_positional, h, Decimal.denoted_positional])

theorem infinite_ne_positional (n : Bool) (d : Decimal) :
    (if n then "-Inf" else "+Inf") ≠ d.positional := fun h => by
  have hmem : 'I' ∈ d.positional.toList := by rw [← h]; cases n <;> decide
  exact absurd (d.positional_chars.2 'I' hmem) (by decide)

theorem zero_ne_positional {d : Decimal} (hd : 0 < d.magnitude) : "0" ≠ d.positional := fun h => by
  have hvalue : Decimal.denoted "0".toList = d.value := by rw [h, Decimal.denoted_positional]
  have hdigit : Nat.ofDigitChars 10 ['0'] 0 = 0 := rfl
  have hzero : Decimal.denoted "0".toList = 0 := by
    simp [Decimal.denoted, Decimal.denotedUnsigned, hdigit]
  rw [hzero, Decimal.value] at hvalue
  split at hvalue <;> linarith

/-- **Two numbers with the same text are the same number, or both zero.** -/
theorem formatNumber_inj {x y : Binary64} (hx : x.isCanonical = true) (hy : y.isCanonical = true)
    (hxn : x ≠ .nan) (hyn : y ≠ .nan) (h : formatNumber x = formatNumber y) :
    x = y ∨ (x.isZero = true ∧ y.isZero = true) := by
  obtain ⟨n, rfl, ht⟩ | ⟨hzero, ht⟩ | ⟨n, m, e, d, rfl, hpos, ht, hsign, hreads⟩ :=
      formatNumber_cases hx hxn <;>
    obtain ⟨n', rfl, ht'⟩ | ⟨hzero', ht'⟩ | ⟨n', m', e', d', rfl, hpos', ht', hsign', hreads'⟩ :=
      formatNumber_cases hy hyn <;>
    rw [ht, ht'] at h
  · left
    cases n <;> cases n' <;> first | rfl | exact absurd h (by decide)
  · exact absurd h (by cases n <;> decide)
  · exact absurd h (infinite_ne_positional n d')
  · exact absurd h (by cases n' <;> decide)
  · exact .inr ⟨hzero, hzero'⟩
  · exact absurd h (zero_ne_positional (contains_pos hpos' hreads'))
  · exact absurd h.symm (infinite_ne_positional n' d)
  · exact absurd h.symm (zero_ne_positional (contains_pos hpos hreads))
  · left
    obtain ⟨hn, hm⟩ := positional_inj (contains_pos hpos hreads) (contains_pos hpos' hreads') h
    rw [hm] at hreads
    obtain ⟨rfl, rfl⟩ := Rounding.unique hx hy hreads hreads'
    rw [← hsign, ← hsign', hn]

end Promql

/-! ### Equality by value -/

namespace Binary64

/-- A zero as a fraction. -/
theorem ratio_of_isZero {x : Binary64} (h : x.isZero = true) : ∃ d, x.ratio? = some (0, d) := by
  cases x with
  | finite n m e =>
    obtain rfl : m = 0 := by simpa [isZero] using h
    rw [ratio?]
    split
    · exact ⟨1, by simp⟩
    · exact ⟨_, by simp; rfl⟩
  | _ => cases h

theorem ratio_pos {x : Binary64} {a : Int} {b : Nat} (h : x.ratio? = some (a, b)) : 0 < b := by
  cases x with
  | finite n m e =>
    simp only [ratio?] at h
    split at h
    · cases h
      exact Nat.one_pos
    · cases h
      exact Nat.pow_pos (by decide)
  | _ => cases h

/-- Every number is equal to itself, and the two zeros are equal. -/
theorem equal_of_same {x y : Binary64} (hx : x ≠ .nan)
    (h : x = y ∨ (x.isZero = true ∧ y.isZero = true)) : x.equal y = true := by
  obtain rfl | ⟨hzero, hzero'⟩ := h
  · cases x with
    | nan => exact absurd rfl hx
    | infinite n => simp [equal, compare?]
    | finite n m e =>
      obtain ⟨⟨a, b⟩, hab⟩ : ∃ p, (finite n m e).ratio? = some p := by
        rw [ratio?]
        split <;> exact ⟨_, rfl⟩
      simp [equal, compare?, hab]
  · obtain ⟨d, hd⟩ := ratio_of_isZero hzero
    obtain ⟨d', hd'⟩ := ratio_of_isZero hzero'
    cases x with
    | finite n m e => cases y with
      | finite n' m' e' => simp [equal, compare?, hd, hd']
      | _ => cases hzero'
    | _ => cases hzero

theorem compareInt_of_same {x y : Binary64} (h : x = y ∨ (x.isZero = true ∧ y.isZero = true))
    (n : Int) (hn : x.compareInt? n = some .eq) : y.compareInt? n = some .eq := by
  obtain rfl | ⟨hzero, hzero'⟩ := h
  · exact hn
  · obtain ⟨d, hd⟩ := ratio_of_isZero hzero
    obtain ⟨d', hd'⟩ := ratio_of_isZero hzero'
    cases x with
    | finite s m e => cases y with
      | finite s' m' e' =>
        have hd0 : (d : Int) ≠ 0 := by exact_mod_cast (ratio_pos hd).ne'
        simp only [compareInt?, hd, Option.map_some, Option.some.injEq, compare_eq_iff_eq] at hn
        obtain rfl : n = 0 := (mul_eq_zero.1 hn.symm).resolve_right hd0
        simp [compareInt?, hd']
      | _ => cases hzero'
    | _ => cases hzero

/-- A number has the value of at most one integer. -/
theorem compareInt_unique {x : Binary64} {n n' : Int} (h : x.compareInt? n = some .eq)
    (h' : x.compareInt? n' = some .eq) : n = n' := by
  cases x with
  | nan => cases h
  | infinite s => cases s <;> cases h
  | finite s m e =>
    obtain ⟨⟨a, b⟩, hab⟩ : ∃ p, (finite s m e).ratio? = some p := by
      rw [ratio?]
      split <;> exact ⟨_, rfl⟩
    have hb : (b : Int) ≠ 0 := by exact_mod_cast (ratio_pos hab).ne'
    simp only [compareInt?, hab, Option.map_some, Option.some.injEq, compare_eq_iff_eq] at h h'
    exact mul_right_cancel₀ hb (h.symm.trans h')

end Binary64

end MonitoringConfig
