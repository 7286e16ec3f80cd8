import Mathlib.Tactic.NormNum
import MonitoringConfig.Proofs.Number.Text
/-!
# Decimals are read as the nearest number

A fraction is rounded to the number of the format in whose interval it lies: the exponent is chosen
so that the mantissa has 53 binary digits, and the mantissa is the nearest integer.

* `Binary64.exponentOf_spec` : the exponent that the rounding of a fraction takes.
* `Binary64.ofRatio_spec` : what a fraction is rounded to contains it.
* `Binary64.ofDecimal_of_contains` : **a decimal is read as the number that it lies nearest to.**
* `Promql.formatNumber_literal` : the text of a finite number is a literal, behind a minus sign if
  the number is negative, and the literal is read as the number without its sign.
-/

namespace MonitoringConfig

namespace Binary64

open Shortest

/-! ### Rounding a fraction -/

/-- The quotient lies at most half a unit from the integer it is rounded to, and less than that if
the integer is odd. -/
theorem roundedDiv_spec (n : Nat) {d : Nat} (hd : 0 < d) :
    let r := roundedDiv n d
    2 * r * d ≤ 2 * n + d ∧ 2 * n ≤ 2 * r * d + d ∧
      (r % 2 = 1 → 2 * r * d < 2 * n + d ∧ 2 * n < 2 * r * d + d) := by
  intro r
  have hdiv : d * (n / d) + n % d = n := Nat.div_add_mod n d
  have hmod : n % d < d := Nat.mod_lt n hd
  have hcomm : ∀ q, 2 * q * d = 2 * (d * q) := fun q => by ring
  have hsucc : d * (n / d + 1) = d * (n / d) + d := by ring
  have hr : r = n / d ∧ 2 * (n % d) < d ∨ r = n / d + 1 ∧ d < 2 * (n % d) ∨
      2 * (n % d) = d ∧ r % 2 = 0 ∧ (r = n / d ∨ r = n / d + 1) := by
    simp only [r, roundedDiv]
    split
    · omega
    · split <;> omega
  rw [hcomm]
  rcases hr with ⟨h, hlt⟩ | ⟨h, hlt⟩ | ⟨heq, heven, h | h⟩
  · rw [h]
    omega
  · rw [h]
    omega
  · rw [h] at heven ⊢
    omega
  · rw [h] at heven ⊢
    omega

theorem scaleDown_spec (num : Nat) {den : Nat} (hden : 0 < den) (exponent : Int) :
    0 < (scaleDown num den exponent).2 ∧
      ((scaleDown num den exponent).1 : ℚ) / (scaleDown num den exponent).2 =
        (num : ℚ) / den / 2 ^ exponent := by
  have hd : (den : ℚ) ≠ 0 := by exact_mod_cast hden.ne'
  simp only [scaleDown]
  split
  · next h =>
    obtain ⟨n, rfl⟩ := Int.eq_ofNat_of_zero_le h
    refine ⟨Nat.mul_pos hden (Nat.pow_pos (by decide)), ?_⟩
    simp [div_div]
  · next h =>
    obtain ⟨n, hn⟩ := Int.eq_ofNat_of_zero_le (show 0 ≤ -exponent by omega)
    have hexp : exponent = -(n : Int) := by omega
    refine ⟨hden, ?_⟩
    rw [hexp]
    simp [div_eq_mul_inv]
    ring

/-- A fraction lies between the powers of two next to what the logarithms of its parts say. -/
theorem ratio_between_powers {num den : Nat} (hnum : 0 < num) (hden : 0 < den) :
    (2 : ℚ) ^ ((Nat.log2 num : Int) - Nat.log2 den - 1) < (num : ℚ) / den ∧
      (num : ℚ) / den < 2 ^ ((Nat.log2 num : Int) - Nat.log2 den + 1) := by
  have hd : (0 : ℚ) < den := by exact_mod_cast hden
  have hpow : ∀ {k m l : Int}, k + m = l → (2 : ℚ) ^ k * 2 ^ m = 2 ^ l := by
    rintro k m l rfl
    rw [zpow_add₀ (by norm_num)]
  have hnumLow : (2 : ℚ) ^ (Nat.log2 num : Int) ≤ num := by
    exact_mod_cast Nat.log2_self_le hnum.ne'
  have hnumHigh : (num : ℚ) < 2 ^ (Nat.log2 num + 1 : Int) := by
    exact_mod_cast Nat.lt_log2_self
  have hdenLow : (2 : ℚ) ^ (Nat.log2 den : Int) ≤ den := by
    exact_mod_cast Nat.log2_self_le hden.ne'
  have hdenHigh : (den : ℚ) < 2 ^ (Nat.log2 den + 1 : Int) := by
    exact_mod_cast Nat.lt_log2_self
  constructor
  · rw [lt_div_iff₀ hd]
    calc (2 : ℚ) ^ ((Nat.log2 num : Int) - Nat.log2 den - 1) * den
        < 2 ^ ((Nat.log2 num : Int) - Nat.log2 den - 1) * 2 ^ (Nat.log2 den + 1 : Int) := by gcongr
      _ = 2 ^ (Nat.log2 num : Int) := hpow (by omega)
      _ ≤ num := hnumLow
  · rw [div_lt_iff₀ hd]
    calc (num : ℚ) < 2 ^ (Nat.log2 num + 1 : Int) := hnumHigh
      _ = 2 ^ ((Nat.log2 num : Int) - Nat.log2 den + 1) * 2 ^ (Nat.log2 den : Int) :=
        (hpow (by omega)).symm
      _ ≤ 2 ^ ((Nat.log2 num : Int) - Nat.log2 den + 1) * den := by gcongr

/-- The test of the exponent compares the fraction with a power of two. -/
theorem scaleDown_lt_iff (num : Nat) {den : Nat} (hden : 0 < den) (exponent : Int) :
    (scaleDown num den exponent).1 < (scaleDown num den exponent).2 * Nat.pow 2 52 ↔
      (num : ℚ) / den < 2 ^ 52 * 2 ^ exponent := by
  obtain ⟨hpos, hscale⟩ := scaleDown_spec num hden exponent
  have hp : (0 : ℚ) < (scaleDown num den exponent).2 := by exact_mod_cast hpos
  rw [← div_lt_iff₀ (by positivity), ← hscale, div_lt_iff₀ hp, mul_comm]
  exact_mod_cast Iff.rfl

/-- The exponent at which the mantissa of a fraction has 53 binary digits, unless that is less than
the least. -/
theorem exponentOf_spec {num den : Nat} (hnum : 0 < num) (hden : 0 < den) :
    minExponent ≤ exponentOf num den ∧
      (num : ℚ) / den < 2 ^ 53 * 2 ^ exponentOf num den ∧
      (exponentOf num den = minExponent ∨ 2 ^ 52 * 2 ^ exponentOf num den ≤ (num : ℚ) / den) := by
  obtain ⟨hlow, hhigh⟩ := ratio_between_powers hnum hden
  set guess : Int := (Nat.log2 num : Int) - Nat.log2 den - 52 with hguess
  set chosen : Int := if (num : ℚ) / den < 2 ^ 52 * 2 ^ guess then guess - 1 else guess with hchosen
  have hexp : exponentOf num den = max chosen minExponent := by
    rw [exponentOf, hchosen]
    simp only [← hguess, scaleDown_lt_iff num hden]
  have hshift : ∀ {k : Nat} {e l : Int}, k + e = l → (2 : ℚ) ^ k * 2 ^ e = 2 ^ l := by
    rintro k e l rfl
    rw [zpow_add₀ (by norm_num), zpow_natCast]
  -- The logarithms are off by less than one each, so the guess is at most one too great.
  have hfits : 2 ^ 52 * (2 : ℚ) ^ chosen ≤ (num : ℚ) / den ∧
      (num : ℚ) / den < 2 ^ 53 * 2 ^ chosen := by
    rw [hchosen]
    split
    · next h =>
      have hsame : 2 ^ 53 * (2 : ℚ) ^ (guess - 1) = 2 ^ 52 * 2 ^ guess :=
        (hshift (by omega)).trans (hshift rfl).symm
      exact ⟨(hshift (by omega)).trans_le hlow.le, h.trans_eq hsame.symm⟩
    · next h => exact ⟨not_lt.1 h, hhigh.trans_eq (hshift (by omega)).symm⟩
  rw [hexp]
  refine ⟨le_max_right _ _, ?_, ?_⟩
  · refine hfits.2.trans_le ?_
    gcongr
    · norm_num
    · exact le_max_left _ _
  · obtain h | h := le_total chosen minExponent
    · exact .inl (max_eq_right h)
    · rw [max_eq_left h]
      exact .inr hfits.1

/-- What lies half a unit in the last place from a number, or less, lies in its interval. Where the
exponent changes below the number, it may lie only a quarter of a unit below. -/
theorem contains_of_near {mantissa : Nat} {exponent : Int} {q : ℚ} (hq : 0 ≤ q)
    (hlow : (mantissa - 1 / 2) * 2 ^ exponent ≤ q) (hhigh : q ≤ (mantissa + 1 / 2) * 2 ^ exponent)
    (hodd : mantissa % 2 = 1 →
      (mantissa - 1 / 2) * 2 ^ exponent < q ∧ q < (mantissa + 1 / 2) * 2 ^ exponent)
    (hedge : mantissa = 2 ^ 52 → minExponent < exponent →
      (mantissa - 1 / 4) * 2 ^ exponent ≤ q) :
    (Rounding.of mantissa exponent).Contains q := by
  -- The ends of the interval are counted in quarters of a unit in the last place.
  have hstep : (2 : ℚ) ^ exponent = 4 * (Rounding.of mantissa exponent).step := by
    rw [Rounding.step_of, zpow_sub₀ (by norm_num)]
    norm_num
    ring
  have hpos : 0 < (Rounding.of mantissa exponent).step := by rw [Rounding.step_of]; positivity
  rw [hstep] at hlow hhigh hodd hedge
  generalize hs : (Rounding.of mantissa exponent).step = step at *
  have hupper : ((Rounding.of mantissa exponent).upper : ℚ) * step =
      (mantissa + 1 / 2) * (4 * step) := by
    simp only [Rounding.of]
    push_cast
    ring
  have hlower : ((Rounding.of mantissa exponent).lower : ℚ) * step ≤ q := by
    simp only [Rounding.of]
    split
    · -- The least mantissa has its lower end a quarter below, not a half.
      next h =>
      simp only [Bool.and_eq_true, beq_iff_eq] at h
      have hle : 1 ≤ 4 * mantissa := by rw [h.1]; decide
      rw [Nat.cast_sub hle]
      push_cast
      linarith [hedge h.1 (of_decide_eq_true h.2)]
    · obtain rfl | hm := Nat.eq_zero_or_pos mantissa
      · simpa using hq
      · rw [Nat.cast_sub (by omega)]
        push_cast
        linarith
  rw [Rounding.Contains, hs, hupper]
  split
  · exact ⟨hlower, hhigh⟩
  · next hclosed =>
    have hm : mantissa % 2 = 1 := by
      simp only [Rounding.of, beq_iff_eq] at hclosed
      omega
    have hne : mantissa ≠ 2 ^ 52 := by
      rintro rfl
      cases hm
    refine ⟨?_, (hodd hm).2⟩
    have hle : 2 ≤ 4 * mantissa := by omega
    simp only [Rounding.of, Nat.pow_eq, hne, beq_eq_false_iff_ne.2, Bool.false_and, if_false,
      Bool.false_eq_true, ne_eq, not_false_eq_true]
    rw [Nat.cast_sub hle]
    push_cast
    linarith [(hodd hm).1]

/-- Rounding a fraction other than zero, with the mantissa's carry written out. -/
theorem ofRatio_eq (negative : Bool) {num : Nat} (den : Nat) (hnum : num ≠ 0) :
    ofRatio negative num den =
      if roundedDiv (scaleDown num den (exponentOf num den)).1
          (scaleDown num den (exponentOf num den)).2 = Nat.pow 2 53 then
        if exponentOf num den + 1 > maxExponent then .infinite negative
        else .finite negative (Nat.pow 2 52) (exponentOf num den + 1)
      else if exponentOf num den > maxExponent then .infinite negative
      else .finite negative (roundedDiv (scaleDown num den (exponentOf num den)).1
          (scaleDown num den (exponentOf num den)).2) (exponentOf num den) := by
  have hzero : ¬(num == 0) = true := by simpa using hnum
  rw [ofRatio, if_neg hzero]
  -- The exponent and the power are made variables: a comparison of the two sides would otherwise
  -- count the power up.
  obtain ⟨exponent, hexponent⟩ : ∃ e, exponentOf num den = e := ⟨_, rfl⟩
  obtain ⟨top, htop⟩ : ∃ n, Nat.pow 2 53 = n := ⟨_, rfl⟩
  rw [hexponent, htop]
  rcases hs : scaleDown num den exponent with ⟨n, d⟩
  by_cases h : roundedDiv n d = top
  · simp [h, hs]
  · simp [h, hs]

/-- The mantissa that a fraction is rounded to is at most half a unit in the last place from the
fraction, and less than that if it is odd. -/
theorem roundedDiv_near {n d : Nat} (hpos : 0 < d) {exponent : Int} {q : ℚ}
    (hscale : (n : ℚ) / d = q / 2 ^ exponent) :
    ((roundedDiv n d : ℚ) - 1 / 2) * 2 ^ exponent ≤ q ∧
      q ≤ ((roundedDiv n d : ℚ) + 1 / 2) * 2 ^ exponent ∧
      (roundedDiv n d % 2 = 1 →
        ((roundedDiv n d : ℚ) - 1 / 2) * 2 ^ exponent < q ∧
          q < ((roundedDiv n d : ℚ) + 1 / 2) * 2 ^ exponent) := by
  obtain ⟨hlow, hhigh, hodd⟩ := roundedDiv_spec n hpos
  generalize roundedDiv n d = r at *
  have hd : (0 : ℚ) < d := by exact_mod_cast hpos
  have hp : (0 : ℚ) < 2 ^ exponent := by positivity
  have hn : (n : ℚ) = q / 2 ^ exponent * d := by rw [← hscale, div_mul_cancel₀ _ hd.ne']
  -- The bounds on the mantissa are bounds on the fraction, in units in the last place.
  have hbelow : ∀ {a : ℚ}, a * d ≤ n ↔ a * 2 ^ exponent ≤ q := by
    intro a
    rw [hn, mul_le_mul_iff_left₀ hd, le_div_iff₀ hp]
  have habove : ∀ {a : ℚ}, n ≤ a * d ↔ q ≤ a * 2 ^ exponent := by
    intro a
    rw [hn, mul_le_mul_iff_left₀ hd, div_le_iff₀ hp]
  refine ⟨hbelow.1 ?_, habove.1 ?_, fun h => ?_⟩
  · have hcast : (2 * r * d : ℚ) ≤ 2 * n + d := by exact_mod_cast hlow
    linarith
  · have hcast : (2 * n : ℚ) ≤ 2 * r * d + d := by exact_mod_cast hhigh
    linarith
  · obtain ⟨hlow, hhigh⟩ := hodd h
    rw [← not_le, ← not_le, ← habove, ← hbelow, not_le, not_le]
    have hcast : (2 * r * d : ℚ) < 2 * n + d := by exact_mod_cast hlow
    have hcast' : (2 * n : ℚ) < 2 * r * d + d := by exact_mod_cast hhigh
    constructor <;> linarith

/-- What lies near to a fraction that is less than an integer is no more than the integer. -/
theorem le_of_near {r m : Nat} {exponent : Int} {q : ℚ}
    (hnear : ((r : ℚ) - 1 / 2) * 2 ^ exponent ≤ q) (hlt : q < m * 2 ^ exponent) : r ≤ m := by
  have hp : (0 : ℚ) < 2 ^ exponent := by positivity
  have hunits : (r : ℚ) - 1 / 2 < m := lt_of_mul_lt_mul_right (hnear.trans_lt hlt) hp.le
  have hreal : (r : ℚ) < m + 1 := by linarith
  have hnat : r < m + 1 := by exact_mod_cast hreal
  exact Nat.le_of_lt_succ hnat

/-- What lies near to a fraction that is at least an integer is no less than the integer. -/
theorem ge_of_near {r m : Nat} {exponent : Int} {q : ℚ}
    (hnear : q ≤ ((r : ℚ) + 1 / 2) * 2 ^ exponent) (hge : m * 2 ^ exponent ≤ q) : m ≤ r := by
  have hp : (0 : ℚ) < 2 ^ exponent := by positivity
  have hunits : (m : ℚ) ≤ r + 1 / 2 := le_of_mul_le_mul_right (hge.trans hnear) hp
  have hreal : (m : ℚ) < r + 1 := by linarith
  have hnat : m < r + 1 := by exact_mod_cast hreal
  exact Nat.le_of_lt_succ hnat

/-- A fraction is rounded to a number whose interval it lies in, or is beyond all numbers. -/
theorem ofRatio_spec (negative : Bool) {num den : Nat} (hnum : 0 < num) (hden : 0 < den) :
    ∃ mantissa exponent, (Rounding.of mantissa exponent).Contains ((num : ℚ) / den) ∧
      minExponent ≤ exponent ∧ mantissa < 2 ^ 53 ∧
      (2 ^ 52 ≤ mantissa ∨ exponent = minExponent) ∧
      ofRatio negative num den =
        if exponent > maxExponent then .infinite negative else .finite negative mantissa exponent := by
  obtain ⟨hmin, hlt, hge⟩ := exponentOf_spec hnum hden
  obtain ⟨hpos, hscale⟩ := scaleDown_spec num hden (exponentOf num den)
  obtain ⟨hlow, hhigh, hodd⟩ := roundedDiv_near hpos hscale
  have hq : 0 ≤ (num : ℚ) / den := by positivity
  rw [ofRatio_eq negative den hnum.ne']
  generalize exponentOf num den = exponent at *
  generalize roundedDiv (scaleDown num den exponent).1 (scaleDown num den exponent).2 = r at *
  generalize (num : ℚ) / den = q at *
  have hle : r ≤ 2 ^ 53 := le_of_near hlow (by exact_mod_cast hlt)
  obtain rfl | hne := eq_or_ne r (2 ^ 53)
  · -- The mantissa is rounded up to a power of two: it takes the next exponent.
    have hnext : (2 : ℚ) ^ (exponent + 1) = 2 * 2 ^ exponent := by
      rw [zpow_add_one₀ (by norm_num)]
      ring
    refine ⟨2 ^ 52, exponent + 1, contains_of_near hq ?_ ?_ ?_ ?_, by omega, by norm_num,
      .inl le_rfl, by simp⟩
    all_goals
      rw [hnext]
      push_cast at *
    · linarith
    · linarith
    · intro h
      norm_num at h
    · intro _ _
      linarith
  · have hnormal : exponent = minExponent ∨ 2 ^ 52 ≤ r :=
      hge.imp_right fun hge => ge_of_near hhigh (by exact_mod_cast hge)
    refine ⟨r, exponent, contains_of_near hq hlow hhigh hodd ?_, hmin, by omega, hnormal.symm,
      if_neg hne⟩
    -- Above the least exponent, no fraction below the least mantissa takes the exponent.
    intro hr hexp
    have hstart : 2 ^ 52 * 2 ^ exponent ≤ q := hge.resolve_left hexp.ne'
    rw [hr]
    push_cast
    linarith

/-- The number that a fraction is rounded to is one of the format. -/
theorem ofRatio_isCanonical (negative : Bool) (num : Nat) {den : Nat} (hden : 0 < den) :
    (ofRatio negative num den).isCanonical = true := by
  obtain rfl | hnum := Nat.eq_zero_or_pos num
  · have hzero : ofRatio negative 0 den = zero negative := rfl
    rw [hzero]
    rfl
  · obtain ⟨mantissa, exponent, -, hmin, hlt, hnormal, hround⟩ := ofRatio_spec negative hnum hden
    rw [hround]
    split
    · rfl
    · next hmax =>
      simp only [isCanonical, Bool.and_eq_true, Bool.or_eq_true, decide_eq_true_eq, beq_iff_eq]
      exact ⟨⟨⟨hmin, not_lt.1 hmax⟩, hlt⟩, hnormal⟩

/-- A fraction is rounded to the number whose interval it lies in. -/
theorem ofRatio_of_contains {negative : Bool} {mantissa num den : Nat} {exponent : Int}
    (hx : (finite negative mantissa exponent).isCanonical = true) (hpos : 0 < mantissa)
    (hden : 0 < den) (h : (Rounding.of mantissa exponent).Contains ((num : ℚ) / den)) :
    ofRatio negative num den = .finite negative mantissa exponent := by
  have hnum : 0 < num := by
    have hq := Promql.contains_pos hpos h
    refine Nat.pos_of_ne_zero ?_
    rintro rfl
    simp at hq
  obtain ⟨mantissa', exponent', h', hmin', hlt', hnormal', hround⟩ :=
    ofRatio_spec negative hnum hden
  simp only [isCanonical, Bool.and_eq_true, Bool.or_eq_true, decide_eq_true_eq, beq_iff_eq] at hx
  obtain ⟨⟨⟨hmin, hmax⟩, hlt⟩, hnormal⟩ := hx
  obtain ⟨rfl, rfl⟩ :=
    Rounding.unique_of_normal hmin hlt hnormal hmin' hlt' hnormal' h h'
  rw [hround, if_neg (not_lt.2 hmax)]

/-! ### Rounding a decimal -/

/-- The numbers of the format lie between powers of ten. -/
theorem contains_bounds {negative : Bool} {mantissa : Nat} {exponent : Int} {q : ℚ}
    (hx : (finite negative mantissa exponent).isCanonical = true) (hpos : 0 < mantissa)
    (h : (Rounding.of mantissa exponent).Contains q) :
    (10 : ℚ) ^ (-330 : Int) ≤ q ∧ q < (10 : ℚ) ^ (310 : Int) := by
  simp only [isCanonical, Bool.and_eq_true, decide_eq_true_eq] at hx
  obtain ⟨⟨⟨hmin, hmax⟩, hlt⟩, -⟩ := hx
  have hlower : (1 : ℚ) ≤ (Rounding.of mantissa exponent).lower := by
    have hnat : 1 ≤ (Rounding.of mantissa exponent).lower := by
      simp only [Rounding.of]
      split <;> omega
    exact_mod_cast hnat
  have hupper : ((Rounding.of mantissa exponent).upper : ℚ) ≤ 2 ^ 55 := by
    have hnat : (Rounding.of mantissa exponent).upper ≤ 2 ^ 55 := by
      simp only [Rounding.of]
      omega
    exact_mod_cast hnat
  have hstep : (2 : ℚ) ^ (-1076 : Int) ≤ (Rounding.of mantissa exponent).step ∧
      (Rounding.of mantissa exponent).step ≤ (2 : ℚ) ^ (969 : Int) := by
    rw [Rounding.step_of]
    rw [minExponent] at hmin
    rw [maxExponent] at hmax
    exact ⟨zpow_le_zpow_right₀ (by norm_num) (by omega),
      zpow_le_zpow_right₀ (by norm_num) (by omega)⟩
  obtain ⟨hbelow, habove, -⟩ := h.bounds
  generalize (Rounding.of mantissa exponent).step = step at *
  -- These powers of ten are beyond the least and the greatest number of the format.
  have hleast : (2 : ℚ) ^ 1076 ≤ 10 ^ 330 := by
    exact_mod_cast (by decide +kernel : 2 ^ 1076 ≤ 10 ^ 330)
  have hgreatest : (2 : ℚ) ^ 1024 < 10 ^ 310 := by
    exact_mod_cast (by decide +kernel : 2 ^ 1024 < 10 ^ 310)
  constructor
  · calc (10 : ℚ) ^ (-330 : Int) ≤ 1 * 2 ^ (-1076 : Int) := by
          rw [one_mul, zpow_neg, zpow_neg]
          exact inv_anti₀ (by positivity) hleast
      _ ≤ (Rounding.of mantissa exponent).lower * step :=
        mul_le_mul hlower hstep.1 (by positivity) (by linarith)
      _ ≤ q := hbelow
  · calc q ≤ (Rounding.of mantissa exponent).upper * step := habove
      _ ≤ 2 ^ 55 * 2 ^ (969 : Int) :=
        mul_le_mul hupper hstep.2 (le_trans (by positivity) hstep.1) (by positivity)
      _ = 2 ^ 1024 := by rw [← zpow_natCast, ← zpow_natCast, ← zpow_add₀ (by norm_num)]; rfl
      _ < (10 : ℚ) ^ (310 : Int) := hgreatest

/-- The powers of ten beyond which a decimal is not computed are beyond all numbers. -/
theorem ofDecimal_eq_ofRatio (negative : Bool) {digits : Nat} {exponent : Int}
    (hlow : (10 : ℚ) ^ (-330 : Int) ≤ digits * (10 : ℚ) ^ exponent)
    (hhigh : digits * (10 : ℚ) ^ exponent < (10 : ℚ) ^ (310 : Int)) :
    ofDecimal negative digits exponent =
      ofRatio negative (fraction digits exponent).1 (fraction digits exponent).2 := by
  have hpos : 0 < digits := by
    refine Nat.pos_of_ne_zero ?_
    rintro rfl
    have hnonneg : (0 : ℚ) < (10 : ℚ) ^ (-330 : Int) := by positivity
    rw [Nat.cast_zero, zero_mul] at hlow
    linarith
  have hten : (1 : ℚ) < 10 := by norm_num
  have hscale : (0 : ℚ) < (10 : ℚ) ^ exponent := by positivity
  obtain ⟨k, hk⟩ := exists_length_toDigits digits
  have hfew : ¬exponent + ((Nat.toDigits 10 digits).length : Int) < -330 := by
    intro hlt
    have hdigits : (digits : ℚ) < 10 ^ (k + 1) := by
      exact_mod_cast (Nat.length_toDigits_le_iff (by decide) k.succ_pos).1 hk.le
    have hsmall : (10 : ℚ) ^ ((k + 1 : Nat) + exponent) ≤ (10 : ℚ) ^ (-330 : Int) :=
      zpow_le_zpow_right₀ hten.le (by omega)
    rw [zpow_add₀ (by norm_num), zpow_natCast] at hsmall
    exact absurd hlow (not_le.2 ((mul_lt_mul_of_pos_right hdigits hscale).trans_le hsmall))
  have hmany : ¬310 < exponent + ((Nat.toDigits 10 digits).length : Int) := by
    intro hlt
    have hdigits : (10 : ℚ) ^ k ≤ digits := by
      exact_mod_cast pow_le_of_length hpos hk
    have hlarge : (10 : ℚ) ^ (310 : Int) ≤ (10 : ℚ) ^ ((k : Int) + exponent) :=
      zpow_le_zpow_right₀ hten.le (by omega)
    rw [zpow_add₀ (by norm_num), zpow_natCast] at hlarge
    exact absurd hhigh (not_lt.2 (hlarge.trans (mul_le_mul_of_nonneg_right hdigits hscale.le)))
  simp only [ofDecimal, beq_eq_false_iff_ne.2 hpos.ne', hfew, hmany, decide_false, Bool.or_self,
    Bool.false_eq_true, if_false, fraction]
  split <;> rfl

/-- **A decimal is read as the number that it lies nearest to.** -/
theorem ofDecimal_of_contains {negative : Bool} {mantissa digits : Nat} {exponent power : Int}
    (hx : (finite negative mantissa exponent).isCanonical = true) (hpos : 0 < mantissa)
    (h : (Rounding.of mantissa exponent).Contains (digits * (10 : ℚ) ^ power)) :
    ofDecimal negative digits power = .finite negative mantissa exponent := by
  obtain ⟨hlow, hhigh⟩ := contains_bounds hx hpos h
  obtain ⟨hden, hvalue⟩ := fraction_spec digits power
  rw [ofDecimal_eq_ofRatio negative hlow hhigh]
  exact ofRatio_of_contains hx hpos hden (by rw [hvalue]; exact h)

/-! ### Reading digits -/

theorem digitValue_of_isDigit {c : Char} (h : c.isDigit = true) :
    Text.digitValue? c = some (c.toNat - '0'.toNat) := by
  have hrange : 48 ≤ c.toNat ∧ c.toNat < 58 := by
    simp only [Char.isDigit, Bool.and_eq_true, decide_eq_true_eq, UInt32.le_iff_toNat_le] at h
    exact ⟨h.1, Nat.lt_succ_of_le h.2⟩
  rw [Text.digitValue?, ← Array.find?_toList]
  simp [Text.digitZeros, hrange]

/-- Digits are read as a number, up to a point or the end of the text. -/
theorem spanDigits_digits {ds r : List Char} (hds : ∀ c ∈ ds, c.isDigit = true)
    (hr : r = [] ∨ ∃ cs, r = '.' :: cs) (total count : Nat) :
    spanDigits total count (ds ++ r) = ((Nat.ofDigitChars 10 ds total, count + ds.length), r) := by
  induction ds generalizing total count with
  | nil =>
    obtain rfl | ⟨cs, rfl⟩ := hr
    · rfl
    · have hpoint : Text.digitValue? '.' = none := by decide
      rw [List.nil_append, spanDigits, hpoint]
      · rfl
      · rintro _ _ ⟨⟩
  | cons d ds ih =>
    have hd := hds d List.mem_cons_self
    have hne : d ≠ '_' := by
      rintro rfl
      exact absurd hd (by decide)
    rw [List.cons_append, spanDigits, digitValue_of_isDigit hd]
    · simp only [ih fun c hc => hds c (List.mem_cons_of_mem _ hc)]
      rw [Nat.ofDigitChars_cons, List.length_cons, Nat.add_assoc, Nat.add_comm 1]
    · intro _ _ h
      exact absurd h hne

theorem toLower_of_isDigit {c : Char} (h : c.isDigit = true) : c.toLower = c := by
  simp only [Char.isDigit, Bool.and_eq_true, decide_eq_true_eq] at h
  refine dif_neg ?_
  rintro ⟨hge, -⟩
  have hle : 'A'.val ≤ '9'.val := UInt32.le_trans hge h.2
  exact absurd hle (by decide)

/-- Digits with a fraction are read as a decimal with as many places. -/
theorem readUnsigned_digits {whole fraction : List Char} (hne : whole ≠ [])
    (hwhole : ∀ c ∈ whole, c.isDigit = true) (hfraction : ∀ c ∈ fraction, c.isDigit = true)
    (negative : Bool) :
    readUnsigned negative (whole ++ if fraction.isEmpty then [] else '.' :: fraction) =
      some (ofDecimal negative (Nat.ofDigitChars 10 (whole ++ fraction) 0) (-fraction.length)) := by
  obtain ⟨c, cs, rfl⟩ := List.exists_cons_of_ne_nil hne
  have hc := hwhole c List.mem_cons_self
  -- The words for infinity and what is no number start with letters.
  have hword : ∀ (word : String) (r : List Char), word.toList.head?.all Char.isDigit = false →
      String.ofList ((c :: cs ++ r).map Char.toLower) ≠ word := by
    rintro word r hword rfl
    simp [toLower_of_isDigit hc, hc] at hword
  generalize hr : (if fraction.isEmpty then [] else '.' :: fraction) = r
  have hspan : spanDigits 0 0 (c :: cs ++ r) =
      ((Nat.ofDigitChars 10 (c :: cs) 0, 0 + (c :: cs).length), r) := by
    refine spanDigits_digits hwhole ?_ 0 0
    rw [← hr]
    split
    · exact .inl rfl
    · exact .inr ⟨fraction, rfl⟩
  have hplaces : spanDigits 0 0 fraction =
      ((Nat.ofDigitChars 10 fraction 0, 0 + fraction.length), []) := by
    have hread := spanDigits_digits hfraction (.inl rfl) 0 0
    rwa [List.append_nil] at hread
  rw [readUnsigned]
  split
  · next h => exact absurd h (hword _ r (by decide))
  · next h => exact absurd h (hword _ r (by decide))
  · next h => exact absurd h (hword _ r (by decide))
  · simp only [hspan]
    cases fraction with
    | nil =>
      obtain rfl : r = [] := by simpa using hr.symm
      simp [readPower]
    | cons d ds =>
      obtain rfl : r = '.' :: d :: ds := by simpa using hr.symm
      have hdigits : Nat.ofDigitChars 10 (c :: cs ++ d :: ds) 0 =
          Nat.ofDigitChars 10 (c :: cs) 0 * Nat.pow 10 (0 + (d :: ds).length) +
            Nat.ofDigitChars 10 (d :: ds) 0 := by
        rw [Nat.ofDigitChars_append, Nat.ofDigitChars_eq_ofDigitChars_zero, Nat.zero_add,
          Nat.mul_comm, Nat.pow_eq]
      rw [hdigits]
      simp only [hplaces]
      simp [readPower]

end Binary64

namespace Promql

open Shortest

/-- Whether a character can stand in a number without a sign. -/
def isLiteralChar (c : Char) : Bool :=
  c.isDigit || c == '.'

/-- **The text of a finite number is a literal**, behind a minus sign if the number is less than
zero, and the literal is read as the number without its sign. -/
theorem formatNumber_literal {negative : Bool} {mantissa : Nat} {exponent : Int}
    (hx : (Binary64.finite negative mantissa exponent).isCanonical = true) :
    ∃ literal, (formatNumber (.finite negative mantissa exponent)).toList =
        (if negative && mantissa != 0 then ['-'] else []) ++ literal ∧
      literal ≠ [] ∧ (∀ c ∈ literal, isLiteralChar c = true) ∧
      Binary64.readUnsigned false literal = some (.finite false mantissa exponent) := by
  obtain rfl | hpos := Nat.eq_zero_or_pos mantissa
  · have hexponent : exponent = Binary64.minExponent := by simpa [Binary64.isCanonical] using
      (Bool.and_eq_true_iff.1 hx).2
    subst hexponent
    have hzero : ∀ {p : Char → Bool}, p '0' = true → ∀ c ∈ ['0'], p c = true := by
      intro p hp c hc
      rwa [List.mem_singleton.1 hc]
    refine ⟨['0'], ?_, by simp, hzero rfl, ?_⟩
    · simp [formatNumber, Binary64.isZero]
    · exact @Binary64.readUnsigned_digits ['0'] [] (by simp) (hzero rfl) (by simp) false
  · obtain ⟨d, htext, hsign, hreads⟩ := formatNumber_finite hpos hx
    obtain ⟨hne, hwhole, hfraction⟩ := d.isDigit_parts
    refine ⟨d.parts.1 ++ if d.parts.2.isEmpty then [] else '.' :: d.parts.2, ?_, by simp [hne], ?_, ?_⟩
    · rw [htext, Decimal.positional, Decimal.signText, hsign]
      simp [hpos.ne']
    · intro c hc
      obtain hc | hc := List.mem_append.1 hc
      · simp [isLiteralChar, hwhole c hc]
      · split at hc
        · cases hc
        · obtain rfl | hc := List.mem_cons.1 hc
          · rfl
          · simp [isLiteralChar, hfraction c hc]
    · have hvalue : (Nat.ofDigitChars 10 (d.parts.1 ++ d.parts.2) 0 : ℚ) *
          10 ^ (-(d.parts.2.length : Int)) = d.magnitude := by
        rw [← Decimal.parts_value, zpow_neg, zpow_natCast, div_eq_mul_inv]
      have hcanonical : (Binary64.finite false mantissa exponent).isCanonical = true := hx
      rw [Binary64.readUnsigned_digits hne hwhole hfraction]
      exact congrArg some
        (Binary64.ofDecimal_of_contains hcanonical hpos (by rw [hvalue]; exact hreads))

end Promql

end MonitoringConfig
