import Mathlib.Algebra.Order.Field.Power
import Mathlib.Algebra.Order.Ring.Rat
import Mathlib.Data.Nat.Cast.Order.Field
import Mathlib.Tactic.FieldSimp
import Mathlib.Tactic.Linarith
import Mathlib.Tactic.Positivity
import Mathlib.Tactic.Ring
import MonitoringConfig.Number.Shortest
/-!
# Shortest decimals read back

The shortest decimal of a number lies among those that read back as the number, and no decimal reads
back as two numbers.

* `Binary64.isCanonical` : the numbers of the format.
* `Binary64.shortest_reads` : the shortest decimal of a finite number lies in its interval. It is
  found on one of the grids that are searched, because the last of them is finer than the interval.
* `Shortest.Rounding.unique` : the intervals of different numbers have no decimal in common.
-/

namespace MonitoringConfig

/-- The value of a decimal without its sign. -/
def Decimal.magnitude (d : Decimal) : ℚ :=
  d.digits * (10 : ℚ) ^ d.exponent

/-- The value of a decimal. -/
def Decimal.value (d : Decimal) : ℚ :=
  if d.negative then -d.magnitude else d.magnitude

/-- Whether a number is one of the format: a finite one has the mantissa that its exponent asks
for. -/
def Binary64.isCanonical : Binary64 → Bool
  | finite _ mantissa exponent =>
    minExponent ≤ exponent && exponent ≤ maxExponent && mantissa < 2 ^ 53
      && (2 ^ 52 ≤ mantissa || exponent == minExponent)
  | _ => true

namespace Shortest

/-! ### Intervals -/

/-- The quarter of a unit in the last place. -/
def Rounding.step (r : Rounding) : ℚ :=
  r.unit.1 / r.unit.2

/-- Whether a value lies in an interval. -/
def Rounding.Contains (r : Rounding) (q : ℚ) : Prop :=
  if r.closed then r.lower * r.step ≤ q ∧ q ≤ r.upper * r.step
  else r.lower * r.step < q ∧ q < r.upper * r.step

/-- A value in an interval lies between its ends, and is neither of them if they do not belong to
the interval. -/
theorem Rounding.Contains.bounds {r : Rounding} {q : ℚ} (h : r.Contains q) :
    r.lower * r.step ≤ q ∧ q ≤ r.upper * r.step ∧
      (r.closed = false → r.lower * r.step < q ∧ q < r.upper * r.step) := by
  rw [Contains] at h
  split at h
  · next hclosed => exact ⟨h.1, h.2, fun hopen => by rw [hclosed] at hopen; cases hopen⟩
  · exact ⟨h.1.le, h.2.le, fun _ => h⟩

theorem Rounding.step_of (mantissa : Nat) (exponent : Int) :
    (Rounding.of mantissa exponent).step = (2 : ℚ) ^ (exponent - 2) := by
  simp only [Rounding.step, Rounding.of]
  split
  · next h =>
    obtain ⟨n, hn⟩ := Int.eq_ofNat_of_zero_le (show 0 ≤ exponent - 2 by omega)
    simp [hn]
  · next h =>
    obtain ⟨n, hn⟩ := Int.eq_ofNat_of_zero_le (show 0 ≤ 2 - exponent by omega)
    have hneg : exponent - 2 = -(n : Int) := by omega
    simp [hn, hneg]

theorem Rounding.unit_pos (mantissa : Nat) (exponent : Int) :
    0 < (Rounding.of mantissa exponent).unit.2 := by
  simp only [Rounding.of]
  split
  · exact Nat.one_pos
  · exact Nat.pow_pos (by decide)

theorem fraction_spec (digits : Nat) (exponent : Int) :
    0 < (fraction digits exponent).2 ∧
      ((fraction digits exponent).1 : ℚ) / (fraction digits exponent).2 =
        digits * (10 : ℚ) ^ exponent := by
  simp only [fraction]
  split
  · next h =>
    obtain ⟨n, rfl⟩ := Int.eq_ofNat_of_zero_le h
    exact ⟨Nat.one_pos, by simp⟩
  · next h =>
    obtain ⟨n, hn⟩ := Int.eq_ofNat_of_zero_le (show 0 ≤ -exponent by omega)
    have hneg : exponent = -(n : Int) := by omega
    exact ⟨Nat.pow_pos (by decide), by simp [hneg, div_eq_mul_inv]⟩

/-- The comparison of fractions is the comparison of values. -/
theorem Rounding.holds_iff {r : Rounding} (hr : 0 < r.unit.2) (digits : Nat) (exponent : Int) :
    r.holds digits exponent = true ↔ r.Contains (digits * (10 : ℚ) ^ exponent) := by
  obtain ⟨hden, hvalue⟩ := fraction_spec digits exponent
  have hu : (0 : ℚ) < r.unit.2 := by exact_mod_cast hr
  have hd : (0 : ℚ) < (fraction digits exponent).2 := by exact_mod_cast hden
  have hle : ∀ n : Nat, (n * r.step ≤ digits * (10 : ℚ) ^ exponent ↔
      n * r.unit.1 * (fraction digits exponent).2 ≤ (fraction digits exponent).1 * r.unit.2) := by
    intro n
    rw [← hvalue, Rounding.step, mul_div_assoc', div_le_div_iff₀ hu hd]
    exact_mod_cast Iff.rfl
  have hge : ∀ n : Nat, (digits * (10 : ℚ) ^ exponent ≤ n * r.step ↔
      (fraction digits exponent).1 * r.unit.2 ≤ n * r.unit.1 * (fraction digits exponent).2) := by
    intro n
    rw [← hvalue, Rounding.step, mul_div_assoc', div_le_div_iff₀ hd hu]
    exact_mod_cast Iff.rfl
  simp only [Rounding.holds, Rounding.Contains]
  cases r.closed with
  | true => simp [hle, hge]
  | false => simp [lt_iff_lt_of_le_iff_le (hle r.upper), lt_iff_lt_of_le_iff_le (hge r.lower)]

/-! ### The search -/

/-- The number as a fraction, in units of a grid. -/
def Rounding.onScale (r : Rounding) (exponent : Int) : Nat × Nat :=
  if 0 ≤ exponent then (r.exact.1, r.exact.2 * Nat.pow 10 exponent.toNat)
  else (r.exact.1 * Nat.pow 10 (-exponent).toNat, r.exact.2)

theorem onGrid_eq (r : Rounding) (exponent : Int) :
    onGrid? r exponent =
      let (n, d) := r.onScale exponent
      match r.holds (n / d) exponent, r.holds (n / d + 1) exponent with
      | true, true => some (if 2 * (n % d) < d then n / d
          else if d < 2 * (n % d) then n / d + 1 else n / d + n / d % 2)
      | true, false => some (n / d)
      | false, true => some (n / d + 1)
      | false, false => none :=
  rfl

/-- What is found on a grid reads back. -/
theorem holds_of_onGrid {r : Rounding} {exponent : Int} {digits : Nat}
    (h : onGrid? r exponent = some digits) : r.holds digits exponent = true := by
  rw [onGrid_eq] at h
  generalize r.onScale exponent = p at h
  simp only at h
  split at h
  · next hbelow habove =>
    rw [← Option.some.inj h]
    split
    · exact hbelow
    · split
      · exact habove
      · obtain heven | hodd := Nat.mod_two_eq_zero_or_one (p.1 / p.2)
        · rwa [heven]
        · rwa [hodd]
  · next hbelow _ =>
    rwa [← Option.some.inj h]
  · next _ habove =>
    rwa [← Option.some.inj h]
  · cases h

/-- What is found on one of the grids reads back. -/
theorem search_holds {r : Rounding} {exponent : Int} (count : Nat)
    (h : ∃ k < count, (onGrid? r (exponent - k)).isSome = true) :
    r.holds (search r exponent count).1 (search r exponent count).2 = true := by
  induction count generalizing exponent with
  | zero => obtain ⟨k, hk, -⟩ := h; exact absurd hk (Nat.not_lt_zero k)
  | succ count ih =>
    rw [search]
    cases hgrid : onGrid? r exponent with
    | some digits => exact holds_of_onGrid hgrid
    | none =>
      obtain ⟨k, hk, hsome⟩ := h
      cases k with
      | zero => simp [hgrid] at hsome
      | succ k =>
        refine ih ⟨k, Nat.lt_of_succ_lt_succ hk, ?_⟩
        have hk' : exponent - 1 - k = exponent - (k + 1 : Nat) := by push_cast; ring
        rw [hk']
        exact hsome

/-- The zeros at the end of the digits are counted by the exponent. -/
theorem stripZeros_value (digits : Nat) (exponent : Int) (fuel : Nat) :
    ((stripZeros digits exponent fuel).1 : ℚ) * (10 : ℚ) ^ (stripZeros digits exponent fuel).2 =
      digits * (10 : ℚ) ^ exponent := by
  induction fuel generalizing digits exponent with
  | zero => rfl
  | succ fuel ih =>
    rw [stripZeros]
    split
    · next h =>
      simp only [bne_iff_ne, ne_eq, Bool.and_eq_true, beq_iff_eq] at h
      have hdigits : (digits : ℚ) = (digits / 10 : Nat) * 10 := by
        exact_mod_cast (Nat.div_mul_cancel (Nat.dvd_of_mod_eq_zero h.2)).symm
      rw [ih, hdigits, zpow_add_one₀ (by norm_num)]
      ring
    · rfl

/-- A number has a first digit. -/
theorem exists_length_toDigits (n : Nat) : ∃ k, (Nat.toDigits 10 n).length = k + 1 :=
  Nat.exists_eq_add_one_of_ne_zero Nat.length_toDigits_pos.ne'

theorem pow_le_of_length {n k : Nat} (hn : 0 < n) (hk : (Nat.toDigits 10 n).length = k + 1) :
    10 ^ k ≤ n := by
  cases k with
  | zero => exact hn
  | succ k =>
    refine Nat.le_of_not_lt fun h => ?_
    have := (Nat.length_toDigits_le_iff (by decide) k.succ_pos).2 h
    omega

/-- The first digit of a fraction stands where its magnitude says. -/
theorem magnitude_le (num den : Nat) (hnum : 0 < num) (hden : 0 < den) :
    (10 : ℚ) ^ (magnitude num den - 1) ≤ (num : ℚ) / den := by
  have hd : (0 : ℚ) < den := by exact_mod_cast hden
  rw [le_div_iff₀ hd]
  simp only [magnitude]
  split
  · next h =>
    obtain ⟨k, hk⟩ := exists_length_toDigits (num / den)
    have hpow := pow_le_of_length (Nat.div_pos h hden) hk
    have hexp : ((Nat.toDigits 10 (num / den)).length : Int) - 1 = k := by omega
    rw [hexp, zpow_natCast]
    exact_mod_cast (Nat.le_div_iff_mul_le hden).1 hpow
  · next h =>
    obtain ⟨k, hk⟩ := exists_length_toDigits (den / num)
    have hquot : 0 < den / num := Nat.div_pos (by omega) hnum
    simp only [hk, Nat.add_sub_cancel]
    split
    · next hle =>
      have hexp : (2 : Int) - (k + 1 : Nat) - 1 = -(k : Int) := by push_cast; ring
      rw [hexp, zpow_neg, zpow_natCast, inv_mul_le_iff₀ (by positivity), mul_comm]
      exact_mod_cast hle
    · have hexp : (1 : Int) - (k + 1 : Nat) - 1 = -(k + 1 : Nat) := by push_cast; ring
      have hlt := (Nat.length_toDigits_le_iff (by decide) k.succ_pos).1 hk.le
      have hle := ((Nat.div_lt_iff_lt_mul hnum).1 hlt).le
      rw [hexp, zpow_neg, zpow_natCast, inv_mul_le_iff₀ (by positivity)]
      exact_mod_cast hle

/-- The number lies between its two neighbours on a grid. -/
theorem onScale_spec {r : Rounding} (hr : 0 < r.unit.2) (exponent : Int) :
    let p := r.onScale exponent
    0 < p.2 ∧ (p.1 : ℚ) / p.2 * (10 : ℚ) ^ exponent = r.value * r.step := by
  have hu : (r.unit.2 : ℚ) ≠ 0 := by exact_mod_cast hr.ne'
  simp only [Rounding.onScale, Rounding.exact, Rounding.step]
  split
  · next h =>
    obtain ⟨n, rfl⟩ := Int.eq_ofNat_of_zero_le h
    refine ⟨Nat.mul_pos hr (Nat.pow_pos (by decide)), ?_⟩
    simp
    field_simp
  · next h =>
    obtain ⟨n, hn⟩ := Int.eq_ofNat_of_zero_le (show 0 ≤ -exponent by omega)
    have hneg : exponent = -(n : Int) := by omega
    refine ⟨hr, ?_⟩
    simp [hneg]
    field_simp

/-- A grid finer than the interval has a multiple in it. -/
theorem onGrid_isSome {r : Rounding} (hr : 0 < r.unit.2) (hlower : r.lower ≤ r.value)
    {exponent : Int} (hfine : r.value * r.step + (10 : ℚ) ^ exponent < r.upper * r.step) :
    (onGrid? r exponent).isSome = true := by
  obtain ⟨hd, hvalue⟩ := onScale_spec hr exponent
  -- The next multiple above the number is near enough to be in the interval.
  have habove : r.holds ((r.onScale exponent).1 / (r.onScale exponent).2 + 1) exponent = true := by
    rw [Rounding.holds_iff hr]
    generalize r.onScale exponent = p at hd hvalue
    have hp : (0 : ℚ) < p.2 := by exact_mod_cast hd
    have hgrid : (0 : ℚ) < (10 : ℚ) ^ exponent := by positivity
    have hstep : (0 : ℚ) ≤ r.step := div_nonneg (Nat.cast_nonneg _) (Nat.cast_nonneg _)
    have hlow : (p.1 : ℚ) / p.2 < (p.1 / p.2 + 1 : Nat) := by
      rw [div_lt_iff₀ hp]
      exact_mod_cast Nat.lt_mul_of_div_lt (Nat.lt_succ_self _) hd
    have hhigh : ((p.1 / p.2 + 1 : Nat) : ℚ) ≤ p.1 / p.2 + 1 := by
      rw [Nat.cast_succ]
      exact add_le_add_left Nat.cast_div_le 1
    have hbelow : r.lower * r.step < (p.1 / p.2 + 1 : Nat) * (10 : ℚ) ^ exponent := by
      calc (r.lower : ℚ) * r.step ≤ r.value * r.step :=
            mul_le_mul_of_nonneg_right (by exact_mod_cast hlower) hstep
        _ = p.1 / p.2 * (10 : ℚ) ^ exponent := hvalue.symm
        _ < _ := mul_lt_mul_of_pos_right hlow hgrid
    have hupper : (p.1 / p.2 + 1 : Nat) * (10 : ℚ) ^ exponent < r.upper * r.step := by
      calc ((p.1 / p.2 + 1 : Nat) : ℚ) * (10 : ℚ) ^ exponent
          ≤ (p.1 / p.2 + 1) * (10 : ℚ) ^ exponent := mul_le_mul_of_nonneg_right hhigh hgrid.le
        _ = r.value * r.step + (10 : ℚ) ^ exponent := by rw [add_mul, hvalue, one_mul]
        _ < _ := hfine
    rw [Rounding.Contains]
    split
    · exact ⟨hbelow.le, hupper.le⟩
    · exact ⟨hbelow, hupper⟩
  rw [onGrid_eq]
  simp only [habove]
  cases r.holds ((r.onScale exponent).1 / (r.onScale exponent).2) exponent <;> rfl

/-! ### The interval of a number -/

theorem Rounding.lower_le (mantissa : Nat) (exponent : Int) :
    (Rounding.of mantissa exponent).lower ≤ (Rounding.of mantissa exponent).value := by
  simp only [Rounding.of]
  split <;> omega

/-- The grid seventeen places behind the first digit is finer than the interval. -/
theorem grid_fine {mantissa : Nat} (hpos : 0 < mantissa) (hlt : mantissa < 2 ^ 53)
    (exponent : Int) :
    let r := Rounding.of mantissa exponent
    r.value * r.step + (10 : ℚ) ^ (magnitude r.exact.1 r.exact.2 - 1 - 17) < r.upper * r.step := by
  intro r
  have hstep : 0 < r.step := by rw [Rounding.step_of]; positivity
  have hunit : 0 < r.unit.1 := by
    have : r.unit.1 ≠ 0 := fun h => by simp [Rounding.step, h] at hstep
    omega
  have hfirst := magnitude_le r.exact.1 r.exact.2
    (Nat.mul_pos (Nat.mul_pos (by decide) hpos) hunit) (Rounding.unit_pos mantissa exponent)
  have hvalue : (r.exact.1 : ℚ) / r.exact.2 = 4 * mantissa * r.step := by
    simp only [Rounding.exact, Rounding.step, r, Rounding.of]
    push_cast
    ring
  have hmantissa : (mantissa : ℚ) < 2 ^ 53 := by exact_mod_cast hlt
  rw [hvalue] at hfirst
  have hgrid : (10 : ℚ) ^ (magnitude r.exact.1 r.exact.2 - 1 - 17) < 2 * r.step := by
    rw [zpow_sub₀ (by norm_num), div_lt_iff₀ (by positivity)]
    calc (10 : ℚ) ^ (magnitude r.exact.1 r.exact.2 - 1) ≤ 4 * mantissa * r.step := hfirst
      _ < 4 * 2 ^ 53 * r.step := by gcongr
      _ ≤ 2 * r.step * 10 ^ (17 : Int) := by
        norm_num
        linarith
  have hsum : (r.upper : ℚ) * r.step = r.value * r.step + 2 * r.step := by
    simp only [r, Rounding.of]
    push_cast
    ring
  rw [hsum]
  linarith

end Shortest

/-- **The shortest decimal of a finite number reads back as the number.** -/
theorem Binary64.shortest_reads (negative : Bool) {mantissa : Nat} (exponent : Int)
    (hpos : 0 < mantissa) (hlt : mantissa < 2 ^ 53) :
    ∃ d, (finite negative mantissa exponent).shortest? = some d ∧ d.negative = negative ∧
      (Shortest.Rounding.of mantissa exponent).Contains d.magnitude := by
  have hzero : (mantissa == 0) = false := by simpa using hpos.ne'
  have hr := Shortest.Rounding.unit_pos mantissa exponent
  have hfound := Shortest.search_holds 18 ⟨17, by decide,
    Shortest.onGrid_isSome hr (Shortest.Rounding.lower_le mantissa exponent)
      (Shortest.grid_fine hpos hlt exponent)⟩
  rw [Shortest.Rounding.holds_iff hr, ← Shortest.stripZeros_value _ _ 20] at hfound
  simp only [shortest?, hzero, Bool.false_eq_true, if_false]
  exact ⟨_, rfl, rfl, hfound⟩

namespace Shortest.Rounding

/-- The interval of a number lies below that of a greater one: they meet at most in a midpoint,
which does not belong to both. -/
theorem upper_le_lower {m m' : Nat} {e : Int} (k : Nat) (hm : m < 2 ^ 53)
    (he : Binary64.minExponent ≤ e) (hk : k = 0 ∧ m < m' ∨ 0 < k ∧ 2 ^ 52 ≤ m') :
    (of m e).upper ≤ (of m' (e + k)).lower * 2 ^ k ∧
      ((of m e).closed = true → (of m' (e + k)).closed = true →
        (of m e).upper < (of m' (e + k)).lower * 2 ^ k) := by
  simp only [of, Bool.and_eq_true, beq_iff_eq, decide_eq_true_eq]
  obtain ⟨rfl, hlt⟩ | ⟨hpos, hge⟩ := hk
  · split <;> omega
  · obtain ⟨j, rfl⟩ : ∃ j, k = j + 1 := ⟨k - 1, by omega⟩
    have hpow : 1 ≤ 2 ^ j := Nat.one_le_two_pow
    have hlower : ∀ n, 2 ^ 54 - 1 ≤ n → 2 * (2 ^ 54 - 1) ≤ n * 2 ^ (j + 1) := fun n hn => by
      calc 2 * (2 ^ 54 - 1) ≤ n * 2 := by omega
        _ ≤ n * (2 ^ j * 2) := by gcongr; omega
        _ = n * 2 ^ (j + 1) := by rw [Nat.pow_succ]
    split
    · have := hlower (4 * m' - 1) (by omega)
      omega
    · next hedge =>
      have habove : e + (j + 1 : Nat) > Binary64.minExponent := by omega
      have hne : m' ≠ 2 ^ 52 := fun h => hedge ⟨h, habove⟩
      have := hlower (4 * m' - 2) (by omega)
      omega

theorem lt_of_contains {m m' : Nat} {e e' : Int} {q q' : ℚ} (hm : m < 2 ^ 53)
    (he : Binary64.minExponent ≤ e) (hlt : e = e' ∧ m < m' ∨ e < e' ∧ 2 ^ 52 ≤ m')
    (hq : (of m e).Contains q) (hq' : (of m' e').Contains q') : q < q' := by
  obtain ⟨k, rfl⟩ : ∃ k : Nat, e' = e + k := ⟨(e' - e).toNat, by omega⟩
  have hk : k = 0 ∧ m < m' ∨ 0 < k ∧ 2 ^ 52 ≤ m' := by omega
  obtain ⟨hle, hstrict⟩ := upper_le_lower k hm he hk
  have hstep : (of m' (e + k)).step = 2 ^ k * (of m e).step := by
    rw [step_of, step_of, ← zpow_natCast, ← zpow_add₀ (by norm_num)]
    congr 1
    ring
  have hpos : 0 < (of m e).step := by rw [step_of]; positivity
  obtain ⟨-, hupper, hopen⟩ := hq.bounds
  obtain ⟨hlower, -, hopen'⟩ := hq'.bounds
  have hscale : ((of m e).upper : ℚ) * (of m e).step ≤
      (of m' (e + k)).lower * (of m' (e + k)).step := by
    rw [hstep, ← mul_assoc]
    exact mul_le_mul_of_nonneg_right (by exact_mod_cast hle) hpos.le
  -- The intervals may meet, in a point that is not in both of them.
  cases hc : (of m e).closed with
  | false => linarith [(hopen hc).2]
  | true =>
    cases hc' : (of m' (e + k)).closed with
    | false => linarith [(hopen' hc').1]
    | true =>
      have hsep : ((of m e).upper : ℚ) * (of m e).step <
          (of m' (e + k)).lower * (of m' (e + k)).step := by
        rw [hstep, ← mul_assoc]
        exact mul_lt_mul_of_pos_right (by exact_mod_cast hstrict hc hc') hpos
      linarith

/-- A value lies in the interval of one mantissa and exponent only. -/
theorem unique_of_normal {m m' : Nat} {e e' : Int} {q : ℚ}
    (hmin : Binary64.minExponent ≤ e) (hm : m < 2 ^ 53)
    (hnormal : 2 ^ 52 ≤ m ∨ e = Binary64.minExponent)
    (hmin' : Binary64.minExponent ≤ e') (hm' : m' < 2 ^ 53)
    (hnormal' : 2 ^ 52 ≤ m' ∨ e' = Binary64.minExponent)
    (hq : (of m e).Contains q) (hq' : (of m' e').Contains q) : m = m' ∧ e = e' := by
  by_contra hne
  have hapart : (e = e' ∧ m < m' ∨ e < e' ∧ 2 ^ 52 ≤ m') ∨
      (e' = e ∧ m' < m ∨ e' < e ∧ 2 ^ 52 ≤ m) := by omega
  obtain h | h := hapart
  · exact lt_irrefl q (lt_of_contains hm hmin h hq hq')
  · exact lt_irrefl q (lt_of_contains hm' hmin' h hq' hq)

/-- **No decimal reads back as two numbers.** -/
theorem unique {n n' : Bool} {m m' : Nat} {e e' : Int} {q : ℚ}
    (hx : (Binary64.finite n m e).isCanonical = true)
    (hy : (Binary64.finite n' m' e').isCanonical = true)
    (hq : (of m e).Contains q) (hq' : (of m' e').Contains q) : m = m' ∧ e = e' := by
  simp only [Binary64.isCanonical, Bool.and_eq_true, Bool.or_eq_true, decide_eq_true_eq,
    beq_iff_eq] at hx hy
  obtain ⟨⟨⟨hmin, -⟩, hm⟩, hnormal⟩ := hx
  obtain ⟨⟨⟨hmin', -⟩, hm'⟩, hnormal'⟩ := hy
  exact unique_of_normal hmin hm hnormal hmin' hm' hnormal' hq hq'

end Shortest.Rounding

end MonitoringConfig
