import Mathlib.Order.Bounds.Basic
import MonitoringConfig.TimeSpan
/-!
# Durations and time spans

A duration is one signed number of nanoseconds. A time span is kept as days, seconds and
microseconds, of which only the days can be negative, so below zero the seconds and microseconds
count upwards from a day before.

* `TimeSpan.parts_of` : what a time span is kept as is what it was put together of.
* `Duration.nanoseconds_ofTimeSpan` : the duration of a time span is as long as the time span.
* `Duration.toTimeSpan?_eq_some_iff` : a duration lies between its time span and a microsecond more.
* `Duration.timeSpan_spec` : **a time span comes back from its duration, and a duration in the range
  of time spans is rounded down to whole microseconds.**
-/

namespace MonitoringConfig

namespace TimeSpan

/-! ### Days, seconds and microseconds -/

/-- Days, seconds and microseconds as a time span is kept: at most nine digits of days, less than a
day of seconds and less than a second of microseconds. -/
structure IsNormal (days seconds micros : Int) : Prop where
  days_le : days.natAbs ≤ 999999999
  seconds_nonneg : 0 ≤ seconds
  seconds_lt : seconds < 86400
  micros_nonneg : 0 ≤ micros
  micros_lt : micros < 1000000

theorem days_eq (t : TimeSpan) : t.days = t.microseconds / 86400000000 :=
  Int.fdiv_eq_ediv_of_nonneg _ (by decide)

theorem seconds_eq (t : TimeSpan) : t.seconds = t.microseconds % 86400000000 / 1000000 := by
  rw [seconds, Int.fdiv_eq_ediv_of_nonneg _ (by decide), Int.fmod_eq_emod_of_nonneg _ (by decide)]
  rfl

theorem fraction_eq (t : TimeSpan) : t.fraction = t.microseconds % 1000000 :=
  Int.fmod_eq_emod_of_nonneg _ (by decide)

/-- **What a time span is kept as is what it was put together of.** -/
theorem parts_of {days seconds micros : Int} (h : IsNormal days seconds micros) :
    (of days seconds micros).days = days ∧ (of days seconds micros).seconds = seconds ∧
      (of days seconds micros).fraction = micros := by
  obtain ⟨-, hseconds, hseconds', hmicros, hmicros'⟩ := h
  simp only [days_eq, seconds_eq, fraction_eq, of, perDay]
  omega

/-- The days of a time span have at most nine digits if it is not too far from zero. -/
theorem inRange_iff (t : TimeSpan) :
    t.inRange = true ↔
      -999999999 * perDay ≤ t.microseconds ∧ t.microseconds < 1000000000 * perDay := by
  simp only [inRange, days_eq, decide_eq_true_eq, perDay]
  omega

theorem inRange_of {days seconds micros : Int} (h : IsNormal days seconds micros) :
    (of days seconds micros).inRange = true := by
  rw [inRange, (parts_of h).1]
  exact decide_eq_true h.days_le

end TimeSpan

namespace Duration

variable {d : Duration} {t : TimeSpan}

/-! ### From one to the other -/

/-- The duration of a time span is as long as the time span. -/
theorem nanoseconds_ofTimeSpan (t : TimeSpan) :
    (ofTimeSpan t).nanoseconds = t.microseconds * 1000 := by
  have hparts := congrArg TimeSpan.microseconds t.of_parts
  simp only [TimeSpan.of, TimeSpan.perDay] at hparts
  simp only [ofTimeSpan, TimeUnit.size]
  omega

/-- A duration lies between its time span and a microsecond more, below zero as above it. -/
theorem toTimeSpan?_eq_some_iff :
    d.toTimeSpan? = some t ↔ t.inRange = true ∧ (ofTimeSpan t).nanoseconds ≤ d.nanoseconds ∧
      d.nanoseconds < (ofTimeSpan t).nanoseconds + 1000 := by
  have hfloor : d.nanoseconds.fdiv 1000 = t.microseconds ↔
      (ofTimeSpan t).nanoseconds ≤ d.nanoseconds ∧
        d.nanoseconds < (ofTimeSpan t).nanoseconds + 1000 := by
    rw [Int.fdiv_eq_ediv_of_nonneg _ (by decide), nanoseconds_ofTimeSpan]
    omega
  simp only [toTimeSpan?, Option.ite_none_right_eq_some, Option.some.injEq]
  rw [← hfloor]
  constructor
  · rintro ⟨hrange, rfl⟩
    exact ⟨hrange, rfl⟩
  · rintro ⟨hrange, h⟩
    rw [h]
    exact ⟨hrange, rfl⟩

/-- A time span comes back from its duration. -/
theorem toTimeSpan?_ofTimeSpan (h : t.inRange = true) : (ofTimeSpan t).toTimeSpan? = some t :=
  toTimeSpan?_eq_some_iff.2 ⟨h, le_rfl, by omega⟩

/-- The durations that have a time span. -/
theorem exists_toTimeSpan?_iff :
    (∃ t, d.toTimeSpan? = some t) ↔ -999999999 * (TimeUnit.day.size : Int) ≤ d.nanoseconds ∧
      d.nanoseconds < 1000000000 * (TimeUnit.day.size : Int) := by
  simp only [toTimeSpan?, Option.ite_none_right_eq_some, Option.some.injEq, exists_eq_right',
    TimeSpan.inRange_iff, TimeSpan.perDay, TimeUnit.size]
  rw [Int.fdiv_eq_ediv_of_nonneg _ (by decide)]
  omega

/-! ### Rounding down -/

/-- The time span of a duration is the longest that is not longer. -/
theorem isGreatest_ofTimeSpan (h : d.toTimeSpan? = some t) :
    IsGreatest {n : Int | 1000 ∣ n ∧ n ≤ d.nanoseconds} (ofTimeSpan t).nanoseconds := by
  obtain ⟨-, hle, hlt⟩ := toTimeSpan?_eq_some_iff.1 h
  rw [nanoseconds_ofTimeSpan] at hle hlt ⊢
  refine ⟨⟨Int.dvd_mul_left _ _, hle⟩, ?_⟩
  rintro n ⟨⟨k, rfl⟩, hn⟩
  omega

/-- Nothing is lost on the way to a time span if there are only whole microseconds. -/
theorem ofTimeSpan_eq_iff (h : d.toTimeSpan? = some t) :
    ofTimeSpan t = d ↔ 1000 ∣ d.nanoseconds := by
  obtain ⟨⟨hdvd, hle⟩, hgreatest⟩ := isGreatest_ofTimeSpan h
  constructor
  · rintro rfl
    exact hdvd
  · intro hd
    have heq := le_antisymm hle (hgreatest ⟨hd, le_rfl⟩)
    cases d
    exact congrArg Duration.mk heq

/-- **A time span comes back from its duration, with its days, seconds and microseconds. A duration
in the range of time spans has one, which is its length rounded down to whole microseconds**, and as
long as the duration just if that is a whole number of them. -/
theorem timeSpan_spec :
    (∀ days seconds micros, TimeSpan.IsNormal days seconds micros →
      ∃ t, (ofTimeSpan (.of days seconds micros)).toTimeSpan? = some t ∧
        t.days = days ∧ t.seconds = seconds ∧ t.fraction = micros) ∧
    ∀ n : Int, -999999999 * (TimeUnit.day.size : Int) ≤ n →
      n < 1000000000 * (TimeUnit.day.size : Int) →
      ∃ t, (Duration.mk n).toTimeSpan? = some t ∧
        IsGreatest {k : Int | 1000 ∣ k ∧ k ≤ n} (ofTimeSpan t).nanoseconds ∧
        (ofTimeSpan t = Duration.mk n ↔ 1000 ∣ n) := by
  constructor
  · intro days seconds micros h
    exact ⟨_, toTimeSpan?_ofTimeSpan (TimeSpan.inRange_of h), TimeSpan.parts_of h⟩
  · intro n hle hlt
    obtain ⟨t, ht⟩ := exists_toTimeSpan?_iff.2 ⟨hle, hlt⟩
    exact ⟨t, ht, isGreatest_ofTimeSpan ht, ofTimeSpan_eq_iff ht⟩

/-- A microsecond and a half before zero. -/
theorem timeSpan_spec_negative :
    TimeSpan.IsNormal (-1) 86399 999998 ∧
      (∃ t, (ofTimeSpan (.of (-1) 86399 999998)).toTimeSpan? = some t ∧
        t.days = -1 ∧ t.seconds = 86399 ∧ t.fraction = 999998) ∧
      -999999999 * (TimeUnit.day.size : Int) ≤ -1500 ∧
      -1500 < 1000000000 * (TimeUnit.day.size : Int) ∧
      ∃ t, (Duration.mk (-1500)).toTimeSpan? = some t ∧
        IsGreatest {k : Int | 1000 ∣ k ∧ k ≤ -1500} (ofTimeSpan t).nanoseconds ∧
        (ofTimeSpan t = Duration.mk (-1500) ↔ (1000 : Int) ∣ -1500) := by
  have hnormal : TimeSpan.IsNormal (-1) 86399 999998 :=
    ⟨by decide, by decide, by decide, by decide, by decide⟩
  exact ⟨hnormal, timeSpan_spec.1 _ _ _ hnormal, by decide, by decide,
    timeSpan_spec.2 (-1500) (by decide) (by decide)⟩

end Duration

end MonitoringConfig
