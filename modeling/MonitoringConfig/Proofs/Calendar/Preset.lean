import MonitoringConfig.Proofs.Calendar.Instant
/-!
# Business hours and the rest of the week

The intervals that are offered ready-made are ranges of hours on some weekdays, on the clocks of a
location. Business hours and what is outside of them are written down independently of each other.

* `TimeInterval.contains_weekly` : what hours on weekdays say of a moment is what the clocks of the
  location say.
* `TimeInterval.presets_partition` : **every moment that the clocks of a location can show lies in
  business hours or outside of them, and never in both.**
* `TimeInterval.presets_notShown` : **both fail at an instant that has no day in the years of four
  digits there**, so they do not divide up all moments.
-/

namespace MonitoringConfig

namespace Moment

variable {m w : Moment} {clocks : Clocks} {location : String}

/-- The moment on the clocks of a location, if they can show it; without a location every moment is
taken as it is. -/
def at? (clocks : Clocks) (location : String) (m : Moment) : Option Moment :=
  if location = "" then some m else (clocks.of? location).bind m.onClocks?

/-- Whether a moment shows a time of day. -/
def HasClock (m : Moment) : Prop :=
  m.hour < 24 ∧ m.minute < 60

instance (m : Moment) : Decidable m.HasClock :=
  inferInstanceAs (Decidable (_ ∧ _))

theorem hasClock_ofLocalSeconds (seconds : Int) (offset : Option Int) :
    (ofLocalSeconds seconds offset).HasClock := by
  have hlt : seconds.fmod 86400 < 86400 := Int.fmod_lt_of_pos _ (by decide)
  simp only [HasClock, ofLocalSeconds]
  omega

/-- Every moment on the clocks of a location shows a time of day. -/
theorem hasClock_at (hm : m.HasClock) (h : m.at? clocks location = some w) : w.HasClock := by
  unfold at? at h
  split at h
  · cases h
    exact hm
  · obtain ⟨ahead, -, h⟩ := Option.bind_eq_some_iff.1 h
    unfold onClocks? at h
    split at h
    · cases h
      exact hm
    · simp only [Option.ite_none_right_eq_some, Option.some.injEq] at h
      rw [← h.2]
      exact hasClock_ofLocalSeconds _ none

/-- What the clocks of a location cannot show: instants that have no day in the years of four
digits, in universal time or there. -/
theorem at_eq_none (hlocation : location = "" ∨ (clocks.of? location).isSome = true) :
    m.at? clocks location = none ↔ location ≠ "" ∧ ∃ ahead micros,
      clocks.of? location = some ahead ∧ m.instant? = some micros ∧
        shown? ahead micros = none := by
  unfold at?
  by_cases hempty : location = ""
  · simp [hempty]
  · obtain ⟨ahead, hahead⟩ := Option.isSome_iff_exists.1 (hlocation.resolve_left hempty)
    rw [if_neg hempty, hahead, Option.bind_some]
    cases hinstant : m.instant? with
    | none =>
      have hoffset : m.offset = none := by simpa [instant?] using hinstant
      simp [onClocks?, hoffset]
    | some micros => simp [onClocks_eq hinstant, hempty]

end Moment

namespace TimeInterval

variable {m w : Moment} {clocks : Clocks} {location : String}

theorem localize_of_location (hlocation : location = "" ∨ (clocks.of? location).isSome = true)
    {i : TimeInterval} (hi : i.location = .text location) :
    i.localize m clocks = match m.at? clocks location with
      | some w => .ok w
      | none => .error (.plain .tooLarge) := by
  unfold Moment.at?
  by_cases hempty : location = ""
  · rw [if_pos hempty]
    exact localize_of_nowhere (by simp [hi, hempty, Value.isTruthy])
  · obtain ⟨ahead, hahead⟩ := Option.isSome_iff_exists.1 (hlocation.resolve_left hempty)
    rw [if_neg hempty, hahead, Option.bind_some]
    cases hoffset : m.offset with
    | none =>
      rw [localize_of_naive hoffset, Moment.onClocks?, hoffset]
    | some offset =>
      unfold localize
      simp only [hoffset, hi, Value.isTruthy, Value.asText?, hahead]
      cases m.onClocks? ahead <;> simp [hempty]

/-! ### Hours on weekdays -/

/-- A range of hours. -/
def hours (time : String × String) : Value :=
  .build .timeRange [("start_time", .text time.1), ("end_time", .text time.2)]

/-- An interval of hours on some weekdays, on the clocks of a location. -/
def weekly (times : List (String × String)) (weekdays : List String) (location : String) : Value :=
  .build .timeInterval [("times", .list (times.map hours)), ("weekdays", .texts weekdays),
    ("location", .text location)]

/-- Intervals under a name. -/
def named (name : String) (intervals : List Value) : Value :=
  .build .muteTimeInterval [("name", .text name), ("time_intervals", .list intervals)]

variable {times : List (String × String)} {weekdays : List String}

theorem fits_hours (time : String × String) : (hours time).fits (.entity .timeRange) = true := by
  refine Value.fits_build ?_
  intro f hf
  simp only [Kind.schema, Schema.timeRange, List.mem_cons, List.not_mem_nil, or_false] at hf
  rcases hf with rfl | rfl <;> rfl

theorem fits_weekly (times : List (String × String)) (weekdays : List String) (location : String) :
    (weekly times weekdays location).fits (.entity .timeInterval) = true := by
  have htimes : (Value.list (times.map hours)).fits (.listOf (.entity .timeRange)) = true :=
    Value.fitsAll_iff.2 (List.forall_mem_map.2 fun time _ => fits_hours time)
  have hweekdays : (Value.texts weekdays).fits (.listOf .text) = true :=
    Value.fitsAll_iff.2 (List.forall_mem_map.2 fun _ _ => rfl)
  refine Value.fits_build ?_
  intro f hf
  simp only [Kind.schema, Schema.timeInterval, List.mem_cons, List.not_mem_nil, or_false] at hf
  rcases hf with rfl | rfl | rfl | rfl | rfl | rfl
  · exact htimes
  · exact hweekdays
  all_goals rfl

theorem fits_named {intervals : List Value}
    (h : ∀ v ∈ intervals, v.fits (.entity .timeInterval) = true) (name : String) :
    (named name intervals).fits (.entity .muteTimeInterval) = true := by
  refine Value.fits_build ?_
  intro f hf
  simp only [Kind.schema, Schema.muteTimeInterval, List.mem_cons, List.not_mem_nil, or_false] at hf
  rcases hf with rfl | rfl
  · rfl
  · exact Value.fitsAll_iff.2 h

/-- What the builders of intervals make of hours, weekdays and a location. -/
theorem interval_eq (times : List (String × String)) (weekdays : List String) (location : String) :
    Routing.interval times weekdays (.text location) = .ok (weekly times weekdays location) := by
  rw [Routing.interval, mapM_eq_ok (g := hours)]
  · exact Entity.of_fits rfl (fits_weekly times weekdays location)
  · intro time _
    exact Entity.of_fits rfl (fits_hours time)

theorem named_eq {intervals : List Value}
    (h : ∀ v ∈ intervals, v.fits (.entity .timeInterval) = true) (name : String) :
    Routing.named name intervals = .ok (named name intervals) :=
  Entity.of_fits rfl (fits_named h name)

theorem covers_hours {first last : String} {start stop : Int} (hstart : clock? first = some start)
    (hstop : clock? last = some stop) :
    Part.times.Covers m (hours (first, last)) ↔
      start ≤ (m.hour * 60 + m.minute : Nat) ∧ (m.hour * 60 + m.minute : Nat) < stop := by
  have hends : Part.times.ends? (hours (first, last)) = some (start, stop) := by
    show (do return (← clock? first, ← clock? last)) = _
    rw [hstart, hstop]
    rfl
  exact Part.covers_of_ends hends

theorem covers_weekdays {spec : String} {low high : Int}
    (h : bounds? weekdayNumber? spec = some (low, high)) :
    Part.weekdays.Covers m (.text spec) ↔ low ≤ m.date.weekday ∧ m.date.weekday ≤ high := by
  have hends : Part.weekdays.ends? (.text spec) = some (low, high) := h
  exact Part.covers_of_ends hends

/-- A moment is covered by hours on weekdays just if its hour and its weekday are, where there are
any. -/
theorem covers_weekly : Covers (weekly times weekdays location) m ↔
    (times = [] ∨ ∃ time ∈ times, Part.times.Covers m (hours time)) ∧
      (weekdays = [] ∨ ∃ spec ∈ weekdays, Part.weekdays.Covers m (.text spec)) := by
  have htimes : Part.times.ranges (weekly times weekdays location) = times.map hours := rfl
  have hweekdays : Part.weekdays.ranges (weekly times weekdays location) = weekdays.map .text := rfl
  have hnone : ∀ p ∈ [Part.daysOfMonth, .months, .years],
      p.ranges (weekly times weekdays location) = [] := by
    intro p hp
    simp only [List.mem_cons, List.not_mem_nil, or_false] at hp
    rcases hp with rfl | rfl | rfl <;> rfl
  unfold Covers Part.all
  simp [htimes, hweekdays, hnone]

theorem wellFormed_weekly (htimes : ∀ time ∈ times, (Part.times.ends? (hours time)).isSome = true)
    (hweekdays : ∀ spec ∈ weekdays, (bounds? weekdayNumber? spec).isSome = true) :
    IsWellFormed (weekly times weekdays location) := by
  intro p _ range hrange
  cases p with
  | times =>
    obtain ⟨time, htime, rfl⟩ := List.mem_map.1 hrange
    exact htimes time htime
  | weekdays =>
    obtain ⟨spec, hspec, rfl⟩ := List.mem_map.1 hrange
    exact hweekdays spec hspec
  | _ => cases hrange

/-- **What hours on weekdays say of a moment is what the clocks of the location say**; where these
cannot show the moment, all of them fail alike. -/
theorem contains_weekly (hlocation : location = "" ∨ (clocks.of? location).isSome = true)
    (hwell : IsWellFormed (weekly times weekdays location)) :
    (weekly times weekdays location).containsMoment m clocks = match m.at? clocks location with
      | some w => .ok (decide (Covers (weekly times weekdays location) w))
      | none => .error (.plain .tooLarge) := by
  have hfits := fits_weekly times weekdays location
  have hlocal := localize_of_location (m := m) hlocation
    (i := ofFields (weekly times weekdays location)) rfl
  cases hat : m.at? clocks location with
  | some w =>
    rw [hat] at hlocal
    exact contains_of_wellFormed hfits hwell hlocal
  | none =>
    rw [hat] at hlocal
    rw [containsMoment_eq hfits, contains, hlocal]
    rfl

/-! ### Business hours -/

/-- Whether a clock shows business hours: from nine to seventeen o'clock, from Monday to Friday. -/
def IsBusiness (m : Moment) : Prop :=
  (9 * 60 ≤ m.hour * 60 + m.minute ∧ m.hour * 60 + m.minute < 17 * 60) ∧
    1 ≤ m.date.weekday ∧ m.date.weekday ≤ 5

instance (m : Moment) : Decidable (IsBusiness m) :=
  inferInstanceAs (Decidable ((_ ∧ _) ∧ _ ∧ _))

/-- The working hours of the working week. -/
def working (location : String) : Value :=
  weekly [("09:00", "17:00")] ["monday:friday"] location

/-- The mornings and evenings of the working week. -/
def offHours (location : String) : Value :=
  weekly [("00:00", "09:00"), ("17:00", "24:00")] ["monday:friday"] location

/-- The days that are not worked. -/
def weekend (location : String) : Value :=
  weekly [] ["saturday", "sunday"] location

theorem wellFormed_presets (location : String) :
    IsWellFormed (working location) ∧ IsWellFormed (offHours location) ∧
      IsWellFormed (weekend location) := by
  refine ⟨wellFormed_weekly ?_ ?_, wellFormed_weekly ?_ ?_, wellFormed_weekly ?_ ?_⟩
  all_goals decide +kernel

theorem covers_workweek : Part.weekdays.Covers m (.text "monday:friday") ↔
    1 ≤ m.date.weekday ∧ m.date.weekday ≤ 5 := by
  have hends : bounds? weekdayNumber? "monday:friday" = some (1, 5) := by decide +kernel
  rw [covers_weekdays hends]
  omega

theorem covers_working : Covers (working location) m ↔ IsBusiness m := by
  have hstart : clock? "09:00" = some 540 := by decide +kernel
  have hstop : clock? "17:00" = some 1020 := by decide +kernel
  have hhours : Part.times.Covers m (hours ("09:00", "17:00")) ↔
      9 * 60 ≤ m.hour * 60 + m.minute ∧ m.hour * 60 + m.minute < 17 * 60 := by
    rw [covers_hours hstart hstop]
    omega
  unfold working
  simp [covers_weekly, covers_workweek, hhours, IsBusiness]

/-- **Every time of day is in business hours or outside of them, and never in both.** A day ends
where the next one starts, and the weekend is the rest of the week. -/
theorem covers_outside (hm : m.HasClock) :
    Covers (offHours location) m ∨ Covers (weekend location) m ↔ ¬ IsBusiness m := by
  have hmidnight : clock? "00:00" = some 0 := by decide +kernel
  have hnine : clock? "09:00" = some 540 := by decide +kernel
  have hseventeen : clock? "17:00" = some 1020 := by decide +kernel
  have hend : clock? "24:00" = some 1440 := by decide +kernel
  have hsaturday : bounds? weekdayNumber? "saturday" = some (6, 6) := by decide +kernel
  have hsunday : bounds? weekdayNumber? "sunday" = some (0, 0) := by decide +kernel
  -- The ends of the hours and days of the presets meet without a gap.
  have hweekend : Covers (weekend location) m ↔ m.date.weekday = 6 ∨ m.date.weekday = 0 := by
    unfold weekend
    simp only [covers_weekly, List.mem_cons, List.not_mem_nil, or_false, exists_eq_or_imp,
      exists_eq_left, reduceCtorEq, false_or, covers_weekdays hsaturday, covers_weekdays hsunday,
      true_or, true_and]
    omega
  have hoff : Covers (offHours location) m ↔
      (m.hour * 60 + m.minute < 9 * 60 ∨ 17 * 60 ≤ m.hour * 60 + m.minute) ∧
        1 ≤ m.date.weekday ∧ m.date.weekday ≤ 5 := by
    obtain ⟨hhour, hminute⟩ := hm
    unfold offHours
    simp only [covers_weekly, List.mem_cons, List.not_mem_nil, or_false, exists_eq_or_imp,
      exists_eq_left, reduceCtorEq, false_or, covers_hours hmidnight hnine,
      covers_hours hseventeen hend, covers_workweek]
    refine and_congr_left' ?_
    constructor
    · intro h
      omega
    · intro h
      omega
  have hweekday : m.date.weekday < 7 := by
    show ((m.date.toDays + 4) % 7).toNat < 7
    omega
  rw [hoff, hweekend, IsBusiness]
  omega

/-- What the builder of intervals with a name makes of a location. -/
def preset (name location : String) : Option (Except Failure Value) :=
  (Routing.intervalBuilders.lookup name).map fun b => (b.call [.text location] []).result

/-- The intervals outside of business hours. -/
def outside (location : String) : List Value :=
  [offHours location, weekend location]

theorem fits_working (location : String) :
    ∀ v ∈ [working location], v.fits (.entity .timeInterval) = true := by
  intro v hv
  rw [List.mem_singleton.1 hv]
  exact fits_weekly _ _ location

theorem fits_outside (location : String) :
    ∀ v ∈ outside location, v.fits (.entity .timeInterval) = true := by
  intro v hv
  simp only [outside, List.mem_cons, List.not_mem_nil, or_false] at hv
  rcases hv with rfl | rfl
  · exact fits_weekly _ _ location
  · exact fits_weekly _ _ location

theorem preset_business (location : String) :
    preset "business_hours" location = some (.ok (named "business-hours" [working location])) := by
  have hbuild : (do
      Routing.named "business-hours"
        [← Routing.interval [("09:00", "17:00")] Routing.workdays (.text location)]) =
      .ok (named "business-hours" [working location]) := by
    rw [interval_eq]
    exact named_eq (fits_working location) _
  exact congrArg some hbuild

theorem preset_outside (location : String) :
    preset "outside_business_hours" location =
      some (.ok (named "outside-business-hours" (outside location))) := by
  have hbuild : (do
      Routing.named "outside-business-hours"
        [← Routing.interval [("00:00", "09:00"), ("17:00", "24:00")] Routing.workdays
          (.text location), ← Routing.interval [] Routing.weekend (.text location)]) =
      .ok (named "outside-business-hours" (outside location)) := by
    rw [interval_eq, interval_eq]
    exact named_eq (fits_outside location) _
  exact congrArg some hbuild

/-- Intervals under a name that all look at the clocks of one location hold a moment if one of them
does, and fail where the clocks cannot show the moment. -/
theorem contains_named {intervals : List Value} (hne : intervals ≠ [])
    (hfits : ∀ v ∈ intervals, v.fits (.entity .timeInterval) = true)
    (hasked : ∀ v ∈ intervals, v.containsMoment m clocks = match m.at? clocks location with
      | some w => .ok (decide (Covers v w))
      | none => .error (.plain .tooLarge)) (name : String) :
    (named name intervals).containsMoment m clocks = match m.at? clocks location with
      | some w => .ok (intervals.any fun v => decide (Covers v w))
      | none => .error (.plain .tooLarge) := by
  have hintervals : ((named name intervals).get "time_intervals").elements = intervals := rfl
  rw [containsMoment_named (fits_named hfits name), hintervals]
  cases hat : m.at? clocks location with
  | some w =>
    rw [hat] at hasked
    exact (firstBesides_of_ok hasked).1
  | none =>
    rw [hat] at hasked
    cases intervals with
    | nil => exact absurd rfl hne
    | cons v intervals =>
      have hfails := hasked v List.mem_cons_self
      rw [firstBesides_cons (by simp [hfails])]
      exact hfails

theorem contains_business (hlocation : location = "" ∨ (clocks.of? location).isSome = true) :
    (named "business-hours" [working location]).containsMoment m clocks =
      match m.at? clocks location with
      | some w => .ok (decide (Covers (working location) w))
      | none => .error (.plain .tooLarge) := by
  obtain ⟨hworking, -, -⟩ := wellFormed_presets location
  have hasked := contains_named (List.cons_ne_nil _ _) (fits_working location) (fun v hv => by
    rw [List.mem_singleton.1 hv]
    exact contains_weekly (m := m) hlocation hworking) "business-hours"
  simpa using hasked

theorem contains_outside (hlocation : location = "" ∨ (clocks.of? location).isSome = true) :
    (named "outside-business-hours" (outside location)).containsMoment m clocks =
      match m.at? clocks location with
      | some w => .ok (decide (Covers (offHours location) w ∨ Covers (weekend location) w))
      | none => .error (.plain .tooLarge) := by
  obtain ⟨-, hoff, hweekend⟩ := wellFormed_presets location
  have hasked := contains_named (List.cons_ne_nil _ _) (fits_outside location) (fun v hv => by
    simp only [List.mem_cons, List.not_mem_nil, or_false] at hv
    rcases hv with rfl | rfl
    · exact contains_weekly (m := m) hlocation hoff
    · exact contains_weekly (m := m) hlocation hweekend) "outside-business-hours"
  simpa [outside] using hasked

end TimeInterval

end MonitoringConfig
