import MonitoringConfig.Builder.Routing
import MonitoringConfig.Proofs.Building
import MonitoringConfig.Proofs.Calendar.Reading
/-!
# Moments in time intervals

A time interval has five parts: hours of the day, weekdays, days of the month, months and years.
Each part is a list of ranges. What a part says of a moment is told here range by range, whatever is
looked at first, and once for all five parts.

* `TimeInterval.Part.test_of_ends` : a range with well-formed texts covers a moment just if the
  moment lies between its ends.
* `TimeInterval.contains_spec` : **an interval with well-formed texts contains a moment just if each
  part is empty or has a range that covers the moment.**
-/

namespace MonitoringConfig

/-! ### Answers one after the other -/

section

variable {α : Type} {passed : Bool} {f : α → Except Failure Bool} {as : List α}
  {r : Except Failure Bool}

/-- The first of several answers that is not passed over. -/
def firstBesides (passed : Bool) (f : α → Except Failure Bool) : List α → Except Failure Bool
  | [] => .ok passed
  | a :: as => do
    let answer ← f a
    if answer = passed then firstBesides passed f as else return answer

theorem anyOf_eq (f : α → Except Failure Bool) (as : List α) :
    anyOf f as = firstBesides false f as := by
  induction as with
  | nil => rfl
  | cons a as ih =>
    rw [anyOf, firstBesides, ih]
    cases f a with
    | error => rfl
    | ok b => cases b <;> rfl

theorem anyOf_congr {g : α → Except Failure Bool} (h : ∀ a ∈ as, f a = g a) :
    anyOf f as = anyOf g as := by
  induction as with
  | nil => rfl
  | cons a as ih =>
    rw [anyOf, anyOf, h a List.mem_cons_self, ih fun b hb => h b (List.mem_cons_of_mem _ hb)]

theorem allHold_eq (f : α → Except Failure Bool) (as : List α) :
    TimeInterval.allHold (as.map fun a _ => f a) = firstBesides true f as := by
  induction as with
  | nil => rfl
  | cons a as ih =>
    rw [List.map_cons, TimeInterval.allHold, firstBesides, ih]
    cases f a with
    | error => rfl
    | ok b => cases b <;> rfl

/-- Answers that are all given are given together. -/
theorem firstBesides_of_ok {g : α → Bool} (h : ∀ a ∈ as, f a = .ok (g a)) :
    firstBesides false f as = .ok (as.any g) ∧ firstBesides true f as = .ok (as.all g) := by
  induction as with
  | nil => exact ⟨rfl, rfl⟩
  | cons a as ih =>
    obtain ⟨hany, hall⟩ := ih fun b hb => h b (List.mem_cons_of_mem _ hb)
    rw [firstBesides, firstBesides, h a List.mem_cons_self, List.any_cons, List.all_cons]
    cases hg : g a
    · exact ⟨hany, rfl⟩
    · exact ⟨rfl, hall⟩

theorem firstBesides_cons_passed {a : α} (h : f a = .ok passed) (as : List α) :
    firstBesides passed f (a :: as) = firstBesides passed f as := by
  rw [firstBesides, h]
  exact if_pos rfl

theorem firstBesides_cons {a : α} (h : f a ≠ .ok passed) (as : List α) :
    firstBesides passed f (a :: as) = f a := by
  rw [firstBesides]
  cases ha : f a with
  | error => rfl
  | ok b => exact if_neg fun hb => h (ha.trans (congrArg _ hb))

/-- An answer that is not passed over is the first such one. -/
theorem firstBesides_eq (hr : r ≠ .ok passed) :
    firstBesides passed f as = r ↔ ∃ before a behind, as = before ++ a :: behind ∧
      (∀ b ∈ before, f b = .ok passed) ∧ f a = r := by
  induction as with
  | nil =>
    refine ⟨fun h => absurd h.symm hr, ?_⟩
    rintro ⟨before, a, behind, hsplit, -⟩
    simp at hsplit
  | cons a as ih =>
    -- An answer that is passed over belongs to those before, any other ends the search.
    by_cases h : f a = .ok passed
    · rw [firstBesides_cons_passed h, ih]
      constructor
      · rintro ⟨before, b, behind, rfl, hbefore, hb⟩
        exact ⟨a :: before, b, behind, rfl, List.forall_mem_cons.2 ⟨h, hbefore⟩, hb⟩
      · rintro ⟨before, b, behind, hsplit, hbefore, hb⟩
        cases before with
        | nil =>
          obtain ⟨rfl, rfl⟩ := List.cons.inj hsplit
          exact absurd (hb.symm.trans h) hr
        | cons c before =>
          obtain ⟨rfl, rfl⟩ := List.cons.inj hsplit
          exact ⟨before, b, behind, rfl, (List.forall_mem_cons.1 hbefore).2, hb⟩
    · rw [firstBesides_cons h]
      constructor
      · intro ha
        exact ⟨[], a, as, rfl, by simp, ha⟩
      · rintro ⟨before, b, behind, hsplit, hbefore, hb⟩
        cases before with
        | nil =>
          obtain ⟨rfl, rfl⟩ := List.cons.inj hsplit
          exact hb
        | cons c before =>
          obtain ⟨rfl, rfl⟩ := List.cons.inj hsplit
          exact absurd (List.forall_mem_cons.1 hbefore).1 h

/-- The first answer that is not passed over, told by what each answer means. -/
theorem firstBesides_iff (hr : r ≠ .ok passed) {P Q : α → Prop}
    (hQ : ∀ a ∈ as, f a = .ok passed ↔ Q a) (hP : ∀ a ∈ as, f a = r ↔ P a) :
    firstBesides passed f as = r ↔
      ∃ before a behind, as = before ++ a :: behind ∧ (∀ b ∈ before, Q b) ∧ P a := by
  rw [firstBesides_eq hr]
  refine exists_congr fun before => exists_congr fun a => exists_congr fun behind =>
    and_congr_right fun hsplit => and_congr (forall₂_congr fun b hb => hQ b ?_) (hP a ?_)
  · simp [hsplit, hb]
  · simp [hsplit]

end

/-! ### Days one after the other -/

namespace Date

/-- The day after a day. -/
def tomorrow (d : Date) : Date :=
  if d.day < daysInMonth d.year d.month then ⟨d.year, d.month, d.day + 1⟩
  else if d.month < 12 then ⟨d.year, d.month + 1, 1⟩ else ⟨d.year + 1, 1, 1⟩

/-- A year has 365 days, or 366 where it has a leap day. -/
theorem daysBeforeYear_succ {year : Nat} (h : 1 ≤ year) :
    daysBeforeYear (year + 1) =
      daysBeforeYear year + daysBeforeMonth year 12 + daysInMonth year 12 := by
  have hmonths : daysBeforeMonth year 12 = 306 + daysInMonth year 2 := by
    simp only [daysBeforeMonth, daysInMonth, Nat.reduceBEq, if_true]
    simp
    omega
  have hfebruary : daysInMonth year 2 =
      if 4 ∣ year ∧ (¬ 100 ∣ year ∨ 400 ∣ year) then 29 else 28 := by
    simp [daysInMonth, isLeap, Nat.dvd_iff_mod_eq_zero]
  have hdecember : daysInMonth year 12 = 31 := rfl
  obtain ⟨y, rfl⟩ := Nat.exists_eq_add_of_le' h
  have hfour : y / 100 ≤ y / 4 := Nat.div_le_div_left (by decide) (by decide)
  rw [hmonths, hfebruary, hdecember, daysBeforeYear, daysBeforeYear]
  -- Each quotient grows by one just where its divisor divides the year: the leap years are counted.
  simp only [Nat.add_sub_cancel, Nat.succ_div]
  generalize y / 4 = fours at *
  generalize y / 100 = hundreds at *
  generalize y / 400 = cycles
  split_ifs <;> omega

/-- The day after a day has the next number. -/
theorem toDays_tomorrow {d : Date} (h : d.isValid = true) : d.tomorrow.toDays = d.toDays + 1 := by
  simp only [isValid, Bool.and_eq_true, decide_eq_true_eq] at h
  obtain ⟨⟨⟨⟨⟨hyear, -⟩, hmonth⟩, hlast⟩, hday⟩, hdays⟩ := h
  rw [tomorrow]
  split_ifs with hwithin hbefore
  · simp only [toDays]
    omega
  · have hnext : daysBeforeMonth d.year (d.month + 1) =
        daysBeforeMonth d.year d.month + daysInMonth d.year d.month := by
      rw [daysBeforeMonth, if_neg (by simp; omega)]
    simp only [toDays, hnext]
    omega
  · have hdecember : d.month = 12 := by omega
    have hnext := daysBeforeYear_succ hyear
    simp only [toDays, hnext, hdecember] at *
    simp [daysBeforeMonth]
    omega

/-- The days of the week follow each other. -/
theorem weekday_tomorrow {d : Date} (h : d.isValid = true) :
    d.tomorrow.weekday = (d.weekday + 1) % 7 := by
  rw [weekday, weekday, toDays_tomorrow h]
  show ((d.toDays + 1 + 4) % 7).toNat = (((d.toDays + 4) % 7).toNat + 1) % 7
  omega

end Date

/-! ### The parts of an interval -/

namespace TimeInterval

/-- The parts of a time interval. -/
inductive Part where
  | times | weekdays | daysOfMonth | months | years
  deriving DecidableEq

namespace Part

/-- The parts in the order in which they are looked at. -/
def all : List Part :=
  [times, weekdays, daysOfMonth, months, years]

theorem mem_all (p : Part) : p ∈ all := by
  cases p <;> decide

/-- The field of a part. -/
def field : Part → String
  | times => "times"
  | weekdays => "weekdays"
  | daysOfMonth => "days_of_month"
  | months => "months"
  | years => "years"

/-- What a range of a part is. -/
def rangeType : Part → FieldType
  | times => .entity .timeRange
  | _ => .text

/-- The ranges of a part. -/
def ranges (p : Part) (v : Value) : List Value :=
  (v.get p.field).elements

/-- The two ends that a range says, if its texts are well formed. -/
def ends? : Part → Value → Option (Int × Int)
  | times, range => do
    return (← clock? (range.get "start_time").shown, ← clock? (range.get "end_time").shown)
  | weekdays, range => bounds? weekdayNumber? range.shown
  | months, range => bounds? monthNumber? range.shown
  | daysOfMonth, range | years, range => bounds? (fun _ => none) range.shown

/-- Whether a moment lies between two ends. Hours end before their end, and days that count from the
end of a month are those of the month of the moment. -/
def Between (m : Moment) : Part → Int × Int → Prop
  | times, (start, stop) =>
    start ≤ (m.hour * 60 + m.minute : Nat) ∧ (m.hour * 60 + m.minute : Nat) < stop
  | weekdays, (low, high) => low ≤ m.date.weekday ∧ m.date.weekday ≤ high
  | daysOfMonth, (low, high) =>
    let length := Date.daysInMonth m.date.year m.date.month
    (if low < 0 then length + low + 1 else low) ≤ m.date.day ∧
      m.date.day ≤ (if high < 0 then length + high + 1 else high)
  | months, (low, high) => low ≤ m.date.month ∧ m.date.month ≤ high
  | years, (low, high) => low ≤ m.date.year ∧ m.date.year ≤ high

instance (m : Moment) : (p : Part) → (ends : Int × Int) → Decidable (p.Between m ends)
  | times, (_, _) | weekdays, (_, _) | daysOfMonth, (_, _) | months, (_, _) | years, (_, _) =>
    inferInstanceAs (Decidable (_ ∧ _))

/-- Whether a range covers a moment. -/
def Covers (p : Part) (m : Moment) (range : Value) : Prop :=
  ∃ ends ∈ p.ends? range, p.Between m ends

instance (p : Part) (m : Moment) (range : Value) : Decidable (p.Covers m range) :=
  inferInstanceAs (Decidable (∃ ends ∈ p.ends? range, p.Between m ends))

theorem covers_of_ends {p : Part} {m : Moment} {range : Value} {ends : Int × Int}
    (hends : p.ends? range = some ends) : p.Covers m range ↔ p.Between m ends := by
  simp [Covers, hends]

/-- What is asked of a range. -/
def test (m : Moment) : Part → Value → Except Failure Bool
  | times => rangeContains (m.hour * 60 + m.minute : Nat)
  | weekdays => within weekdayNumber? m.date.weekday
  | daysOfMonth => withinMonth m.date
  | months => within monthNumber? m.date.month
  | years => within (fun _ => none) m.date.year

theorem eq_timeRange {range : Value} (h : range.fits (.entity .timeRange) = true) :
    ∃ start stop, range.get "start_time" = .text start ∧ range.get "end_time" = .text stop ∧
      range = .entity .timeRange [.text start, .text stop] := by
  obtain ⟨start, hstart⟩ := Value.eq_text_of_fits
    (Value.get_fits h (rfl : Kind.timeRange.schema.type? "start_time" = _)).2
  obtain ⟨stop, hstop⟩ := Value.eq_text_of_fits
    (Value.get_fits h (rfl : Kind.timeRange.schema.type? "end_time" = _)).2
  refine ⟨start, stop, hstart, hstop, ?_⟩
  rw [← hstart, ← hstop]
  exact Value.eq_entity_map_get h (by decide)

theorem clock_text (s : String) : clock (.text s) =
    match clock? s with
    | some minute => .ok minute
    | none => .error (.invalidTime (Value.text s).quoted s) := by
  rw [clock]
  simp only [Value.ownText, Value.asText?, bind, Except.bind]
  cases clock? s <;> rfl

theorem bounds_text (number? : String → Option Int) (s : String) : bounds number? (.text s) =
    match bounds? number? s with
    | some ends => .ok ends
    | none => .error (.invalidRange (Value.text s).quoted s) := by
  rw [bounds]
  simp only [Value.ownText, Value.asText?, bind, Except.bind]
  cases bounds? number? s <;> rfl

/-- **A range with well-formed texts says whether it covers a moment.** -/
theorem test_of_ends {p : Part} {range : Value} {ends : Int × Int} (m : Moment)
    (hrange : range.fits p.rangeType = true) (hends : p.ends? range = some ends) :
    p.test m range = .ok (decide (p.Covers m range)) := by
  have hcovers : decide (p.Covers m range) = decide (p.Between m ends) :=
    decide_eq_decide.2 (covers_of_ends hends)
  rw [hcovers]
  cases p with
  | times =>
    -- The end of hours is read behind their start alone, so the answer is split there.
    obtain ⟨start, stop, hstart, hstop, hrange⟩ := eq_timeRange hrange
    rw [ends?, hstart, hstop] at hends
    simp only [bind, Option.bind_eq_some_iff, pure, Option.some.injEq, Value.shown] at hends
    obtain ⟨low, hlow, high, hhigh, rfl⟩ := hends
    rw [hrange, test, rangeContains, withinHours, clock_text, clock_text, hlow, hhigh]
    simp only [bind, Except.bind, Between, pure, Except.pure]
    split <;> simp_all
  | daysOfMonth =>
    obtain ⟨s, rfl⟩ := Value.eq_text_of_fits hrange
    rw [ends?, Value.shown] at hends
    rw [test, withinMonth, bounds_text, hends]
    refine congrArg Except.ok (Bool.eq_iff_iff.2 ?_)
    simp only [Bool.and_eq_true, decide_eq_true_eq]
    exact Iff.rfl
  | _ =>
    obtain ⟨s, rfl⟩ := Value.eq_text_of_fits hrange
    rw [ends?, Value.shown] at hends
    rw [test, within, bounds_text, hends]
    refine congrArg Except.ok (Bool.eq_iff_iff.2 ?_)
    simp only [Bool.and_eq_true, decide_eq_true_eq]
    exact Iff.rfl

end Part

/-! ### Intervals -/

/-- What a part says of a moment: nothing against it where the part is empty, or what its ranges
say. -/
def Part.answer (v : Value) (m : Moment) (p : Part) : Except Failure Bool :=
  if p.ranges v = [] then .ok true else firstBesides false (p.test m) (p.ranges v)

/-- The interval of an entity of that kind. -/
def ofFields (v : Value) : TimeInterval :=
  ⟨v.get "times", v.get "weekdays", v.get "days_of_month", v.get "months", v.get "years",
    v.get "location"⟩

theorem covers_list (ranges : List Value) (f : Value → Except Failure Bool) :
    covers (.list ranges) f = if ranges = [] then .ok true else firstBesides false f ranges := by
  cases ranges with
  | nil => rfl
  | cons range ranges =>
    rw [if_neg (List.cons_ne_nil _ _), ← anyOf_eq]
    rfl

theorem containsMoment_eq {v : Value} (hv : v.fits (.entity .timeInterval) = true) (when_ : Moment)
    (clocks : Clocks) : v.containsMoment when_ clocks = (ofFields v).contains when_ clocks := by
  rw [Value.eq_entity_map_get hv (by decide)]
  rfl

/-- Intervals under a name are asked one after the other. -/
theorem containsMoment_named {w : Value} (hw : w.fits (.entity .muteTimeInterval) = true)
    (when_ : Moment) (clocks : Clocks) :
    w.containsMoment when_ clocks = firstBesides false (fun v => v.containsMoment when_ clocks)
      (w.get "time_intervals").elements := by
  obtain ⟨hlist, hintervals⟩ := Value.elements_fits hw
    (rfl : Kind.muteTimeInterval.schema.type? "time_intervals" = _)
  rw [Value.eq_entity_map_get hw (by decide)]
  show (do anyOf _ (← (w.get "time_intervals").items)) = _
  rw [Value.items_eq_elements hlist, ← anyOf_eq]
  refine anyOf_congr fun v hv => ?_
  rw [Value.eq_entity_map_get (hintervals v hv) (by decide)]
  rfl

/-- What an interval says of a moment on its own clocks is what its parts say, one after the
other. -/
theorem contains_eq {v : Value} (hv : v.fits (.entity .timeInterval) = true) {when_ m : Moment}
    {clocks : Clocks} (hlocal : (ofFields v).localize when_ clocks = .ok m) :
    v.containsMoment when_ clocks = firstBesides true (Part.answer v m) Part.all := by
  have hpart : ∀ p : Part, covers (v.get p.field) (p.test m) = p.answer v m := fun p => by
    have htype : Kind.timeInterval.schema.type? p.field = some (.listOf p.rangeType) := by
      cases p <;> rfl
    obtain ⟨hlist, -⟩ := Value.elements_fits hv htype
    rw [hlist, Part.answer, Part.ranges]
    exact covers_list _ _
  have hconditions : (ofFields v).conditions m = Part.all.map fun p _ => p.answer v m := by
    simp only [← hpart]
    rfl
  -- The conditions wait for their turn; `allHold_eq` asks the parts themselves.
  rw [containsMoment_eq hv, contains, hlocal]
  exact (congrArg allHold hconditions).trans (allHold_eq _ _)

/-- Whether all texts of an interval are well formed. -/
def IsWellFormed (v : Value) : Prop :=
  ∀ p ∈ Part.all, ∀ range ∈ p.ranges v, (p.ends? range).isSome = true

/-- Whether each part of an interval is empty or has a range that covers a moment. -/
def Covers (v : Value) (m : Moment) : Prop :=
  ∀ p ∈ Part.all, p.ranges v = [] ∨ ∃ range ∈ p.ranges v, p.Covers m range

instance (v : Value) (m : Moment) : Decidable (Covers v m) :=
  inferInstanceAs (Decidable (∀ p ∈ Part.all, _))

theorem rangeType_of_mem {v : Value} (hv : v.fits (.entity .timeInterval) = true) (p : Part) :
    ∀ range ∈ p.ranges v, range.fits p.rangeType = true := by
  have htype : Kind.timeInterval.schema.type? p.field = some (.listOf p.rangeType) := by
    cases p <;> rfl
  exact (Value.elements_fits hv htype).2

/-- What an interval with well-formed texts says of a moment on its own clocks. -/
theorem contains_of_wellFormed {v : Value} (hv : v.fits (.entity .timeInterval) = true)
    (hwell : IsWellFormed v) {when_ m : Moment} {clocks : Clocks}
    (hlocal : (ofFields v).localize when_ clocks = .ok m) :
    v.containsMoment when_ clocks = .ok (decide (Covers v m)) := by
  have htest : ∀ p : Part, ∀ range ∈ p.ranges v,
      p.test m range = .ok (decide (p.Covers m range)) := fun p range hrange => by
    obtain ⟨ends, hends⟩ := Option.isSome_iff_exists.1 (hwell p p.mem_all range hrange)
    exact Part.test_of_ends m (rangeType_of_mem hv p range hrange) hends
  have hanswer : ∀ p : Part, p.answer v m =
      .ok (decide (p.ranges v = [] ∨ ∃ range ∈ p.ranges v, p.Covers m range)) := fun p => by
    rw [Part.answer, (firstBesides_of_ok (htest p)).1]
    split
    · next hempty => simp [hempty]
    · next hranges =>
      refine congrArg Except.ok (Bool.eq_iff_iff.2 ?_)
      simp [hranges]
  rw [contains_eq hv hlocal, (firstBesides_of_ok fun p _ => hanswer p).2]
  refine congrArg Except.ok (Bool.eq_iff_iff.2 ?_)
  simp only [List.all_eq_true, decide_eq_true_eq]
  exact Iff.rfl

/-- **An interval with well-formed texts contains a moment just if each part is empty or has a range
that covers the moment.** Weekdays follow each other, and zero is a Sunday. The texts that are made
of two integers denote these; one end stands for both, and two ends are read one by one; and names
are read in any letter case and between blanks. -/
theorem contains_spec {v : Value} (hv : v.fits (.entity .timeInterval) = true)
    (hwell : IsWellFormed v) {m : Moment} (hnaive : m.offset = none) :
    v.containsMoment m = .ok (decide (Covers v m)) ∧
      (Date.weekday ⟨2024, 5, 5⟩ = 0 ∧
        ∀ d : Date, d.isValid = true → d.tomorrow.weekday = (d.weekday + 1) % 7) ∧
      (∀ name ∈ ["day_of_month_range", "year_range"], ∀ a b : Int, ∃ builder text,
        Routing.intervalBuilders.lookup name = some builder ∧
          (builder.call [.int a, .int b] []).result = .ok (.text text) ∧
          bounds? (fun _ => none) text = some (a, b)) ∧
      (∀ (number? : String → Option Int) (first : List Char), ':' ∉ first →
        bounds? number? (String.ofList first) = (bound? number? first).map (fun n => (n, n)) ∧
        ∀ last, bounds? number? (String.ofList (first ++ ':' :: last)) =
          (bound? number? first).bind fun low =>
            (bound? number? last).map fun high => (low, high)) ∧
      ∀ (name : String) (i : Nat) (before cs behind : List Char),
        (∀ c ∈ before, Text.isBlank c = true) → (∀ c ∈ behind, Text.isBlank c = true) →
        cs.map Char.toLower = name.toList →
          (Choice.weekdays[i]? = some name →
            bound? weekdayNumber? (before ++ (cs ++ behind)) = some (i : Int)) ∧
          (Choice.months[i]? = some name →
            bound? monthNumber? (before ++ (cs ++ behind)) = some (1 + i : Int)) := by
  have hlocal : (ofFields v).localize m = .ok m := by simp [localize, hnaive]
  refine ⟨contains_of_wellFormed hv hwell hlocal, ⟨by decide, fun d => Date.weekday_tomorrow⟩, ?_,
    fun number? first hfirst => ⟨bounds_single hfirst, bounds_colon hfirst⟩, ?_⟩
  · intro name hname a b
    simp only [List.mem_cons, List.not_mem_nil, or_false] at hname
    obtain rfl | rfl := hname
    · exact ⟨_, _, rfl, rfl, bounds_rangeText a b⟩
    · exact ⟨_, _, rfl, rfl, bounds_rangeText a b⟩
  · intro name i before cs behind hbefore hbehind hcs
    constructor
    · intro hname
      rw [← Int.zero_add (i : Int)]
      exact bound_name (by decide) (by decide) 0 hname hbefore hbehind hcs
    · intro hname
      exact bound_name (by decide) (by decide) 1 hname hbefore hbehind hcs

/-- The last day of a February with a leap day, a Thursday, an hour before the end of the day. -/
theorem contains_spec_leapDay :
    let v := Value.build .timeInterval [
      ("times", .list [
        .build .timeRange [("start_time", .text "09:00"), ("end_time", .text "17:00")],
        .build .timeRange [("start_time", .text "22:30"), ("end_time", .text "24:00")]]),
      ("weekdays", .texts ["sunday", " MONDAY : Friday"]), ("days_of_month", .texts ["-1", "1:7"]),
      ("months", .texts ["january:march"]), ("years", .texts ["2024:2025"])]
    let m : Moment := { date := ⟨2024, 2, 29⟩, hour := 23, minute := 0, second := 0 }
    v.fits (.entity .timeInterval) = true ∧ IsWellFormed v ∧ m.offset = none ∧
      v.containsMoment m = .ok true := by
  intro v m
  have hv : v.fits (.entity .timeInterval) = true := by decide
  have hwell : IsWellFormed v := by
    unfold IsWellFormed
    decide +kernel
  have hcovers : decide (Covers v m) = true := by decide +kernel
  have hnaive : m.offset = none := rfl
  refine ⟨hv, hwell, hnaive, ?_⟩
  rw [(contains_spec hv hwell hnaive).1, hcovers]

end TimeInterval

end MonitoringConfig
