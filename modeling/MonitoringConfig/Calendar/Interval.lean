import MonitoringConfig.Calendar.Zone
import MonitoringConfig.Text.Case
import MonitoringConfig.Text.Integer
import MonitoringConfig.Value.Order
/-!
# Time intervals

Times by the clock and the calendar: hours of a day, days of the week and of the month, months and
years. Each is a list of ranges, written as texts (`monday:friday`, `1:-1`), and an empty list
covers all.

* `clock?` and `bounds?` read times of day and ranges.
* `TimeInterval.contains` says whether a moment lies in an interval.
-/

namespace MonitoringConfig

/-! ### Reading times and ranges -/

/-- The parts of a text before and behind the first colon. -/
def splitColon (cs : List Char) : List Char × Option (List Char) :=
  match cs.dropWhile (· != ':') with
  | _ :: rest => (cs.takeWhile (· != ':'), some rest)
  | [] => (cs, none)

/-- The minute of the day of a text such as `09:30`; a day ends at `24:00`. -/
def clock? (text : String) : Option Int := do
  let (hours, some minutes) := splitColon text.toList | none
  let h ← Text.integer? hours
  let m ← Text.integer? minutes
  let total := h * 60 + m
  if 0 ≤ m && m < 60 && 0 ≤ total && total ≤ 24 * 60 then return total else none

/-- The time of day that a value is. -/
def clock (v : Value) : Except Failure Int := do
  match clock? (← v.ownText) with
  | some minute => return minute
  | none => .error (.invalidTime v.quoted v.shown)

/-- The number of a name in a list of names, counted from a first one. -/
def nameNumber? (names : List String) (first : Int) (name : String) : Option Int :=
  (names.findIdx? (· == name)).map fun i => first + i

/-- The numbers of the weekdays. -/
def weekdayNumber? : String → Option Int :=
  nameNumber? Choice.weekdays 0

/-- The numbers of the months. -/
def monthNumber? : String → Option Int :=
  nameNumber? Choice.months 1

/-- An end of a range: a name in any letter case, or a number. -/
def bound? (number? : String → Option Int) (cs : List Char) : Option Int :=
  let token := Text.lower (Text.trim cs)
  match number? (String.ofList token) with
  | some n => some n
  | none => Text.integer? token

/-- The two ends of a range; a range of one element has it at both ends. -/
def bounds? (number? : String → Option Int) (spec : String) : Option (Int × Int) := do
  let (head, tail?) := splitColon spec.toList
  let first ← bound? number? head
  match tail? with
  | some tail => return (first, ← bound? number? tail)
  | none => return (first, first)

/-- The two ends of the range that a value is. -/
def bounds (number? : String → Option Int) (v : Value) : Except Failure (Int × Int) := do
  match bounds? number? (← v.ownText) with
  | some b => return b
  | none => .error (.invalidRange v.quoted v.shown)

/-! ### Intervals -/

/-- Whether some element has a property, looked at until one has. -/
def anyOf {α : Type} (p : α → Except Failure Bool) : List α → Except Failure Bool
  | [] => .ok false
  | a :: as => do if ← p a then return true else anyOf p as

/-- Whether a minute of the day lies between two times, the first included. -/
def withinHours (start stop : Value) (minute : Int) : Except Failure Bool := do
  if (← clock start) ≤ minute then return minute < (← clock stop) else return false

/-- Whether a range of hours, which must be one, holds a minute of the day. -/
def rangeContains (minute : Int) (v : Value) : Except Failure Bool :=
  match v with
  | .entity .timeRange [start, stop] => withinHours start stop minute
  | _ => .error (.plain .noSuchMember)

/-- The parts of a time interval, each as it is given. -/
structure TimeInterval where
  times : Value
  weekdays : Value
  daysOfMonth : Value
  months : Value
  years : Value
  location : Value
  deriving Repr, Inhabited

namespace TimeInterval

/-- Whether a list of ranges is empty, or one of them has a property. -/
def covers (ranges : Value) (p : Value → Except Failure Bool) : Except Failure Bool :=
  if ranges.isTruthy then do anyOf p (← ranges.items) else .ok true

/-- Whether a number lies in a range. -/
def within (number? : String → Option Int) (n : Int) (range : Value) : Except Failure Bool := do
  let (low, high) ← bounds number? range
  return low ≤ n && n ≤ high

/-- The day of a month of the given length; negative ones count from its end. -/
def dayOf (length : Nat) (day : Int) : Int :=
  if day < 0 then length + day + 1 else day

/-- Whether a day lies in a range of days of its month. -/
def withinMonth (d : Date) (range : Value) : Except Failure Bool := do
  let (low, high) ← bounds (fun _ => none) range
  let length := Date.daysInMonth d.year d.month
  return dayOf length low ≤ d.day && (d.day : Int) ≤ dayOf length high

/-- A moment on the clocks of the interval's location, if it has one and the moment knows its own
clock. -/
def localize (i : TimeInterval) (when_ : Moment) (clocks : Clocks := .standard) :
    Except Failure Moment :=
  if !i.location.isTruthy || when_.offset.isNone then .ok when_
  else match i.location.asText? with
    | some name =>
      match clocks.of? name with
      | some ahead =>
        match when_.onClocks? ahead with
        | some m => .ok m
        | none => .error (.plain .tooLarge)
      | none => .error (.plain .unknownZone)
    | none => .error (.plain .wrongType)

/-- The conditions of an interval, in the order in which they are looked at. -/
def conditions (i : TimeInterval) (m : Moment) : List (Unit → Except Failure Bool) := [
  fun _ => covers i.times (rangeContains (m.hour * 60 + m.minute : Nat)),
  fun _ => covers i.weekdays (within weekdayNumber? m.date.weekday),
  fun _ => covers i.daysOfMonth (withinMonth m.date),
  fun _ => covers i.months (within monthNumber? m.date.month),
  fun _ => covers i.years (within (fun _ => none) m.date.year)]

/-- Whether all conditions hold, looked at until one does not. -/
def allHold : List (Unit → Except Failure Bool) → Except Failure Bool
  | [] => .ok true
  | c :: cs => do if ← c () then allHold cs else return false

/-- Whether a moment lies in an interval. -/
def contains (i : TimeInterval) (when_ : Moment) (clocks : Clocks := .standard) :
    Except Failure Bool := do
  allHold (i.conditions (← i.localize when_ clocks))

/-- The interval that a value is. -/
def ofValue? : Value → Option TimeInterval
  | .entity .timeInterval [times, weekdays, daysOfMonth, months, years, location] =>
    some ⟨times, weekdays, daysOfMonth, months, years, location⟩
  | _ => none

end TimeInterval

/-- Whether a moment lies in a value, which must be an interval or a list of intervals with a
name. -/
def Value.containsMoment (v : Value) (when_ : Moment) (clocks : Clocks := .standard) :
    Except Failure Bool :=
  match v with
  | .entity .muteTimeInterval [_, intervals] => do
    anyOf (fun w =>
      match TimeInterval.ofValue? w with
      | some i => i.contains when_ clocks
      | none => .error (.plain .noSuchMember)) (← intervals.items)
  | v =>
    match TimeInterval.ofValue? v with
    | some i => i.contains when_ clocks
    | none => .error (.plain .noSuchMember)

end MonitoringConfig
