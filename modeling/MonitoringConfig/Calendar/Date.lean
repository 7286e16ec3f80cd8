import MonitoringConfig.TimeSpan
/-!
# Dates and times of day

Days of the proleptic Gregorian calendar, and moments of such days that may know how far their
clock is ahead of universal time.

* `Date.toDays` and `Date.ofDays` count days from the first of January 1970.
* `Moment.text` is the standard text of a moment.
-/

namespace MonitoringConfig

/-- A day of the calendar. -/
structure Date where
  year : Nat
  month : Nat
  day : Nat
  deriving DecidableEq, Repr, Inhabited

namespace Date

/-- Whether a year has a leap day. -/
def isLeap (year : Nat) : Bool :=
  year % 4 == 0 && (year % 100 != 0 || year % 400 == 0)

/-- The number of days of a month. -/
def daysInMonth (year month : Nat) : Nat :=
  match month with
  | 2 => if isLeap year then 29 else 28
  | 4 | 6 | 9 | 11 => 30
  | _ => 31

/-- Whether there is such a day, in the years of four digits. -/
def isValid (d : Date) : Bool :=
  1 ≤ d.year && d.year ≤ 9999 && 1 ≤ d.month && d.month ≤ 12 && 1 ≤ d.day
    && d.day ≤ daysInMonth d.year d.month

/-- The days before the first of January of a year, counted from year one. -/
def daysBeforeYear (year : Nat) : Nat :=
  let y := year - 1
  y * 365 + y / 4 - y / 100 + y / 400

/-- The days before the first of a month in its year. -/
def daysBeforeMonth (year : Nat) : Nat → Nat
  | 0 => 0
  | month + 1 => if month == 0 then 0 else daysBeforeMonth year month + daysInMonth year month

/-- The number of a day, counted from the first of January 1970. -/
def toDays (d : Date) : Int :=
  (daysBeforeYear d.year + daysBeforeMonth d.year d.month + (d.day - 1) : Nat) - 719162

/-- The month and the day of the month of the `day`-th day of a year (counted from zero), from
the given month on. -/
def ofDayOfYear (year day : Nat) : (months : Nat) → (month : Nat) → Nat × Nat
  | 0, month => (month, day + 1)
  | months + 1, month =>
    let length := daysInMonth year month
    if day < length then (month, day + 1)
    else ofDayOfYear year (day - length) months (month + 1)

/-- The day with a number. -/
def ofDays (n : Int) : Date :=
  let days := (n + 719162).toNat
  let guess := days * 400 / 146097 + 1
  let year := if days < daysBeforeYear guess then guess - 1
    else if daysBeforeYear (guess + 1) ≤ days then guess + 1 else guess
  let (month, day) := ofDayOfYear year (days - daysBeforeYear year) 11 1
  ⟨year, month, day⟩

/-- The first second of the years of four digits, counted from the first of January 1970. -/
def firstSecond : Int :=
  toDays ⟨1, 1, 1⟩ * 86400

/-- The first second behind the years of four digits. -/
def endSecond : Int :=
  (toDays ⟨9999, 12, 31⟩ + 1) * 86400

/-- Whether a second lies in the years of four digits. -/
def holdsSecond (seconds : Int) : Bool :=
  firstSecond ≤ seconds && seconds < endSecond

/-- The day of the week, Sunday being zero. -/
def weekday (d : Date) : Nat :=
  ((d.toDays + 4).emod 7).toNat

/-- A number with zeros in front, up to a width. -/
def padded (width n : Nat) : String :=
  let digits := digitsText n
  String.ofList (List.replicate (width - digits.length) '0' ++ digits)

/-- The text of a day, such as `2024-02-29`. -/
def text (d : Date) : String :=
  padded 4 d.year ++ "-" ++ padded 2 d.month ++ "-" ++ padded 2 d.day

end Date

/-- A moment of a day; `offset` is how many seconds its clock is ahead of universal time, if that
is known. -/
structure Moment where
  date : Date
  hour : Nat
  minute : Nat
  second : Nat
  micro : Nat := 0
  offset : Option Int := none
  deriving DecidableEq, Repr, Inhabited

namespace Moment

/-- The clock of a moment, such as `09:30:00.500000`. -/
def clockText (m : Moment) : String :=
  Date.padded 2 m.hour ++ ":" ++ Date.padded 2 m.minute ++ ":" ++ Date.padded 2 m.second
    ++ (if m.micro == 0 then "" else "." ++ Date.padded 6 m.micro)

/-- How far a clock is ahead, such as `+05:30`. -/
def offsetText (seconds : Int) : String :=
  let n := seconds.natAbs
  (if seconds < 0 then "-" else "+") ++ Date.padded 2 (n / 3600) ++ ":"
    ++ Date.padded 2 (n / 60 % 60)
    ++ (if n % 60 == 0 then "" else ":" ++ Date.padded 2 (n % 60))

/-- The text of a moment, with the given mark between day and clock. -/
def text (separator : String) (m : Moment) : String :=
  m.date.text ++ separator ++ m.clockText ++ (m.offset.map offsetText).getD ""

/-- The microseconds since the first of January 1970 on the moment's own clock. -/
def localMicros (m : Moment) : Int :=
  ((m.date.toDays * 86400 + (m.hour * 3600 + m.minute * 60 + m.second : Nat)) * 1000000) + m.micro

/-- The microseconds of universal time, where the offset is known. -/
def instant? (m : Moment) : Option Int :=
  m.offset.map fun offset => m.localMicros - offset * 1000000

/-- The moment at a number of seconds since the first of January 1970 on its own clock. -/
def ofLocalSeconds (seconds : Int) (offset : Option Int) : Moment :=
  let day := seconds.fdiv 86400
  let rest := (seconds.fmod 86400).toNat
  ⟨Date.ofDays day, rest / 3600, rest / 60 % 60, rest % 60, 0, offset⟩

/-- Equality of moments: instants are compared where both are known, clocks where neither is. -/
def equal (a b : Moment) : Bool :=
  match a.instant?, b.instant? with
  | some x, some y => x == y
  | none, none => a == b
  | _, _ => false

end Moment

end MonitoringConfig
