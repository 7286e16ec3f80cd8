import MonitoringConfig.Calendar.Date
/-!
# Time zones

How far the clocks of a zone are ahead of universal time. Some zones have summer time, between two
Sundays of a year. What the calendar asks of zones is the `Clocks` of places.
-/

namespace MonitoringConfig

/-- A change of the clocks: on the given Sunday of a month, the last one being number zero, at a
number of seconds of universal time after the start of that day. -/
structure ClockChange where
  month : Nat
  sunday : Nat
  seconds : Int
  deriving DecidableEq, Repr

/-- A time zone: how many seconds its clocks are ahead, and when they are an hour further. -/
structure Zone where
  offset : Int
  summer? : Option (ClockChange × ClockChange) := none
  deriving DecidableEq, Repr

/-- The instant of a change of the clocks in a year, in seconds since the first of January 1970. -/
def ClockChange.instant (c : ClockChange) (year : Nat) : Int :=
  let first : Date := ⟨year, c.month, 1⟩
  let day : Nat :=
    if c.sunday == 0 then
      let last : Date := ⟨year, c.month, Date.daysInMonth year c.month⟩
      last.day - last.weekday
    else 1 + (7 - first.weekday) % 7 + 7 * (c.sunday - 1)
  (⟨year, c.month, day⟩ : Date).toDays * 86400 + c.seconds

namespace Zone

/-- The clocks of universal time. -/
def universal : Zone := ⟨0, none⟩

/-- The zones, by name. -/
def named : List (String × Zone) := [
  ("UTC", universal),
  ("America/New_York", ⟨-5 * 3600, some (⟨3, 2, 7 * 3600⟩, ⟨11, 1, 6 * 3600⟩)⟩),
  ("Europe/London", ⟨0, some (⟨3, 0, 3600⟩, ⟨10, 0, 3600⟩)⟩),
  ("Asia/Kolkata", ⟨19800, none⟩),
  ("Asia/Tokyo", ⟨9 * 3600, none⟩),
  ("Australia/Sydney", ⟨10 * 3600, some (⟨10, 1, -8 * 3600⟩, ⟨4, 1, -8 * 3600⟩)⟩)]

/-- The zone with a name. -/
def ofName? (name : String) : Option Zone :=
  named.lookup name

/-- Whether the clocks show summer time at an instant of a year. Where summer starts late in the
year, it ends in the next. -/
def isSummer (start stop : ClockChange) (year : Nat) (instant : Int) : Bool :=
  let began := start.instant year ≤ instant
  let ended := stop.instant year ≤ instant
  if start.month < stop.month then began && !ended else began || !ended

/-- How many seconds the clocks of a zone are ahead at an instant. -/
def offsetAt (z : Zone) (instant : Int) : Int :=
  match z.summer? with
  | none => z.offset
  | some (start, stop) =>
    let year := (Date.ofDays ((instant + z.offset).fdiv 86400)).year
    if isSummer start stop year instant then z.offset + 3600 else z.offset

end Zone

/-- The clocks of places: how many seconds they are ahead of universal time at an instant, which is
given in seconds since the first of January 1970. -/
structure Clocks where
  /-- The clocks of the place that is meant by `Local`. -/
  here : Int → Int
  /-- The clocks of a place with a name, if there is one. -/
  named? : String → Option (Int → Int)

namespace Clocks

/-- The clocks of the zones, in a place with universal time. -/
def standard : Clocks where
  here := Zone.universal.offsetAt
  named? name := (Zone.ofName? name).map Zone.offsetAt

/-- The clocks of a location. -/
def of? (clocks : Clocks) (location : String) : Option (Int → Int) :=
  if location == "Local" then some clocks.here else clocks.named? location

end Clocks

/-- A moment on other clocks; a moment that does not know its own clock stays as it is. Without a
year of four digits, in universal time or on the clocks, there is none. -/
def Moment.onClocks? (m : Moment) (ahead : Int → Int) : Option Moment :=
  match m.offset with
  | none => some m
  | some offset =>
    let instant := m.localMicros.fdiv 1000000 - offset
    let seconds := instant + ahead instant
    if Date.holdsSecond instant && Date.holdsSecond seconds then
      some { Moment.ofLocalSeconds seconds (some (ahead instant)) with micro := m.micro }
    else none

end MonitoringConfig
