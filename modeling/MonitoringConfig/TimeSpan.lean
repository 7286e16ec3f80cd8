import MonitoringConfig.Duration
/-!
# Time spans

A time span is a signed number of microseconds, shown as days, hours, minutes and seconds. It is
coarser than a `Duration`, and bounded by a thousand million days.
-/

namespace MonitoringConfig

/-- A signed number of microseconds. -/
structure TimeSpan where
  microseconds : Int
  deriving DecidableEq, Repr, Inhabited

namespace TimeSpan

/-- The microseconds of a day. -/
def perDay : Int := 86400 * 1000000

/-- The whole days of a span, rounded down. -/
def days (t : TimeSpan) : Int :=
  t.microseconds.fdiv perDay

/-- The whole seconds behind the days. -/
def seconds (t : TimeSpan) : Int :=
  (t.microseconds.fmod perDay).fdiv 1000000

/-- The microseconds behind the seconds. -/
def fraction (t : TimeSpan) : Int :=
  t.microseconds.fmod 1000000

/-- The span of the given days, seconds and microseconds. -/
def of (days seconds microseconds : Int) : TimeSpan :=
  ⟨days * perDay + seconds * 1000000 + microseconds⟩

/-- A span is that of its days, seconds and microseconds. -/
theorem of_parts (t : TimeSpan) : of t.days t.seconds t.fraction = t := by
  cases t with
  | mk n =>
    simp only [of, days, seconds, fraction, perDay, TimeSpan.mk.injEq]
    rw [Int.fdiv_eq_ediv_of_nonneg _ (by decide), Int.fdiv_eq_ediv_of_nonneg _ (by decide),
      Int.fmod_eq_emod_of_nonneg _ (by decide), Int.fmod_eq_emod_of_nonneg _ (by decide)]
    omega

/-- Whether the days of a span have at most nine digits. -/
def inRange (t : TimeSpan) : Bool :=
  t.days.natAbs ≤ 999999999

/-- A number below 60 with two digits. -/
def twoDigits (n : Nat) : String :=
  (if n < 10 then "0" else "") ++ String.ofList (digitsText n)

/-- The text of a span, such as `2 days, 0:01:30.000500`. -/
def text (t : TimeSpan) : String :=
  let seconds := t.seconds.toNat
  let clock := String.ofList (digitsText (seconds / 3600)) ++ ":" ++ twoDigits (seconds / 60 % 60)
    ++ ":" ++ twoDigits (seconds % 60)
  let days :=
    if t.days == 0 then ""
    else intText t.days ++ (if t.days.natAbs == 1 then " day, " else " days, ")
  let micros := digitsText t.fraction.toNat
  let fraction :=
    if t.fraction == 0 then ""
    else "." ++ String.ofList (List.replicate (6 - micros.length) '0' ++ micros)
  days ++ clock ++ fraction

end TimeSpan

namespace Duration

/-- The duration of a time span, put together of its days, seconds and microseconds. -/
def ofTimeSpan (t : TimeSpan) : Duration :=
  ⟨(t.days * 86400 + t.seconds) * TimeUnit.second.size + t.fraction * 1000⟩

/-- The longest time span that is not longer than a duration, unless it has too many days. -/
def toTimeSpan? (d : Duration) : Option TimeSpan :=
  let t : TimeSpan := ⟨d.nanoseconds.fdiv 1000⟩
  if t.inRange then some t else none

end Duration

end MonitoringConfig
