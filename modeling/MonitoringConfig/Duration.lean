import MonitoringConfig.Number.Text
/-!
# Durations

A duration is a signed number of nanoseconds. Its text is a row of tokens, each a count and a unit
(`1h30m`, `500ms`), with one minus sign in front where it is negative.

* `Duration.parse?` reads tokens of any unit in any order.
* `Duration.format` writes hours, minutes, seconds and milliseconds, each at most once; what is
  finer than a millisecond is dropped.
-/

namespace MonitoringConfig

/-- A signed number of nanoseconds. -/
structure Duration where
  nanoseconds : Int
  deriving DecidableEq, Repr, Inhabited

namespace Duration

/-! ### Units and tokens -/

/-- The units a duration is written in. -/
inductive TimeUnit where
  | millisecond | second | minute | hour | day | week | year
  deriving DecidableEq, Repr

/-- The length of a unit in nanoseconds; a day has 24 hours, a year 365 days. -/
def TimeUnit.size : TimeUnit → Nat
  | .millisecond => 1000000
  | .second => 1000000000
  | .minute => 60 * 1000000000
  | .hour => 3600 * 1000000000
  | .day => 24 * 3600 * 1000000000
  | .week => 7 * 24 * 3600 * 1000000000
  | .year => 365 * 24 * 3600 * 1000000000

/-- The name of a unit. -/
def TimeUnit.symbol : TimeUnit → List Char
  | .millisecond => ['m', 's']
  | .second => ['s']
  | .minute => ['m']
  | .hour => ['h']
  | .day => ['d']
  | .week => ['w']
  | .year => ['y']

/-- The unit with a name of one letter. -/
def TimeUnit.ofLetter? : Char → Option TimeUnit
  | 's' => some .second
  | 'm' => some .minute
  | 'h' => some .hour
  | 'd' => some .day
  | 'w' => some .week
  | 'y' => some .year
  | _ => none

/-- A count of a unit, such as `90s`. -/
structure Token where
  count : Nat
  unit : TimeUnit
  deriving DecidableEq, Repr

/-- The length of a token in nanoseconds. -/
def Token.size (t : Token) : Nat :=
  t.count * t.unit.size

/-- The value of a decimal digit among the first 128 characters. -/
def digitValue (c : Char) : Nat :=
  c.toNat - '0'.toNat

/-! ### Reading -/

/-- Reads tokens. `start` is the position at which the token under way begins, `position` the one
reached, and `count` the digits of the token read so far, if there are any. The error is the
position at which the first token that cannot be read begins. An `m` with an `s` behind it is
always the millisecond. -/
def readTokens (start position : Nat) (count : Option Nat) : List Char → Except Nat (List Token)
  | [] => if count.isNone then .ok [] else .error start
  | c :: cs =>
    if c.isDigit then
      readTokens start (position + 1) (some (10 * count.getD 0 + digitValue c)) cs
    else
      match count with
      | none => .error start
      | some n =>
        match c, cs with
        | 'm', 's' :: rest =>
          (readTokens (position + 2) (position + 2) none rest).map (⟨n, .millisecond⟩ :: ·)
        | c, cs =>
          match TimeUnit.ofLetter? c with
          | some unit => (readTokens (position + 1) (position + 1) none cs).map (⟨n, unit⟩ :: ·)
          | none => .error start

/-- The tokens of a text, or the position of the first that cannot be read. -/
def tokens (cs : List Char) : Except Nat (List Token) :=
  readTokens 0 0 none cs

/-- The sizes of a row of tokens together. -/
def totalSize : List Token → Int
  | [] => 0
  | t :: ts => t.size + totalSize ts

theorem totalSize_append (ts us : List Token) :
    totalSize (ts ++ us) = totalSize ts + totalSize us := by
  induction ts with
  | nil => simp [totalSize]
  | cons t ts ih => simp [totalSize, ih, Int.add_assoc]

/-- The duration of a row of tokens. -/
def ofTokens (negative : Bool) (ts : List Token) : Duration :=
  ⟨if negative then -totalSize ts else totalSize ts⟩

/-- Why a text is no duration. -/
inductive Fault where
  /-- Nothing stands behind the sign. -/
  | empty
  /-- No token can be read at a position, counted from behind the sign. -/
  | malformed (position : Nat)
  deriving DecidableEq, Repr

/-- Splits the sign from the front of a text. -/
def splitSign : List Char → Bool × List Char
  | '-' :: cs => (true, cs)
  | cs => (false, cs)

/-- Reads the text of a duration. -/
def parse? (text : String) : Except Fault Duration :=
  let (negative, body) := splitSign text.toList
  if body.isEmpty then .error .empty
  else
    match tokens body with
    | .ok ts => .ok (ofTokens negative ts)
    | .error position => .error (.malformed position)

/-! ### Writing -/

/-- The units a duration is written with, the longest first. -/
def writtenUnits : List TimeUnit :=
  [.hour, .minute, .second, .millisecond]

/-- The tokens of a number of nanoseconds: as many of each unit as fit into what the longer ones
leave, units that do not fit left out. -/
def components : Nat → List TimeUnit → List Token
  | _, [] => []
  | remaining, unit :: units =>
    let count := remaining / unit.size
    let rest := components (remaining % unit.size) units
    if count == 0 then rest else ⟨count, unit⟩ :: rest

/-- The text of a token. -/
def Token.text (t : Token) : List Char :=
  digitsText t.count ++ t.unit.symbol

/-- The text of a duration; what is shorter than a millisecond is written `0s`. -/
def format (d : Duration) : String :=
  match components d.nanoseconds.natAbs writtenUnits with
  | [] => "0s"
  | ts =>
    let body := ts.flatMap Token.text
    String.ofList (if d.nanoseconds < 0 then '-' :: body else body)

/-! ### Arithmetic -/

/-- The duration of length zero. -/
def zero : Duration := ⟨0⟩

/-- Whether a duration has length zero. -/
def isZero (d : Duration) : Bool :=
  d.nanoseconds == 0

/-- The duration of whole days, hours, minutes, seconds and milliseconds. -/
def of (days hours minutes seconds milliseconds : Int) : Duration :=
  ⟨days * TimeUnit.day.size + hours * TimeUnit.hour.size + minutes * TimeUnit.minute.size
    + seconds * TimeUnit.second.size + milliseconds * TimeUnit.millisecond.size⟩

/-- The number of seconds nearest to a duration, unless it is too large to be written. -/
def totalSeconds? (d : Duration) : Option Binary64 :=
  let x := Binary64.ofFraction d.nanoseconds TimeUnit.second.size
  if x.isFinite then some x else none

/-- The sum of two durations. -/
def add (a b : Duration) : Duration := ⟨a.nanoseconds + b.nanoseconds⟩

/-- The difference of two durations. -/
def sub (a b : Duration) : Duration := ⟨a.nanoseconds - b.nanoseconds⟩

/-- A duration taken a whole number of times. -/
def scale (d : Duration) (factor : Int) : Duration := ⟨d.nanoseconds * factor⟩

/-- The duration with the other sign. -/
def neg (d : Duration) : Duration := ⟨-d.nanoseconds⟩

/-- The length of a duration without its sign. -/
def abs (d : Duration) : Duration := ⟨d.nanoseconds.natAbs⟩

end Duration

end MonitoringConfig
