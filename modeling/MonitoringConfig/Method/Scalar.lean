import MonitoringConfig.Method.Entity
/-!
# Methods of scalars

What can be asked of durations, time spans, secrets, matchers, members of choices and errors.
-/

namespace MonitoringConfig.Method

/-- A property of a duration. -/
def ofDuration (f : Duration → Except Failure Value) : Value → Except Failure Value
  | .duration d => f d
  | _ => .error (.plain .noSuchMember)

/-- Methods of durations. -/
def duration : List (String × Method) := [
  ("nanoseconds", property (ofDuration fun d => .ok (.int d.nanoseconds))),
  ("total_seconds", reading {} fun v _ => ofDuration (fun d =>
    match d.totalSeconds? with
    | some x => .ok (.float x)
    | none => .error (.plain .tooLarge)) v),
  ("to_timedelta", reading {} fun v _ => ofDuration (fun d =>
    match d.toTimeSpan? with
    | some t => .ok (.timeSpan t)
    | none => .error (.plain .tooLarge)) v),
  ("is_zero", reading {} fun v _ => ofDuration (fun d => .ok (.bool d.isZero)) v),
  ("format", reading {} fun v _ => ofDuration (fun d => .ok (.text d.format)) v),
  ("to_wire", reading (optional [("style", .null)]) fun v _ =>
    ofDuration (fun d => .ok (.text d.format)) v)]

/-- A property of a time span. -/
def ofTimeSpan (name : String) (f : TimeSpan → Int) : String × Method :=
  (name, property fun v =>
    match v with
    | .timeSpan t => .ok (.int (f t))
    | _ => .error (.plain .noSuchMember))

/-- Methods of time spans. -/
def timeSpan : List (String × Method) :=
  [ofTimeSpan "days" TimeSpan.days, ofTimeSpan "seconds" TimeSpan.seconds,
    ofTimeSpan "microseconds" TimeSpan.fraction]

/-- A method of secrets. -/
def ofSecret (name : String) (signature : Signature) (f : Secret → Value) : String × Method :=
  (name, reading signature fun v _ =>
    match v with
    | .secret s => .ok (f s)
    | _ => .error (.plain .noSuchMember))

/-- Methods of secrets. -/
def secret : List (String × Method) :=
  [ofSecret "reveal" {} fun s => .text s.reveal,
    ofSecret "is_zero" {} fun s => .bool s.isEmpty,
    ofSecret "to_wire" (optional [("style", .null)]) fun s => .text s.reveal]

/-- A property of a matcher. -/
def ofMatcher (f : Matcher → Except Failure Value) : Value → Except Failure Value
  | .matcher m => f m
  | _ => .error (.plain .noSuchMember)

/-- Methods of matchers. -/
def matcher : List (String × Method) := [
  ("name", property (ofMatcher fun m => .ok (.text m.name))),
  ("op", property (ofMatcher fun m => .ok (.member .matchType m.op.symbol))),
  ("value", property (ofMatcher fun m => .ok (.text m.value))),
  ("format", reading {} fun v _ => ofMatcher (fun m => .ok (.text m.format)) v),
  ("matches", reading (required ["labels"]) fun v a =>
    ofMatcher (fun m => do return .bool (← m.holds (.ofValue (a.get "labels")))) v),
  ("to_wire", reading (optional [("style", .null)]) fun v a =>
    ofMatcher (fun m => .ok (m.toPlain (.ofValue (a.get "style")))) v)]

/-- Methods of members of choices. -/
def member : List (String × Method) := [
  ("value", property fun v =>
    match v with
    | .member _ s => .ok (.text s)
    | _ => .error (.plain .noSuchMember)),
  ("name", property fun v =>
    match v with
    | .member c s => .ok (.text (c.label s))
    | _ => .error (.plain .noSuchMember))]

/-- A property of an error. -/
def ofError (f : Value → Value → Value) : Value → Except Failure Value
  | .error _ message details => .ok (f message details)
  | _ => .error (.plain .noSuchMember)

/-- Properties of errors. -/
def error : List (String × Method) := [
  ("message", property (ofError fun message _ => message)),
  ("details", property (ofError fun _ details => details)),
  ("args", property (ofError fun message _ => .tuple [message]))]

end MonitoringConfig.Method
