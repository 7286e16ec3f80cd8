import MonitoringConfig.Pattern.Token
/-!
# Reading patterns

The tokens of a text are put together from left to right. Groups that are open form a stack; a group
that is closed becomes a part of the one around it. `Pattern.read` reads the text of a pattern.
-/

namespace MonitoringConfig.Pattern

/-- What is known of the groups of a pattern so far. -/
structure GroupState where
  /-- The number of the next group. -/
  next : Nat := 1
  /-- The groups that are closed, with their widths. -/
  closed : List (Nat × Width) := []
  names : List (String × Nat) := []
  /-- The number of the first group inside the condition on what stands before, if one is open. -/
  behind? : Option Nat := none
  /-- The greatest number that a choice depends on. -/
  needed : Nat := 0
  /-- Whether some condition on what stands before has no fixed length. -/
  unfit : Bool := false
  /-- Whether the classes of all scripts were asked for. -/
  allScripts : Bool := false
  deriving Repr, Inhabited

/-- A group that is open: what it is made of so far, the last part first. -/
structure Frame where
  opener : Opener
  flags : Flags
  /-- The number of a group that remembers its match. -/
  number? : Option Nat := none
  /-- Whether closing the group ends the condition on what stands before. -/
  endsBehind : Bool := false
  done : List Pattern := []
  parts : List Pattern := []
  deriving Repr

namespace Frame

/-- The group with one more part. -/
def push (f : Frame) (p : Pattern) : Frame :=
  { f with parts := p :: f.parts }

/-- The parts under way as one pattern. -/
def under (f : Frame) : Pattern :=
  match f.parts with
  | [p] => p
  | parts => sequence parts.reverse

/-- The group with its next alternative. -/
def nextAlternative (f : Frame) : Frame :=
  { f with done := f.under :: f.done, parts := [] }

/-- All alternatives as one pattern. -/
def body (f : Frame) : Pattern :=
  match f.done with
  | [] => f.under
  | done => alternatives (f.under :: done).reverse

/-- The group with its last part repeated. -/
def repeatLast (f : Frame) (least : Nat) (greatest : Option Nat) (greed : Greed) :
    Except Failure Frame :=
  match f.parts with
  | [] => .error bad
  | p :: parts =>
    if p.isAnchor || p.isRepeated || f.flags.template then .error bad
    else .ok { f with parts := repeated least greatest greed p :: parts }

end Frame

/-- The flags with a letter added. -/
def Flags.add (f : Flags) (letter : Char) : Flags :=
  match letter with
  | 'i' => { f with ignoreCase := true }
  | 'm' => { f with multiLine := true }
  | 's' => { f with dotAll := true }
  | 'x' => { f with verbose := true }
  | 'a' => { f with ascii := true }
  | 'u' => { f with ascii := false }
  | 't' => { f with template := true }
  | _ => f

/-- The flags with a letter taken away. -/
def Flags.remove (f : Flags) (letter : Char) : Flags :=
  match letter with
  | 'i' => { f with ignoreCase := false }
  | 'm' => { f with multiLine := false }
  | 's' => { f with dotAll := false }
  | 'x' => { f with verbose := false }
  | _ => f

/-- The flags of a whole pattern with letters added. Asking for all scripts takes nothing away
here. -/
def Flags.addGlobal (f : Flags) (letters : List Char) : Flags :=
  (letters.filter (· != 'u')).foldl Flags.add f

namespace GroupState

/-- Checks that a group may be referred to inside a condition on what stands before. -/
def checkBehind (s : GroupState) (number : Nat) : Except Failure Unit :=
  match s.behind? with
  | none => .ok ()
  | some first =>
    if (s.closed.lookup number).isNone || first ≤ number then .error bad else .ok ()

/-- The pattern of what a group has matched, once more. -/
def reference (s : GroupState) (number : Nat) (flags : Flags) : Except Failure Pattern := do
  let some width := s.closed.lookup number | .error bad
  s.checkBehind number
  return again number width flags

/-- Opens a group inside another. -/
def opened (s : GroupState) (outer : Frame) (o : Opener) : Except Failure (GroupState × Frame) :=
  let frame : Frame := { opener := o, flags := outer.flags }
  match o with
  | .capture name? =>
    let number := s.next
    let named := { frame with number? := some number }
    match name? with
    | none => .ok ({ s with next := number + 1 }, named)
    | some name =>
      if (s.names.lookup name).isSome then .error bad
      else .ok ({ s with next := number + 1, names := (name, number) :: s.names }, named)
  | .scoped add remove =>
    let flags := remove.foldl Flags.remove (add.foldl Flags.add outer.flags)
    .ok (s, { frame with flags })
  | .atomic | .ahead _ => .ok (s, frame)
  | .behind _ =>
    if s.behind?.isSome then .ok (s, frame)
    else .ok ({ s with behind? := some s.next }, { frame with endsBehind := true })
  | .dependsOnName name => do
    let some number := s.names.lookup name | .error bad
    s.checkBehind number
    return (s, { frame with number? := some number })
  | .dependsOn number => do
    s.checkBehind number
    return ({ s with needed := max s.needed number }, { frame with number? := some number })

/-- Closes a group: what is known then, and the pattern of the group. -/
def closedGroup (s : GroupState) (f : Frame) : Except Failure (GroupState × Pattern) :=
  let body := f.body
  let s := if f.endsBehind then { s with behind? := none } else s
  match f.opener with
  | .capture _ =>
    let number := f.number?.getD 0
    .ok ({ s with closed := (number, body.width) :: s.closed }, group (some number) body)
  | .scoped .. => .ok (s, group none body)
  | .atomic => .ok (s, atomic body)
  | .ahead negated => .ok (s, ahead negated body)
  | .behind negated =>
    let width := body.width
    let fits := width.greatest == some width.least && width.least ≤ Token.repeatBound
    .ok ({ s with unfit := s.unfit || !fits }, behind negated width.least body)
  | .dependsOnName _ | .dependsOn _ =>
    let number := f.number?.getD 0
    match f.done with
    | [] => .ok (s, dependent number f.under empty)
    | [yes] => .ok (s, dependent number yes f.under)
    | _ => .error bad

end GroupState

/-- Checks what can be said of a pattern only when it is complete. -/
def finish (s : GroupState) (root : Frame) (balanced : Bool) : Except Failure Pattern :=
  if s.allScripts && root.flags.ascii then .error (.plain .badValue)
  else if !balanced || s.next ≤ s.needed || s.unfit then .error bad
  else .ok root.body

/-- Reads the rest of a pattern inside the innermost open group, with the groups around it. -/
def readFrom : (fuel : Nat) → GroupState → Frame → List Frame → List Char →
    Except Failure Pattern
  | 0, _, _, _, _ => .error bad
  | _ + 1, s, f, [], [] => finish s f true
  | _ + 1, _, _, _ :: _, [] => .error bad
  | fuel + 1, s, f, outer, c :: cs => do
    let (token, rest) ← Token.read f.flags.verbose c cs
    match token with
    | .nothing => readFrom fuel s f outer rest
    | .literal point => readFrom fuel s (f.push (chars ⟨[.one point], false⟩ f.flags)) outer rest
    | .dot => readFrom fuel s (f.push (any f.flags)) outer rest
    | .set set => readFrom fuel s (f.push (chars set f.flags)) outer rest
    | .anchor a => readFrom fuel s (f.push (anchor a f.flags)) outer rest
    | .repetition least greatest greed =>
      readFrom fuel s (← f.repeatLast least greatest greed) outer rest
    | .bar => readFrom fuel s f.nextAlternative outer rest
    | .reference number => readFrom fuel s (f.push (← s.reference number f.flags)) outer rest
    | .namedReference name =>
      let some number := s.names.lookup name | .error bad
      readFrom fuel s (f.push (← s.reference number f.flags)) outer rest
    | .flags letters =>
      if outer.isEmpty && f.done.isEmpty && f.parts.isEmpty then
        let s := { s with allScripts := s.allScripts || letters.contains 'u' }
        readFrom fuel s { f with flags := f.flags.addGlobal letters } outer rest
      else .error bad
    | .opened o =>
      let (s, inner) ← s.opened f o
      readFrom fuel s inner (f :: outer) rest
    | .closed =>
      match outer with
      | [] => finish s f false
      | around :: outer =>
        let (s, p) ← s.closedGroup f
        readFrom fuel s (around.push p) outer rest

/-- Reads the text of a pattern. -/
def read (text : String) : Except Failure Pattern :=
  let cs := text.toList
  readFrom (cs.length + 1) {} { opener := .scoped [] [], flags := {} } [] cs

end MonitoringConfig.Pattern
