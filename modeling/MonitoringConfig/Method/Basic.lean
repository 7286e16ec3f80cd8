import MonitoringConfig.Builder.Arguments
/-!
# Methods

A method of a value takes arguments like a builder does. It gives back another value, or changes the
value and gives it back as it then is.
-/

namespace MonitoringConfig

/-- What a method gives back: the value as it is afterwards, and the result, unless that is the
value itself. -/
structure Reply where
  state : Value
  result? : Option Value := none
  deriving Repr, Inhabited

/-- What a caller of the method goes on with. -/
def Reply.value (r : Reply) : Value :=
  r.result?.getD r.state

/-- A method: its parameters, and what it does to a value. -/
structure Method where
  signature : Signature
  run : Value → Arguments → Logged Reply

namespace Method

/-- Calls a method of a value. -/
def call (m : Method) (v : Value) (args : List Value) (given : List (String × Value)) :
    Logged Reply :=
  match m.signature.bind? args given with
  | some a => m.run v a
  | none => .failPlain .wrongType

/-- A method that leaves the value as it is and may log something. -/
def telling (signature : Signature) (f : Value → Arguments → Logged Value) : Method where
  signature
  run v a := (f v a).map fun w => ⟨v, some w⟩

/-- A method that leaves the value as it is. -/
def reading (signature : Signature) (f : Value → Arguments → Except Failure Value) : Method :=
  telling signature fun v a => .ofExcept (f v a)

/-- A method that changes the value. -/
def changing (signature : Signature) (f : Value → Arguments → Except Failure Value) : Method where
  signature
  run v a := (Logged.ofExcept (f v a)).map fun w => ⟨w, none⟩

/-- Parameters that must be given. -/
def required (names : List String) : Signature :=
  { positional := Signature.required names }

/-- Parameters that may be given. -/
def optional (given : List (String × Value)) : Signature :=
  { positional := Signature.optional given }

/-- Any number of arguments by position. -/
def any : Signature := { rest := true }

/-- A value that is just there, whatever is asked of it. -/
def property (f : Value → Except Failure Value) : Method :=
  reading { rest := true, keywords := true } fun v _ => f v

end Method

namespace Value

/-- The list with one more item. -/
def appended (v item : Value) : Except Failure Value :=
  match v with
  | list items => .ok (list (items ++ [item]))
  | _ => .error (.plain .noSuchMember)

/-- The mapping with another value under a key. -/
def withEntry (v key value : Value) : Except Failure Value :=
  match v with
  | map entries =>
    if key.canBeKey then .ok (map (insertEntry entries key value))
    else .error (.plain .wrongType)
  | _ => .error (.plain .wrongType)

/-- The mapping with further entries. -/
def withEntries (v : Value) (more : List (Value × Value)) : Except Failure Value :=
  match v with
  | map entries => .ok (map (insertEntries entries more))
  | _ => .error (.plain .noSuchMember)

/-- The entity with one of its fields changed. -/
def changeField (v : Value) (name : String) (f : Value → Except Failure Value) :
    Except Failure Value := do
  return v.setField name (← f (← v.field name))

/-- The entity with a field of a field changed, and so on along a path. -/
def changeAlong (v : Value) (f : Value → Except Failure Value) :
    List String → Except Failure Value
  | [] => f v
  | name :: names => do
    let w ← v.field name
    return v.setField name (← w.changeAlong f names)

end Value

end MonitoringConfig
