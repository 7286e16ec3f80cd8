import MonitoringConfig.Value
/-!
# Logged results

A computation that can fail and that says on the way what it does. What it says are events, which
stand before the result, whether that is a value or a failure.
-/

namespace MonitoringConfig

/-- How important an event is. -/
inductive Level where
  | debug | info | warning | error | critical
  deriving DecidableEq, Repr, Inhabited

/-- Something that happened: what it is called, and what is said about it. -/
structure Event where
  level : Level
  name : String
  fields : List (String × Value)
  deriving Repr, Inhabited

/-- A result with the events before it. -/
structure Logged (α : Type) where
  events : List Event
  result : Except Failure α
  deriving Repr, Inhabited

namespace Logged

variable {α β : Type}

/-- A value, with no events. -/
def value (a : α) : Logged α := ⟨[], .ok a⟩

/-- A failure, with no events. -/
def fail (f : Failure) : Logged α := ⟨[], .error f⟩

/-- A failure of which only the category is known. -/
def failPlain (c : Category) : Logged α := fail (.plain c)

/-- One event. -/
def say (e : Event) : Logged Unit := ⟨[e], .ok ()⟩

/-- A result without events. -/
def ofExcept (r : Except Failure α) : Logged α := ⟨[], r⟩

/-- The computation with another value in place of its own. -/
def map (f : α → β) (x : Logged α) : Logged β := ⟨x.events, x.result.map f⟩

/-- One computation after another: the events follow each other, and the second does not take place
where the first fails. -/
def andThen (x : Logged α) (f : α → Logged β) : Logged β :=
  match x.result with
  | .ok a => ⟨x.events ++ (f a).events, (f a).result⟩
  | .error e => ⟨x.events, .error e⟩

instance : Monad Logged where
  pure := value
  bind := andThen

instance : MonadLift (Except Failure) Logged where
  monadLift := ofExcept

@[simp] theorem result_value (a : α) : (value a).result = .ok a := rfl

@[simp] theorem result_ofExcept (r : Except Failure α) : (ofExcept r).result = r := rfl

/-- The result of one computation after another depends on results alone. -/
theorem result_bind (x : Logged α) (f : α → Logged β) :
    (x >>= f).result = x.result.bind fun a => (f a).result := by
  cases x with
  | mk events result => cases result <;> rfl

/-- Several computations, one after the other. -/
def all : List (Logged α) → Logged (List α)
  | [] => value []
  | x :: xs => do
    let a ← x
    let as ← all xs
    return a :: as

end Logged

end MonitoringConfig
