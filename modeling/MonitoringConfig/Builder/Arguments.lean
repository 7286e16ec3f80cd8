import MonitoringConfig.Projection.Read
/-!
# Arguments of builders

A builder has named parameters, some with defaults. Arguments are given by position or by name;
some builders take any number of further ones.

* `Signature.bind?` gives every parameter its argument, or says that the arguments do not fit.
-/

namespace MonitoringConfig

/-- A parameter, with the value it has when no argument is given. -/
structure Parameter where
  name : String
  default? : Option Value := none
  deriving Repr, Inhabited

/-- The parameters of a builder. -/
structure Signature where
  /-- Parameters that are given by position or by name. -/
  positional : List Parameter := []
  /-- Whether further arguments are taken by position. -/
  rest : Bool := false
  /-- Parameters that are given by name alone. -/
  keywordOnly : List Parameter := []
  /-- Whether further arguments are taken by name. -/
  keywords : Bool := false
  deriving Repr, Inhabited

/-- The arguments of a call. -/
structure Arguments where
  bound : List (String × Value) := []
  rest : List Value := []
  keywords : List (String × Value) := []
  deriving Repr, Inhabited

/-- The argument of a parameter. -/
def Arguments.get (a : Arguments) (name : String) : Value :=
  (a.bound.lookup name).getD .null

namespace Signature

/-- Parameters that must be given. -/
def required (names : List String) : List Parameter :=
  names.map fun name => { name }

/-- Parameters with defaults. -/
def optional (given : List (String × Value)) : List Parameter :=
  given.map fun (name, v) => { name, default? := some v }

/-- The parameters that the arguments do not reach, each with what is given for it by name, or its
default. -/
def complete? (given : List (String × Value)) : List Parameter → Option (List (String × Value))
  | [] => some []
  | p :: ps => do
    let v ← given.lookup p.name <|> p.default?
    return (p.name, v) :: (← complete? given ps)

/-- Gives every parameter its argument. -/
def bind? (s : Signature) (args : List Value) (given : List (String × Value)) :
    Option Arguments := do
  let count := s.positional.length
  if count < args.length && !s.rest then none
  let byPosition := (s.positional.map (·.name)).zip args
  let byName := s.positional.drop args.length ++ s.keywordOnly
  let others := given.filter fun (k, _) => !byName.any (·.name == k)
  if !others.isEmpty && !s.keywords then none
  if others.any fun (k, _) => byPosition.any fun (name, _) => name == k then none
  let bound ← complete? given byName
  return ⟨byPosition ++ bound, args.drop count, others⟩

end Signature

/-- A builder: its parameters, and what it makes of arguments. -/
structure Builder where
  signature : Signature
  build : Arguments → Logged Value

namespace Builder

/-- Calls a builder. -/
def call (b : Builder) (args : List Value) (given : List (String × Value)) : Logged Value :=
  match b.signature.bind? args given with
  | some a => b.build a
  | none => .failPlain .wrongType

/-- A builder with parameters that must be given and parameters with defaults. -/
def of (required : List String) (optional : List (String × Value))
    (build : Arguments → Except Failure Value) : Builder where
  signature := { positional := Signature.required required ++ Signature.optional optional }
  build a := .ofExcept (build a)

/-- A builder that takes further arguments by position behind those that must be given. -/
def withRest (required : List String) (keywordOnly : List (String × Value))
    (build : Arguments → Except Failure Value) : Builder where
  signature :=
    { positional := Signature.required required
      rest := true
      keywordOnly := Signature.optional keywordOnly }
  build a := .ofExcept (build a)

end Builder

/-- The entity of a kind with the given fields. -/
def Entity.of (kind : Kind) (given : List (String × Value)) : Except Failure Value :=
  Entity.make? kind (Entity.complete kind given)

/-- The builder of the entities of a kind: its parameters are the fields. -/
def Kind.builder (kind : Kind) : Builder where
  signature := { positional := kind.schema.fields.map fun f => ⟨f.name, f.default?⟩ }
  build a := .ofExcept (Entity.of kind a.bound)

end MonitoringConfig
