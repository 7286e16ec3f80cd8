/-!
# Secrets

A secret is a text that is written to configuration files as it is but shown in messages only as
`<secret>`. A reference to the environment is kept as the text of the reference.
-/

namespace MonitoringConfig

/-- A text that messages do not show. -/
structure Secret where
  reveal : String
  deriving DecidableEq, Repr, Inhabited

namespace Secret

/-- What is shown in place of a secret. -/
def redacted : String := "<secret>"

/-- The secret that stands for a variable of the environment. -/
def ofVariable (name : String) : Secret :=
  ⟨"$\x7b" ++ name ++ "\x7d"⟩

/-- Whether there is nothing to hide. -/
def isEmpty (s : Secret) : Bool :=
  s.reveal.isEmpty

/-- What messages show of a secret. -/
def shown (s : Secret) : String :=
  if s.isEmpty then "" else redacted

end Secret

end MonitoringConfig
