/-! # Configuration

The settings of an engine. Each has a default.
-/

namespace DiagramAssist

structure Config where
  /-- How long a fetch may take, in milliseconds; zero means forever. -/
  timeoutMs : Nat
  /-- What may be left out at the end of the path of a library module. -/
  extension : String
deriving DecidableEq

namespace Config

/-- Ten seconds, and the usual extension of diagram files. -/
def standard : Config :=
  ⟨10000, ".puml"⟩

instance : Inhabited Config := ⟨standard⟩

/-- The time limit of a fetch, if there is one. -/
def timeout? (config : Config) : Option Nat :=
  if config.timeoutMs = 0 then none else some config.timeoutMs

end Config

end DiagramAssist
