import TransferGateway.Duration.Basic
import TransferGateway.Number.Binary64

/-!
# Admission limits

How much load and how many connections a gateway bears before it turns commands away, and what
it knows of its surroundings when it decides.
-/

namespace TransferGateway

/-- Where the load of the host is read. -/
inductive SamplerKind where
  /-- The load average of the operating system. -/
  | native
  /-- A value that an external monitor pushes. -/
  | external
  /-- Nowhere: the host always counts as idle. -/
  | none
deriving DecidableEq, Repr, Inhabited

namespace SamplerKind

/-- The name of a kind of sampler. -/
def name : SamplerKind → String
  | .native => "native"
  | .external => "external"
  | .none => "none"

/-- The kinds of sampler in the order of their definition. -/
def all : List SamplerKind := [.native, .external, .none]

/-- The kind of sampler with the given name. -/
def ofName? (name : String) : Option SamplerKind := all.find? fun kind => kind.name == name

end SamplerKind

/-- The limits that admission goes by. -/
structure AdmissionLimits where
  cpuLimit : Binary64 := .zero
  connectionLimit : Nat := 0
  /-- A sample that is younger than half of this and within the limit is used again. -/
  minRecheck : Duration := .ofSeconds 1
  /-- What the pause after an overload is derived from. -/
  connectionTimeout : Duration := .ofSeconds 30
  /-- Rounds before a command is rejected; zero counts as one. -/
  attempts : Nat := 2
  sampler : SamplerKind := .native
deriving DecidableEq, Repr, Inhabited

namespace AdmissionLimits

/-- The load is only checked against a limit strictly between zero and one. -/
def cpuCheck (limits : AdmissionLimits) : Bool :=
  decide (Binary64.zero < limits.cpuLimit) && decide (limits.cpuLimit < Binary64.one)

/-- Connections are only checked against a limit that is not zero. -/
def connectionCheck (limits : AdmissionLimits) : Bool := decide (0 < limits.connectionLimit)

/-- The rounds that a command gets. -/
def rounds (limits : AdmissionLimits) : Nat := max limits.attempts 1

end AdmissionLimits

/-- What a gateway knows of its surroundings at one instant. -/
structure Readings where
  load : Binary64 := .zero
  network : Nat := 0
  sessions : Nat := 0
deriving DecidableEq, Repr, Inhabited

/-- The surroundings of a gateway over time. -/
abbrev Surroundings := Nat → Readings

end TransferGateway
