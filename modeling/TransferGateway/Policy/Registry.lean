import TransferGateway.Policy.Basic

/-!
# The policy registry

The policies in force for everybody.  They are replaced as a whole or not at all.  A session may
carry policies of its own; one that asks for something takes the place of the global one.
-/

namespace TransferGateway

/-- The global policies in force. -/
structure PolicyRegistry where
  global : PolicySet
deriving DecidableEq, Repr, Inhabited

namespace PolicyRegistry

/-- Put other global policies in force, unless one of them cannot be read. -/
def configure (registry : PolicyRegistry) (specs : PolicySpecs) :
    Except SpecificationError Unit × PolicyRegistry :=
  match PolicySet.parse specs with
  | .error e => (.error e, registry)
  | .ok global => (.ok (), ⟨global⟩)

/-- The policy for a direction of a session with policies of its own, if it has any. -/
def resolve (registry : PolicyRegistry) (own : Option PolicySet) (direction : Direction) :
    Policy :=
  match own with
  | none => registry.global.get direction
  | some policies =>
    if (policies.get direction).disposition = .nothing then registry.global.get direction
    else policies.get direction

/-- Whether transfers of a direction are allowed at all. -/
def isAllowed (registry : PolicyRegistry) (own : Option PolicySet) (direction : Direction) :
    Bool :=
  !(registry.resolve own direction).isRefusal

end PolicyRegistry

/-- A call on the registry. -/
inductive RegistryCall where
  | configure (specs : PolicySpecs)
  | global
  | resolve (own : Option PolicySet) (direction : Direction)
  | isAllowed (own : Option PolicySet) (direction : Direction)
deriving DecidableEq, Repr, Inhabited

/-- The answer to a call on the registry. -/
inductive RegistryAnswer where
  | configured (outcome : Except SpecificationError Unit)
  | global (policies : PolicySet)
  | resolved (policy : Policy)
  | allowed (holds : Bool)

namespace PolicyRegistry

/-- Answer a call. -/
def answer (registry : PolicyRegistry) : RegistryCall → RegistryAnswer × PolicyRegistry
  | .configure specs =>
    let (outcome, next) := registry.configure specs
    (.configured outcome, next)
  | .global => (.global registry.global, registry)
  | .resolve own direction => (.resolved (registry.resolve own direction), registry)
  | .isAllowed own direction => (.allowed (registry.isAllowed own direction), registry)

/-- Answer calls one after another, and record every call with its answer. -/
def run (registry : PolicyRegistry) :
    List RegistryCall → List (RegistryCall × RegistryAnswer) × PolicyRegistry
  | [] => ([], registry)
  | call :: rest =>
    let (answer, next) := registry.answer call
    let (history, last) := next.run rest
    ((call, answer) :: history, last)

end PolicyRegistry

end TransferGateway
