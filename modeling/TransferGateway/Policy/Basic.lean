import TransferGateway.Command
import TransferGateway.Duration.Basic
import TransferGateway.Text.Blank

/-!
# Execution policies

A policy says what happens around a transfer of one direction: it is refused, a command is run,
a transfer is handed off, or nothing.  It is read from a specification, a keyword followed by a
command template; a text without keyword is a template to run.
-/

namespace TransferGateway

/-- What a policy asks for. -/
inductive Disposition where
  | refuse
  | runCommand
  | handOff
  | nothing
deriving DecidableEq, Repr, Inhabited

/-- A policy with its command template and the time limit of the command. -/
structure Policy where
  disposition : Disposition
  template : String := ""
  timeout : Duration := .zero
deriving DecidableEq, Repr, Inhabited

/-- A specification whose keyword lacks its command template. -/
structure SpecificationError where
  keyword : String
  direction : Direction
deriving DecidableEq, Repr, Inhabited

/-- The text of a specification error. -/
def SpecificationError.message (e : SpecificationError) : String :=
  "Keyword " ++ e.keyword ++ " requires a command template in " ++ e.direction.name ++
    " specification"

namespace Policy

/-- The keyword of a refusal. -/
def refuseKeyword : String := "REFUSED"

/-- The keyword of a command to run. -/
def runKeyword : String := "EXECUTE"

/-- The keyword of a hand-off. -/
def handOffKeyword : String := "R66PREPARETRANSFER"

/-- The keyword of no action. -/
def nothingKeyword : String := "NONE"

/-- A refusal. -/
def refusal : Policy := ⟨.refuse, "", .zero⟩

/-- No action. -/
def noAction : Policy := ⟨.nothing, "", .zero⟩

/-- Whether the policy refuses the transfer. -/
def isRefusal (p : Policy) : Bool := p.disposition == .refuse

/-- The policy of a keyword that needs a template. -/
def withTemplate (disposition : Disposition) (keyword : String) (template : List Char)
    (timeout : Duration) (direction : Direction) : Except SpecificationError Policy :=
  if template.isEmpty then .error ⟨keyword, direction⟩
  else .ok ⟨disposition, String.ofList template, timeout⟩

/-- Read a trimmed specification that is not empty. -/
def parseTrimmed (spec : List Char) (timeout : Duration) (direction : Direction) :
    Except SpecificationError Policy :=
  let (head, tail?) := Text.splitAtBlank spec
  let rest := Text.trim (tail?.getD [])
  if head = refuseKeyword.toList then .ok refusal
  else if head = nothingKeyword.toList ∧ rest = [] then .ok noAction
  else if head = runKeyword.toList then
    withTemplate .runCommand runKeyword rest timeout direction
  else if head = handOffKeyword.toList then
    withTemplate .handOff handOffKeyword rest timeout direction
  else .ok ⟨.runCommand, String.ofList spec, timeout⟩

/-- Read a specification; an empty one asks for nothing. -/
def parse (spec : String) (timeout : Duration) (direction : Direction) :
    Except SpecificationError Policy :=
  let trimmed := Text.trim spec.toList
  if trimmed.isEmpty then .ok noAction else parseTrimmed trimmed timeout direction

/-- The canonical specification of a policy. -/
def specification (p : Policy) : String :=
  match p.disposition with
  | .refuse => refuseKeyword
  | .nothing => nothingKeyword
  | .runCommand => runKeyword ++ " " ++ p.template
  | .handOff => handOffKeyword ++ " " ++ p.template

end Policy

/-- The specifications of both directions with their time limits. -/
structure PolicySpecs where
  store : String := ""
  storeTimeout : Duration := .zero
  retrieve : String := ""
  retrieveTimeout : Duration := .zero
deriving DecidableEq, Repr, Inhabited

/-- The policies of both directions. -/
structure PolicySet where
  store : Policy
  retrieve : Policy
deriving DecidableEq, Repr, Inhabited

namespace PolicySet

/-- The policy of a direction. -/
def get (s : PolicySet) : Direction → Policy
  | .store => s.store
  | .retrieve => s.retrieve

/-- Read the specifications of both directions, that of storing first. -/
def parse (specs : PolicySpecs) : Except SpecificationError PolicySet :=
  match Policy.parse specs.store specs.storeTimeout .store with
  | .error e => .error e
  | .ok store =>
    match Policy.parse specs.retrieve specs.retrieveTimeout .retrieve with
    | .error e => .error e
    | .ok retrieve => .ok ⟨store, retrieve⟩

end PolicySet

end TransferGateway
