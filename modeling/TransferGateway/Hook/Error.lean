import TransferGateway.Command
import TransferGateway.Execution.Result
import TransferGateway.Handoff.Request

/-!
# Errors of hooks

Why a hook turned a command down or could not do its action, with the reply code a client is
told.
-/

namespace TransferGateway

/-- Reply codes that hooks produce. -/
inductive ReplyCode where
  | serviceNotAvailable
  | localProcessingError
  | badArguments
  | fileNameNotAllowed
deriving DecidableEq, Repr, Inhabited

/-- The number of a reply code. -/
def ReplyCode.number : ReplyCode → Nat
  | .serviceNotAvailable => 421
  | .localProcessingError => 451
  | .badArguments => 501
  | .fileNameNotAllowed => 553

/-- Why a hook failed. -/
inductive HookError where
  | policyRefusal (user : String) (direction : Direction)
  | unsafeContext (field : String)
  | admissionRejected (attempts : Nat)
  | spawn (cause : RunError)
  | timeout (cause : RunError)
  | exit (cause : RunError)
  | handoffParse (cause : HandoffError)
  | handoffPersistence (cause : HandoffError)
  | fileUnavailable (path : String) (source : SystemError)
deriving DecidableEq, Repr, Inhabited

namespace HookError

/-- The text of an error. -/
def message : HookError → String
  | .policyRefusal user direction =>
    direction.name ++ " operations are not allowed for user " ++ user
  | .unsafeContext field => "Transfer " ++ field ++ " contains a reserved template marker"
  | .admissionRejected attempts =>
    "Server overloaded, rejected after " ++ toString attempts ++ " admission attempt(s)"
  | .spawn cause => "Hook command could not be started: " ++ cause.message
  | .timeout cause => "Hook command timed out: " ++ cause.message
  | .exit cause => "Hook command failed: " ++ cause.message
  | .handoffParse cause => "Invalid transfer preparation: " ++ cause.message
  | .handoffPersistence cause => "Transfer preparation failed: " ++ cause.message
  | .fileUnavailable path source => "File " ++ path ++ " is not readable: " ++ source.text

/-- The reply code of an error. -/
def reply : HookError → ReplyCode
  | .policyRefusal .. | .unsafeContext _ => .fileNameNotAllowed
  | .admissionRejected _ => .serviceNotAvailable
  | .handoffParse _ => .badArguments
  | _ => .localProcessingError

/-- Only an overload is worth another try. -/
def isTransient : HookError → Bool
  | .admissionRejected _ => true
  | _ => false

/-- The category of a failed run. -/
def ofRun : RunError → HookError
  | .emptyCommand => .spawn .emptyCommand
  | .spawn program attempts source => .spawn (.spawn program attempts source)
  | .timeout program limit => .timeout (.timeout program limit)
  | .exit program code => .exit (.exit program code)
  | .wait program source => .exit (.wait program source)

/-- The category of a failed hand-off: the line was wrong, or the store failed. -/
def ofHandoff (cause : HandoffError) : HookError :=
  if cause.isParseError then .handoffParse cause else .handoffPersistence cause

end HookError

end TransferGateway
