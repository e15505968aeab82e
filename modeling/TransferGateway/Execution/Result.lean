import TransferGateway.Duration.Basic
import TransferGateway.SystemError

/-!
# Results of running a command line

A run ends well, with a warning, or failed; a failure always names its cause.
-/

namespace TransferGateway

/-- How a run ended. -/
inductive RunStatus where
  | ok
  | warning
  | failed
deriving DecidableEq, Repr, Inhabited

/-- The name of a status. -/
def RunStatus.name : RunStatus → String
  | .ok => "Ok"
  | .warning => "Warning"
  | .failed => "Failed"

/-- Exit code zero is a success, one a warning, any other a failure. -/
def RunStatus.ofExitCode (code : Int) : RunStatus :=
  if code = 0 then .ok else if code = 1 then .warning else .failed

/-- Why a run did not end with exit code zero. -/
inductive RunError where
  /-- The line has no word. -/
  | emptyCommand
  /-- The process could not be started. -/
  | spawn (program : String) (attempts : Nat) (source : SystemError)
  /-- The watchdog ended the process. -/
  | timeout (program : String) (limit : Duration)
  /-- The process ended with a code other than zero, or by a signal and with none. -/
  | exit (program : String) (code : Option Int)
  /-- The process could not be waited for. -/
  | wait (program : String) (source : SystemError)
deriving DecidableEq, Repr, Inhabited

namespace RunError

/-- The text of an exit code. -/
def exitText : Option Int → String
  | some code => "code " ++ toString code
  | none => "no exit code (terminated by signal)"

/-- The text of an error. -/
def message : RunError → String
  | .emptyCommand => "Empty command line"
  | .spawn program attempts source =>
    "Failed to spawn " ++ program ++ " after " ++ toString attempts ++ " attempt(s): " ++
      source.text
  | .timeout program limit =>
    "Process " ++ program ++ " killed by watchdog after " ++ limit.text
  | .exit program code => "Process " ++ program ++ " exited with " ++ exitText code
  | .wait program source => "Failed to wait for " ++ program ++ ": " ++ source.text

/-- Whether the watchdog ended the process. -/
def isTimeout : RunError → Bool
  | .timeout .. => true
  | _ => false

end RunError

/-- The result of a run. -/
structure RunResult where
  status : RunStatus
  cause : Option RunError
deriving DecidableEq, Repr, Inhabited

namespace RunResult

/-- A run that ended well. -/
def ok : RunResult := ⟨.ok, none⟩

/-- A run that failed for the given cause. -/
def failed (cause : RunError) : RunResult := ⟨.failed, some cause⟩

/-- The result of a process that ended by itself. -/
def ofExit (program : String) : Option Int → RunResult
  | none => failed (.exit program none)
  | some code =>
    match RunStatus.ofExitCode code with
    | .ok => ok
    | .warning => ⟨.warning, some (.exit program (some code))⟩
    | .failed => failed (.exit program (some code))

/-- A warning still counts as success. -/
def isSuccess (r : RunResult) : Bool := r.status != .failed

/-- Whether the watchdog ended the run. -/
def timedOut (r : RunResult) : Bool :=
  match r.cause with
  | some cause => cause.isTimeout
  | none => false

end RunResult

end TransferGateway
