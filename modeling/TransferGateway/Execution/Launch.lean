import TransferGateway.Duration.Basic
import TransferGateway.Execution.CommandLine
import TransferGateway.Execution.Files
import TransferGateway.Execution.Result

/-!
# Starting processes

What happens when a gateway starts a process: the start fails, or a process runs and at some
time ends, or its waiting fails.  A machine has a clock, files and a supply of such outcomes,
and records every start and every kill.
-/

namespace TransferGateway

/-- How waiting for a process turns out. -/
inductive ProcessEnding where
  /-- It exits; a process ended by a signal has no exit code. -/
  | exits (code : Option Int) (after : Duration)
  /-- It never exits. -/
  | hangs
  /-- Waiting for it fails. -/
  | waitFails (error : SystemError) (after : Duration)
deriving DecidableEq, Repr, Inhabited

/-- A process that was started. -/
structure Process where
  ending : ProcessEnding
  /-- What killing it reports; a kill is counted also when it fails. -/
  killError : Option SystemError := none
deriving DecidableEq, Repr, Inhabited

/-- The outcome of starting a process. -/
inductive Launch where
  | fails (error : SystemError)
  | starts (process : Process)
deriving DecidableEq, Repr, Inhabited

/-- A process that exits with code zero at once. -/
def Launch.exitsAtOnce : Launch := .starts { ending := .exits (some 0) .zero }

/-- The machine a gateway runs on. -/
structure Machine where
  /-- The time on its clock, in nanoseconds. -/
  now : Nat := 0
  files : Files := .empty
  /-- The outcomes of the next starts. -/
  script : List Launch := []
  /-- The outcome of a start when the script is used up. -/
  programs : CommandLine → Launch := fun _ => .exitsAtOnce
  /-- Every start so far. -/
  launches : List CommandLine := []
  /-- The number of kills so far. -/
  kills : Nat := 0

namespace Machine

instance : Inhabited Machine := ⟨{}⟩

/-- Start a process. -/
def launch (m : Machine) (command : CommandLine) : Launch × Machine :=
  let recorded := { m with launches := m.launches ++ [command] }
  match m.script with
  | [] => (m.programs command, recorded)
  | outcome :: rest => (outcome, { recorded with script := rest })

/-- Let time pass until a wait of the given length is over. -/
def sleep (m : Machine) (d : Duration) : Machine := { m with now := wakeUp m.now d }

/-- Kill a process. -/
def kill (m : Machine) : Machine := { m with kills := m.kills + 1 }

end Machine

end TransferGateway
