import TransferGateway.Execution.Launch

/-!
# Running a command line

A command line is split and its program started; a start that fails for want of resources is
tried once more after a pause.  The process is then waited for, under a watchdog when there is a
time limit.  A process that ends on the very millisecond of the deadline is not killed.
-/

namespace TransferGateway.Executor

/-- Start a process, trying once more after a pause if resources were lacking.  A failure comes
with the number of attempts. -/
def start (retryDelay : Duration) (command : CommandLine) (m : Machine) :
    Except (Nat × SystemError) Process × Machine :=
  match m.launch command with
  | (.starts process, m) => (.ok process, m)
  | (.fails error, m) =>
    if error.isTransient then
      -- A second failure is final, whatever its kind.
      match (m.sleep retryDelay).launch command with
      | (.starts process, m) => (.ok process, m)
      | (.fails error, m) => (.error (2, error), m)
    else (.error (1, error), m)

/-- Wait for a process without limit; the answer is missing when that never ends. -/
def await (program : String) (process : Process) (m : Machine) : Option RunResult × Machine :=
  match process.ending with
  | .hangs => (none, m)
  | .exits code after => (some (.ofExit program code), m.sleep after)
  | .waitFails error after => (some (.failed (.wait program error)), (m.sleep after).kill)

/-- The instant at which a process ends, if it does. -/
def endOf (process : Process) (now : Nat) : Option Nat :=
  match process.ending with
  | .hangs => none
  | .exits _ after => some (wakeUp now after)
  | .waitFails _ after => some (wakeUp now after)

/-- Whether a process ends no later than the given instant. -/
def endsBy (process : Process) (now deadline : Nat) : Bool :=
  match endOf process now with
  | none => false
  | some ending => ending ≤ deadline

/-- Wait for a process, but kill it once the limit is over; a limit of zero is none. -/
def watch (program : String) (limit : Duration) (process : Process) (m : Machine) :
    Option RunResult × Machine :=
  if limit = .zero then await program process m
  -- Both instants are whole milliseconds; a tie goes to the process.
  else if endsBy process m.now (wakeUp m.now limit) then await program process m
  else (some (.failed (.timeout program limit)), (m.sleep limit).kill)

/-- Run a command line; the answer is missing when the run never ends. -/
def run (retryDelay : Duration) (line : String) (limit : Duration) (m : Machine) :
    Option RunResult × Machine :=
  match CommandLine.tokenize line with
  | none => (some (.failed .emptyCommand), m)
  | some command =>
    match start retryDelay command m with
    | (.error (attempts, error), m) =>
      (some (.failed (.spawn command.program attempts error)), m)
    | (.ok process, m) => watch command.program limit process m

end TransferGateway.Executor
