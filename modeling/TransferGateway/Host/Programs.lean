import TransferGateway.Execution.Launch
import TransferGateway.Host.Shell

/-!
# Starting the programs of the system

What the operating system says when a program is started: a path that leads nowhere, something
that is no program, or the run of a program.
-/

namespace TransferGateway.Programs

/-- Whether a text holds a zero byte. -/
def holdsZeroByte (s : String) : Bool := s.toList.any fun c => c.toNat == 0

/-- The process that a run makes. -/
def processOf (run : ProgramRun) : Process :=
  match run.ending with
  | .status code => { ending := .exits (some code) run.elapsed }
  | .signalled => { ending := .exits none run.elapsed }
  | .never => { ending := .hangs }

/-- Start a program with its arguments. -/
def launch (host : Host) (command : CommandLine) : Launch :=
  if command.toList.any holdsZeroByte then .fails .zeroByteInArgument
  else
    match host.programNamed command.program with
    | .error e => .fails e
    | .ok program => .starts (processOf (host.run program command.arguments))

end TransferGateway.Programs
