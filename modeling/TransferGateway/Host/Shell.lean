import TransferGateway.Host.Basic
import TransferGateway.Host.Script
import TransferGateway.Host.Utilities

/-!
# Running scripts

A shell runs the commands of a script one after the other.  Some it knows itself, others are
programs.  It may end itself by a signal.
-/

namespace TransferGateway

/-- The state of a shell. -/
structure Shell where
  host : Host
  /-- The name it runs under. -/
  name : String
  arguments : List String
  /-- The status of the command before. -/
  status : Nat := 0
  elapsed : Duration := .zero

namespace Shell

/-- The number of the process of a shell, as far as the shell itself can tell. -/
def processNumber : String := "1000"

/-- The value of a parameter; one that is not set is empty. -/
def valueOf (s : Shell) (name : String) : String :=
  match name with
  | "#" => toString s.arguments.length
  | "?" => toString s.status
  | "$" => processNumber
  | "@" | "*" => " ".intercalate s.arguments
  | "0" => s.name
  | "IFS" => " \t\n"
  | _ =>
    match Number.ofDigits? 10 name.toList with
    | some (n + 1) => (s.arguments[n]?).getD ""
    | _ => (s.host.valueOf? name).getD ""

/-- How a command leaves a shell. -/
inductive Step where
  | goesOn (s : Shell)
  | ends (run : ProgramRun)

/-- Go on with a status. -/
def goOn (s : Shell) (status : Nat) : Step := .goesOn { s with status }

/-- End with an exit status, of which the low byte counts. -/
def finish (s : Shell) (status : Nat) : ProgramRun :=
  { ending := .status (status % 256), elapsed := s.elapsed }

/-! ## Signals -/

/-- The names of signals with their numbers. -/
def signalNames : List (String × Nat) := [
  ("HUP", 1), ("INT", 2), ("QUIT", 3), ("ILL", 4), ("TRAP", 5), ("ABRT", 6), ("BUS", 7),
  ("FPE", 8), ("KILL", 9), ("USR1", 10), ("SEGV", 11), ("USR2", 12), ("PIPE", 13), ("ALRM", 14),
  ("TERM", 15), ("CHLD", 17), ("CONT", 18), ("STOP", 19), ("TSTP", 20), ("TTIN", 21),
  ("TTOU", 22), ("URG", 23), ("WINCH", 28)]

/-- The signal of a name or number. -/
def signal? (text : String) : Option Nat :=
  match Number.ofDigits? 10 text.toList with
  | some n => if n ≤ 64 then some n else none
  | none => (signalNames.find? fun entry => entry.1 == text).map Prod.snd

/-- Send a signal to processes; a shell knows of no process but itself. -/
def signalAll (s : Shell) (signal : Nat) : List String → Step
  | [] => s.goOn 0
  | target :: rest =>
    if target = processNumber then
      if [0, 17, 18, 23, 28].contains signal then signalAll s signal rest
      else if 19 ≤ signal ∧ signal ≤ 22 then .ends { ending := .never, elapsed := s.elapsed }
      else .ends { ending := .signalled, elapsed := s.elapsed }
    else s.goOn 1

/-- Send the signal that is asked for. -/
def kill (s : Shell) : List String → Step
  | "-s" :: name :: targets =>
    match signal? name with
    | some signal => s.signalAll signal targets
    | none => s.goOn 2
  | first :: rest =>
    match first.toList with
    | '-' :: name =>
      match signal? (String.ofList name) with
      | some signal => s.signalAll signal rest
      | none => s.goOn 2
    | _ => s.signalAll 15 (first :: rest)
  | [] => s.goOn 2

/-! ## Commands -/

/-- Leave the shell. -/
def leave (s : Shell) : List String → ProgramRun
  | [] => s.finish s.status
  | text :: _ =>
    match Number.ofDigits? 10 text.toList with
    | some n => s.finish n
    | none => s.finish 2

/-- Go on after a program; a shell takes a signal for a status beyond 128. -/
def wait (s : Shell) (run : ProgramRun) : Step :=
  let s := { s with elapsed := s.elapsed.plus run.elapsed }
  match run.ending with
  | .status code => s.goOn code
  | .signalled => s.goOn 137
  | .never => .ends { ending := .never, elapsed := s.elapsed }

/-- The status of a command that cannot be started: it is no program, or there is none. -/
def missingStatus : SystemError → Nat
  | .number 13 => 126
  | _ => 127

/-- Run a command; `nested` runs another shell. -/
def execute (nested : List String → ProgramRun) (s : Shell) : List String → Step
  | [] => s.goOn 0
  | "exit" :: arguments => .ends (s.leave arguments)
  | "kill" :: arguments => s.kill arguments
  | ":" :: _ => s.goOn 0
  | "echo" :: _ => s.goOn 0
  | "[" :: arguments =>
    if arguments.getLast? = some "]" then s.wait (Utilities.test s.host.files arguments.dropLast)
    else s.goOn 2
  | name :: arguments =>
    match s.host.programNamed name with
    | .error e => s.goOn (missingStatus e)
    | .ok program =>
      match Utilities.run? s.host.files program arguments with
      | some run => s.wait run
      | none => s.wait (nested arguments)

/-- Whether a command is run after the given status. -/
def isDue (status : Nat) : Script.Connective → Bool
  | .always => true
  | .onSuccess => status == 0
  | .onFailure => status != 0

/-- Run commands one after the other. -/
def runCommands (nested : List String → ProgramRun) (s : Shell) :
    List Script.Command → ProgramRun
  | [] => s.finish s.status
  | command :: rest =>
    if isDue s.status command.connective then
      match s.execute nested (command.words.flatMap (Script.fieldsOf s.valueOf)) with
      | .goesOn s => runCommands nested s rest
      | .ends run => run
    else runCommands nested s rest

/-- Run a script; what is no script has a status of its own. -/
def runText (nested : List String → ProgramRun) (s : Shell) (text : String) : ProgramRun :=
  match Script.parse? text with
  | none => s.finish 2
  | some commands => s.runCommands nested commands

/-- How deep shells may be nested. -/
def maxDepth : Nat := 64

/-- Start a shell with arguments: options, then a script or the path of one. -/
def invoke (host : Host) : Nat → List String → ProgramRun
  | 0, _ => { ending := .never }
  | depth + 1, arguments =>
    let nested := invoke host depth
    match arguments with
    | [] => .exits 0
    | "-c" :: [] => .exits 2
    | "-c" :: text :: [] => runText nested { host, name := "sh", arguments := [] } text
    | "-c" :: text :: name :: rest => runText nested { host, name, arguments := rest } text
    | path :: rest =>
      if path.toList.head? = some '-' then .exits 2
      else
        match host.files.read path with
        | .error _ => .exits 2
        | .ok text => runText nested { host, name := path, arguments := rest } text

end Shell

/-- Start the program that a command line names. -/
def Host.run (host : Host) (program : String) (arguments : List String) : ProgramRun :=
  match Utilities.run? host.files program arguments with
  | some run => run
  | none => Shell.invoke host Shell.maxDepth arguments

end TransferGateway
