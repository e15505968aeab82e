import TransferGateway.Cli.Options
import TransferGateway.Duration.Basic
import TransferGateway.Number.Integer

/-!
# Invocations

What an operator asks for: a command with its settings, after the options that every command
knows.  Variables of the environment stand in for options that are not given.
-/

namespace TransferGateway.Cli

/-- A command of an operator. -/
inductive Action where
  | showConfig (paths asYaml : Bool)
  | validateConfig (file : Option String)
  | generateConfig (output : String)
  | checkAdmission (samples : Nat) (interval : Duration) (backoff : Bool)
  | runHook (user base : String) (after failed : Bool) (command path : String)
  | prepareHandoff (line : String)
deriving DecidableEq, Repr

/-- A command with the options that every command knows. -/
structure Invocation where
  config : Option String
  logLevel : String
  action : Action
deriving DecidableEq, Repr

/-- What a command line comes to. -/
inductive Request where
  | run (invocation : Invocation)
  /-- The version is asked for; of the program or of one of its commands. -/
  | version (path : List String)
  | help
  | misuse
deriving DecidableEq, Repr

/-- Whether a text is a path. -/
def isPath (s : String) : Bool := !s.isEmpty

/-- A number of samples. -/
def samples? (s : String) : Option Nat :=
  (Number.signedWithin? 64 10 s.toList).bind fun n =>
    if 0 ≤ n ∧ n < (Nat.pow 2 32 : Int) then some n.toNat else none

/-- A number of milliseconds. -/
def millis? (s : String) : Option Nat := Number.unsignedWithin? 64 10 s.toList

/-- The option that names the manifest. -/
def configOption : OptionSpec := { name := "config", short := some 'c', accepts := isPath }

/-- The option that sets the log level. -/
def logLevelOption : OptionSpec := { name := "log-level" }

/-- The options of every command, with the variables that stand in for them. -/
def globalOptions : List (OptionSpec × String) :=
  [(configOption, "RELAYGATE_CONFIG_PATH"), (logLevelOption, "RELAYGATE_LOG_LEVEL")]

/-- A level with the options of every command. -/
def levelWith (options words : List OptionSpec) (rest : Option OptionSpec)
    (subcommands : List String) : Level :=
  { options := globalOptions.map Prod.fst ++ options, words, rest, subcommands }

/-- A flag. -/
def flag (name : String) : OptionSpec := { name, takesValue := false }

/-- The word that asks for help where there are subcommands. -/
def helpWord : String := "help"

/-- The commands, each with its level. -/
def commands : List (String × List (String × Level)) := [
  ("config", [
    ("show", levelWith [flag "paths", flag "yaml"] [] none []),
    ("validate", levelWith [] [{ name := "FILE", accepts := isPath }] none []),
    ("generate",
      levelWith [{ name := "output", short := some 'o', accepts := isPath }] [] none [])]),
  ("admission", [
    ("check",
      levelWith
        [{ name := "samples", short := some 's', accepts := fun s => (samples? s).isSome },
          { name := "interval-ms", accepts := fun s => (millis? s).isSome }, flag "backoff"]
        [] none [])]),
  ("hook", [
    ("run",
      levelWith
        [{ name := "user", short := some 'u' }, { name := "base-dir" }, flag "after",
          flag "transfer-failed"]
        [{ name := "COMMAND" }, { name := "PATH" }] none [])]),
  ("handoff", [("prepare", levelWith [] [] (some { name := "ARGS" }) [])])]

/-- A level of groups of commands. -/
def groupLevel (names : List String) : Level := levelWith [] [] none (helpWord :: names)

/-- The level of the whole command line. -/
def rootLevel : Level := groupLevel (commands.map Prod.fst)

/-- The commands of a group. -/
def group? (name : String) : Option (List (String × Level)) :=
  (commands.find? fun entry => entry.1 == name).map Prod.snd

/-- Whether the words behind a request for help name commands, from the root on. -/
def namesCommands : List String → Bool
  | [] => true
  | [name] => name == helpWord || (group? name).isSome
  | [name, command] =>
    ((group? name).getD []).any fun entry => entry.1 == command || command == helpWord
  | _ => false

/-- The variables of the environment. -/
abbrev Variables := String → Option String

/-- Check what is pending at a level, and the variables that stand in at it. -/
def settle (environment : Variables) (m : Matches) : Except Stop Matches := do
  let m ← m.settle
  let standIns := globalOptions.all fun entry =>
    m.has entry.1.name || (environment entry.2).all entry.1.accepts
  if standIns then return m else .error .misuse

/-- What has been given at the levels of a command line. -/
structure Levels where
  root : Matches
  group : Matches
  command : Matches

/-- The value of an option that every command knows: what is given last on the line, else the
variable that stands in for it. -/
def Levels.global? (l : Levels) (environment : Variables) (spec : OptionSpec) (name : String) :
    Option String :=
  ((l.command.value? spec.name).orElse fun () => l.group.value? spec.name).orElse fun () =>
    (l.root.value? spec.name).orElse fun () => environment name

/-- The command that has been asked for; nothing if something is missing. -/
def action? (group command : String) (m : Matches) : Option Action :=
  match group, command with
  | "config", "show" => some (.showConfig (m.has "paths") (m.has "yaml"))
  | "config", "validate" => some (.validateConfig (m.value? "FILE"))
  | "config", "generate" =>
    some (.generateConfig ((m.value? "output").getD "./relaygate-config.yaml"))
  | "admission", "check" =>
    let samples := ((m.value? "samples").bind samples?).getD 1
    let interval := ((m.value? "interval-ms").bind millis?).getD 1000
    some (.checkAdmission samples (.ofMillis interval) (m.has "backoff"))
  | "hook", "run" => do
    let user ← m.value? "user"
    let command ← m.value? "COMMAND"
    let path ← m.value? "PATH"
    if m.has "transfer-failed" && !m.has "after" then none
    else
      return .runHook user ((m.value? "base-dir").getD ".") (m.has "after")
        (m.has "transfer-failed") command path
  | "handoff", "prepare" =>
    if m.has "ARGS" then some (.prepareHandoff (" ".intercalate (m.valuesOf "ARGS"))) else none
  | _, _ => none

namespace Request

/-- What a stop at a level comes to. -/
def ofStop (path : List String) : Stop → Request
  | .misuse => .misuse
  | .helpAsked => .help
  | .versionAsked => .version path

/-- Check the levels and put the invocation together, the innermost level first. -/
def finish (environment : Variables) (group command : String) (l : Levels) : Request :=
  match settle environment l.command, settle environment l.group, settle environment l.root with
  | .ok command', .ok group', .ok root' =>
    let l : Levels := ⟨root', group', command'⟩
    match action? group command l.command with
    | none => .misuse
    | some action =>
      .run {
        config := l.global? environment configOption "RELAYGATE_CONFIG_PATH"
        logLevel := (l.global? environment logLevelOption "RELAYGATE_LOG_LEVEL").getD "info"
        action }
  | _, _, _ => .misuse

/-- Read the arguments of a command. -/
def ofCommand (environment : Variables) (root group : Matches) (groupName name : String)
    (level : Level) (arguments : List String) : Request :=
  match level.read {} arguments with
  | .error stop => ofStop [groupName, name] stop
  | .ok result => finish environment groupName name ⟨root, group, result.found⟩

/-- Read the arguments of a group of commands. -/
def ofGroup (environment : Variables) (root : Matches) (groupName : String)
    (members : List (String × Level)) (arguments : List String) : Request :=
  match (groupLevel (members.map Prod.fst)).read {} arguments with
  | .error stop => ofStop [groupName] stop
  | .ok ⟨_, none⟩ => .misuse
  | .ok ⟨group, some (name, others)⟩ =>
    if name = helpWord then if namesCommands (groupName :: others) then .help else .misuse
    else
      match members.find? fun entry => entry.1 == name with
      | none => .misuse
      | some (_, level) => ofCommand environment root group groupName name level others

/-- Read a command line. -/
def ofArguments (environment : Variables) (arguments : List String) : Request :=
  match rootLevel.read {} arguments with
  | .error stop => ofStop [] stop
  | .ok ⟨_, none⟩ => .misuse
  | .ok ⟨root, some (name, others)⟩ =>
    if name = helpWord then if namesCommands others then .help else .misuse
    else
      match group? name with
      | none => .misuse
      | some members => ofGroup environment root name members others

end Request

end TransferGateway.Cli
