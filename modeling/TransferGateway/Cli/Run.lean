import TransferGateway.Cli.Invocation
import TransferGateway.Cli.LogFilter
import TransferGateway.Cli.Report
import TransferGateway.Database.Connection
import TransferGateway.Host.EnvironmentFile
import TransferGateway.Host.Programs

/-!
# Running commands

What the commands of an operator do on a host.
-/

namespace TransferGateway.Cli

/-- Load the manifest for a command. -/
def loadManifest (host : Host) (asked : Option String) : Except Report Manifest :=
  match Manifest.load host asked with
  | .ok m => .ok m
  | .error e => .error (.fail "Failed to load configuration" [e.message])

/-- Check a manifest for a command. -/
def checkManifest (m : Manifest) : Except Report Manifest :=
  match m.validate with
  | .ok () => .ok m
  | .error e => .error (.fail "Configuration validation failed" [e.message])

/-- Load a manifest and check it. -/
def goodManifest (host : Host) (asked : Option String) : Except Report Manifest := do
  checkManifest (← loadManifest host asked)

/-- Put a manifest into operation on a host. -/
def deploy (host : Host) (m : Manifest) : Except Report Deployment :=
  let machine : Machine := { files := host.files.view, programs := Programs.launch host }
  let connect := fun address connections =>
    .error (Database.connectionFault host.files host.valueOf? address connections).messages
  match Deployment.start { machine, connect } m with
  | .ok d => .ok d
  | .error e => .error (.fail e.headline e.causes)

/-- The report of a computation that may end early with one. -/
def reportOf : Except Report Report → Report
  | .ok r => r
  | .error r => r

/-- Show the manifest in force. -/
def showConfig (host : Host) (asked : Option String) (paths asYaml : Bool) : Report :=
  reportOf do
    let m ← loadManifest host asked
    let shown : Report := if asYaml then { output := plain m.render } else .ofLines (manifestLines m)
    return shown.after (if paths then placeLines host asked else [])

/-- Check the manifest in force. -/
def validateConfig (host : Host) (asked : Option String) : Report :=
  (reportOf do
    let _ ← goodManifest host asked
    return .ofLines [shown .success "✓ Configuration is valid"]).after
      [plain "Validating configuration..."]

/-- Write the sample manifest to a file. -/
def generateConfig (host : Host) (path : String) : Report :=
  match host.files.write path Manifest.sample with
  | .ok _ =>
    { Report.ofLines [shown .success ("✓ Configuration generated: " ++ path)] with
      written := some (path, Manifest.sample) }
  | .error e => .fail ("Failed to write config to " ++ quoted path) [e.text]

/-- One check of the load, with backoff or without. -/
def checkOnce (backoff : Bool) (attempt : Nat) (d : Deployment) : Option (Bool × Deployment) :=
  if backoff then d.checkWithBackoff attempt else some d.check

/-- The lines of checks from an attempt on, with pauses between them. -/
def checkLines (interval : Duration) (backoff : Bool) (attempt : Nat) :
    Nat → Deployment → Option (List Line)
  | 0, _ => some []
  | remaining + 1, d => do
    let d := if attempt = 0 then d else d.sleep interval
    let (overloaded, d) ← checkOnce backoff attempt d
    let controller := d.gateway.admission
    let line := checkLine (attempt + 1) controller.lastLoad controller.limits.cpuLimit overloaded
    return line :: (← checkLines interval backoff (attempt + 1) remaining d)

/-- Check the load against the limits in force; nothing is reported if a pause cannot be held. -/
def checkAdmission (host : Host) (asked : Option String) (samples : Nat) (interval : Duration)
    (backoff : Bool) : Option Report :=
  let deployed := do
    let m ← goodManifest host asked
    return (m, ← deploy host m)
  match deployed with
  | .error r => some r
  | .ok (m, d) =>
    let limits := m.spec.admission
    let notice :=
      if limits.cpuCheck || limits.connectionCheck then []
      else [shown .warning "Admission control is disabled (no CPU or connection limit)"]
    (checkLines interval backoff 0 (max samples 1) d).map fun lines => .ofLines (notice ++ lines)

/-- Run a hook; nothing is reported if it never ends, or if a pause cannot be held. -/
def runHook (host : Host) (asked : Option String) (user base : String) (after failed : Bool)
    (command : Command) (path : String) : Option Report :=
  let deployed := do deploy host (← goodManifest host asked)
  match deployed with
  | .error r => some r
  | .ok d =>
    let session := d.session user base
    if after then
      match command.operation? with
      | none => some (.fail (command.name ++ " is not a transfer command") [])
      | some operation =>
        (d.after session operation path (!failed)).1.map fun outcome =>
          .ofLines [afterLine outcome]
    else (d.before session command path).bind fun (answer, _) => answer.map (beforeReport command)

/-- Prepare a hand-off. -/
def prepareHandoff (host : Host) (asked : Option String) (line : String) : Report :=
  match goodManifest host asked with
  | .error r => r
  | .ok m =>
    let isVolatile := m.spec.storage == .inMemory
    let prepared := reportOf do
      let d ← deploy host m
      match (d.prepare line).1 with
      | .ok descriptor => return .ofLines (preparedLines isVolatile descriptor)
      | .error e => return .fail "Transfer preparation failed" [e.message]
    prepared.after <|
      if isVolatile then
        [shown .warning ("WARNING: storage backend is in_memory; the queued transfer is " ++
          "discarded when this command exits.")]
      else []

/-- Carry out a command; nothing is reported if it never ends. -/
def perform (host : Host) (asked : Option String) : Action → Option Report
  | .showConfig paths asYaml => some (showConfig host asked paths asYaml)
  | .validateConfig file => some (validateConfig host (file.orElse fun () => asked))
  | .generateConfig output => some (generateConfig host output)
  | .checkAdmission samples interval backoff =>
    checkAdmission host asked samples interval backoff
  | .runHook user base after failed command path =>
    runHook host asked user base after failed (Command.parse command) path
  | .prepareHandoff line => some (prepareHandoff host asked line)

/-- The variable that sets the log filter. -/
def filterVariable : String := "RUST_LOG"

/-- Check the log filter: the one in the environment, or else the log level. -/
def checkFilter (host : Host) (logLevel : String) : Except FilterError Unit :=
  let preset := (host.valueOf? filterVariable).any fun text => (LogFilter.check text).isOk
  if preset then .ok () else LogFilter.check logLevel

/-- The variable that asks for codes of emphasis although the output is no terminal. -/
def emphasisVariable : String := "CLICOLOR_FORCE"

/-- Whether codes of emphasis are printed; they are only if they are asked for. -/
def showsCodes (host : Host) : Bool := (host.valueOf? emphasisVariable).any (· != "0")

/-- The name and version of the program, or of one of its commands. -/
def versionText (path : List String) : String :=
  "-".intercalate ("relaygate" :: path) ++ " 0.4.0\n"

/-- What running the program comes to. -/
structure Outcome where
  status : Nat
  output : String := ""
  errors : String := ""
  files : FileTree
  /-- The path and content of a file that was written. -/
  written : Option (String × String) := none

/-- The outcome of a report. -/
def Outcome.ofReport (host : Host) (r : Report) : Outcome where
  status := r.status
  output := renderSpans (showsCodes host) r.output
  errors := r.errors
  written := r.written
  files :=
    match r.written with
    | none => host.files
    | some (path, content) =>
      match host.files.write path content with
      | .ok files => files
      | .error _ => host.files

/-- The paths that an action consults besides those of manifests. -/
def pathsOfAction : Action → List String
  | .validateConfig file => file.toList
  | .generateConfig output =>
    let directory := (FileTree.components output).dropLast
    if directory.isEmpty then [output] else ["/".intercalate directory, output]
  | .runHook user base _ _ _ path => [(TransferContext.mk user "" base path .store).localPath]
  | _ => []

/-- The paths that the program consults with the given arguments. -/
def consulted (host : Host) (arguments : List String) : List String :=
  match Request.ofArguments host.valueOf? arguments with
  | .run i => Manifest.candidates host ++ i.config.toList ++ pathsOfAction i.action
  | _ => []

/-- The variables of the environment that the program consults. -/
def variableNames : List String :=
  ["HOME", Host.searchVariable, filterVariable, emphasisVariable, Manifest.cpuLimitVariable,
    Manifest.connectionLimitVariable, Database.portVariable, Database.numericVariable,
    Database.hostVariable] ++
    globalOptions.map Prod.snd

/-- Run an invocation. -/
def runInvocation (host : Host) (i : Invocation) : Option Report :=
  match checkFilter host i.logLevel with
  | .error e => some (.fail "Failed to create log filter" e.messages)
  | .ok () => perform host i.config i.action

/-- Run the program on a host; there is no outcome if it never ends. -/
def run (host : Host) (arguments : List String) : Option Outcome :=
  let host := EnvironmentFile.load host
  match Request.ofArguments host.valueOf? arguments with
  | .version path => some { status := 0, output := versionText path, files := host.files }
  | .help => some { status := 0, files := host.files }
  | .misuse => some { status := 2, files := host.files }
  | .run i => (runInvocation host i).map (Outcome.ofReport host)

end TransferGateway.Cli
