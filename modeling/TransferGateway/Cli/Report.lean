import TransferGateway.Cli.Line
import TransferGateway.Deployment
import TransferGateway.Duration.Units
import TransferGateway.Manifest.Load
import TransferGateway.Manifest.Sample
import TransferGateway.Manifest.Write

/-!
# Reports

What commands tell an operator: the lines they print, and if they fail, the failure with its
causes.
-/

namespace TransferGateway.Cli

/-- What a command has done. -/
structure Report where
  /-- What is printed. -/
  output : List Span := []
  /-- Why it failed, if it did: a message and its causes, the innermost last. -/
  failure : Option (String × List String) := none
  /-- The path and content of a file that was written. -/
  written : Option (String × String) := none
deriving DecidableEq, Repr, Inhabited

namespace Report

/-- A report of lines. -/
def ofLines (lines : List Line) : Report :=
  { output := lines.flatMap fun line => line ++ plain "\n" }

/-- A failure. -/
def fail (message : String) (causes : List String) : Report := { failure := some (message, causes) }

/-- Print lines in front of a report. -/
def after (lines : List Line) (r : Report) : Report :=
  { r with output := (ofLines lines).output ++ r.output }

/-- Put an indentation in front of every line of a text, and a mark in front of the first. -/
def indented (first others : List Char) (text : String) : List Char :=
  first ++ text.toList.flatMap fun c => if c = '\n' then c :: others else [c]

/-- Causes, numbered from a number on. -/
def numbered (n : Nat) : List String → List Char
  | [] => []
  | cause :: rest =>
    let digits := Number.decimalDigits n
    let mark := List.replicate (5 - digits.length) ' ' ++ digits ++ [':', ' ']
    '\n' :: indented mark (List.replicate 7 ' ') cause ++ numbered (n + 1) rest

/-- The text of a failure: its message, then its causes, numbered if there are several. -/
def failureText (message : String) (causes : List String) : String :=
  let listed :=
    match causes with
    | [] => []
    | [cause] =>
      let spaces := List.replicate 4 ' '
      "\n\nCaused by:\n".toList ++ indented spaces spaces cause
    | several => "\n\nCaused by:".toList ++ numbered 0 several
  "Error: " ++ message ++ String.ofList listed ++ "\n"

/-- The text for the error output. -/
def errors (r : Report) : String :=
  match r.failure with
  | none => ""
  | some (message, causes) => failureText message causes

/-- The exit status. -/
def status (r : Report) : Nat := if r.failure.isSome then 1 else 0

end Report

/-! ## Manifests -/

/-- What a policy asks for. -/
def describe (p : Policy) : Line :=
  match p.disposition with
  | .refuse => shown .failure "refused"
  | .runCommand => plain ("execute \x60" ++ p.template ++ "\x60")
  | .handOff => plain ("hand off \x60" ++ p.template ++ "\x60")
  | .nothing => shown .faint "none"

/-- The name of a kind of sampler. -/
def samplerName : SamplerKind → String
  | .native => "Native"
  | .external => "External"
  | .none => "None"

/-- A limit, or that it is not checked. -/
def limitText (isChecked : Bool) (limit : String) : String :=
  if isChecked then limit else "disabled"

/-- The lines about the host. -/
def hostLines (h : HostSettings) : List Line := [
  shown .strong "Host:", plain ("  ID: " ++ h.id),
  plain ("  Default block size: " ++ toString h.defaultBlockSize), []]

/-- The lines about the policies for everybody. -/
def executionLines (m : Manifest) : List Line :=
  let policies :=
    match m.policies with
    | .ok set => [
      plain "  Store: " ++ describe set.store, plain "  Retrieve: " ++ describe set.retrieve]
    | .error e => [plain "  " ++ shown .failure ("invalid: " ++ e.message)]
  [shown .strong "Execution:"] ++ policies ++
    [plain ("  Spawn retry delay: " ++ m.spec.execution.retryDelay.text), []]

/-- The lines about admission. -/
def admissionLines (a : AdmissionLimits) : List Line := [
  shown .strong "Admission:",
  plain ("  CPU limit: " ++ limitText a.cpuCheck a.cpuLimit.plainText),
  plain ("  Connection limit: " ++ limitText a.connectionCheck (toString a.connectionLimit)),
  plain ("  Min recheck interval: " ++ a.minRecheck.text),
  plain ("  Connection timeout: " ++ a.connectionTimeout.text),
  plain ("  Sampler: " ++ samplerName a.sampler), []]

/-- The lines about storage. -/
def storageLines (s : ManifestSpec) : List Line :=
  let line :=
    match s.storage with
    | .inMemory => "  In-memory (" ++ toString s.rules.length ++ " rule(s))"
    | .database _ maxConnections =>
      "  PostgreSQL (max " ++ toString maxConnections ++ " connections)"
  [shown .strong "Storage:", plain line, []]

/-- Users in the order of their names. -/
def sortedUsers (users : Table UserSettings) : List (String × UserSettings) :=
  users.entries.mergeSort fun a b => !decide (b.1 < a.1)

/-- The lines about users, if there are any. -/
def userLines (users : Table UserSettings) : List Line :=
  if users.entries.isEmpty then []
  else
    let lines := (sortedUsers users).map fun (name, user) =>
      plain "  " ++ shown .strong name ++ if user.admin then shown .warning " (admin)" else []
    [shown .strong "User overrides:"] ++ lines ++ [[]]

/-- The lines about a manifest. -/
def manifestLines (m : Manifest) : List Line :=
  [shown .strong "Current configuration:", []] ++ hostLines m.spec.host ++ executionLines m ++
    admissionLines m.spec.admission ++ storageLines m.spec ++ userLines m.spec.users

/-- What is said of something that is not set. -/
def unset : String := "(not set)"

/-- The lines about the places where a manifest is looked for. -/
def placeLines (host : Host) (asked : Option String) : List Line := [
  shown .strong "Configuration discovery paths:",
  plain "  1. --config flag: " ++ asked.elim (shown .faint unset) plain,
  plain ("  2. " ++ Manifest.pathVariable ++ ": ") ++
    shown .faint ((host.valueOf? Manifest.pathVariable).getD unset),
  plain "  3. ./relaygate-config.yaml", plain "  4. ~/.relaygate/config.yaml",
  plain "  5. /etc/relaygate/config.yaml", []]

/-! ## Hooks and hand-offs -/

/-- The number of a transfer that has been handed off. -/
def specialId (d : Descriptor) : Line := plain (" special id " ++ d.id.elim "" toString)

/-- The status of a command that has been run. -/
def statusNote (result : RunResult) : Line := plain (" (" ++ result.status.name ++ ")")

/-- What is said before a command. -/
def beforeReport (command : Command) : Except HookError BeforeOutcome → Report
  | .ok outcome =>
    let said :=
      match outcome with
      | .proceed => shown .success "may proceed"
      | .proceedAfterAction result =>
        shown .success "may proceed after action" ++ statusNote result
      | .enqueued descriptor => shown .success "handed off," ++ specialId descriptor
    .ofLines [plain (command.name ++ " ") ++ said]
  | .error e =>
    .fail (command.name ++ " rejected with " ++ toString e.reply.number ++ ": " ++ e.message) []

/-- What is said after a transfer. -/
def afterLine : AfterOutcome → Line
  | .completed => shown .success "Transfer completed, no post action"
  | .skipped => shown .warning "Transfer failed, post action skipped"
  | .actionSucceeded result => shown .success "Post action succeeded" ++ statusNote result
  | .enqueued descriptor => shown .success "Transfer handed off," ++ specialId descriptor
  | .completedWithAnomaly e =>
    shown .warning "Transfer completed with anomaly" ++
      plain (" " ++ toString e.reply.number ++ ": " ++ e.message)

/-- The line that says that a transfer has been prepared. -/
def preparedLine (isVolatile : Bool) : Line :=
  if isVolatile then shown .warning "✓ Transfer prepared (not persisted)"
  else shown .success "✓ Transfer queued"

/-- The lines about a transfer that has been prepared. -/
def preparedLines (isVolatile : Bool) (d : Descriptor) : List Line :=
  [preparedLine isVolatile] ++ (d.id.map fun id => plain ("  Special id: " ++ toString id)).toList ++
    [plain ("  Remote host: " ++ d.host), plain ("  Rule: " ++ d.rule ++ " (" ++ d.mode.name ++ ")"),
      plain ("  File: " ++ d.file), plain ("  Block size: " ++ toString d.blockSize),
      plain ("  Info: " ++ d.info)] ++
    if d.quiet then [plain "  Logging: " ++ shown .faint "disabled"] else []

/-- The line about a check of the load. -/
def checkLine (number : Nat) (load : Option Binary64) (limit : Binary64) (overloaded : Bool) :
    Line :=
  plain ("[" ++ toString number ++ "] load " ++ load.elim "not sampled" (·.fixedText 3) ++
    " (limit " ++ limit.plainText ++ ") -> ") ++
    if overloaded then shown .alarm "OVERLOADED" else shown .success "ok"

end TransferGateway.Cli
