import TransferGateway.Admission.Controller
import TransferGateway.Execution.Executor
import TransferGateway.Handoff.Prepare
import TransferGateway.Hook.Error
import TransferGateway.Policy.Registry
import TransferGateway.Template

/-!
# Transfer hooks

A session asks before every command whether it may go on, and reports every finished transfer.
Before a command: administrators and special commands pass; then admission decides, then the
policy of the direction; a retrieval runs its action now.  After a transfer: a file that was
stored has its action run now.  At most one action is run, a command line or a hand-off.
-/

namespace TransferGateway

/-- The principal of a session. -/
structure Session where
  user : String
  account : String
  baseDirectory : String
  /-- Administrators pass admission and policies by. -/
  admin : Bool := false
  /-- Policies of the user's own. -/
  policies : Option PolicySet := none
deriving DecidableEq, Repr, Inhabited

/-- The answer before a command that may go on. -/
inductive BeforeOutcome where
  | proceed
  | proceedAfterAction (result : RunResult)
  | enqueued (descriptor : Descriptor)
deriving DecidableEq, Repr, Inhabited

/-- The answer after a transfer. -/
inductive AfterOutcome where
  | completed
  | skipped
  | actionSucceeded (result : RunResult)
  | enqueued (descriptor : Descriptor)
  | completedWithAnomaly (anomaly : HookError)
deriving DecidableEq, Repr, Inhabited

/-- A gateway: its policies, its admission, the machine it runs on and its store. -/
structure Gateway where
  registry : PolicyRegistry
  admission : AdmissionController
  surroundings : Surroundings := fun _ => {}
  machine : Machine := {}
  store : Store := {}
  /-- The calls made on the store so far. -/
  calls : List StoreCall := []
  handoff : Handoff.Settings
  /-- The pause before a process is started once more. -/
  retryDelay : Duration := .ofMillis 100

namespace Gateway

/-- What the rounds of admission come to: the clock and the samples move on, nothing else does. -/
def judged (g : Gateway) (round : AdmissionRound) : Except HookError Unit × Gateway :=
  let settled :=
    { g with admission := round.controller, machine := { g.machine with now := round.now } }
  if round.overloaded then (.error (.admissionRejected g.admission.limits.rounds), settled)
  else (.ok (), settled)

/-- Decide on admission. -/
def judge (g : Gateway) : Except HookError Unit × Gateway :=
  g.judged (g.admission.judge g.surroundings g.machine.now)

/-- The facts of a transfer, unless one of them holds a marker. -/
def context (session : Session) (path : String) (operation : Operation) :
    Except HookError TransferContext :=
  let ctx : TransferContext :=
    ⟨session.user, session.account, session.baseDirectory, path, operation⟩
  match Template.unsafeField? ctx with
  | some field => .error (.unsafeContext field)
  | none => .ok ctx

/-- The verdict on a run: a run that failed without a cause counts as one that ended without an
exit code. -/
def verdict (line : String) (result : RunResult) : Except HookError RunResult :=
  if result.isSuccess then .ok result
  else
    match result.cause with
    | some cause => .error (.ofRun cause)
    | none => .error (.ofRun (.exit line none))

/-- Run the command of a policy; the answer is missing when its expansion or the run never ends. -/
def runAction (g : Gateway) (policy : Policy) (ctx : TransferContext) :
    Option (Except HookError RunResult) × Gateway :=
  match Template.expand ctx policy.template with
  | none => (none, g)
  | some line =>
    let (result?, machine) := Executor.run g.retryDelay line policy.timeout g.machine
    (result?.map (verdict line), { g with machine })

/-- Hand a transfer off; the answer is missing when the expansion never ends. -/
def handOff (g : Gateway) (policy : Policy) (ctx : TransferContext) :
    Option (Except HookError Descriptor) × Gateway :=
  match Template.expand ctx policy.template with
  | none => (none, g)
  | some line =>
    let prepared := Handoff.prepare g.handoff line g.store
    (some
      (match prepared.result with
      | .ok descriptor => .ok descriptor
      | .error cause => .error (.ofHandoff cause)),
     { g with store := prepared.store, calls := g.calls ++ prepared.calls })

/-- The action of a retrieval whose policy does not refuse it. -/
def retrieveAction (g : Gateway) (session : Session) (path : String) (policy : Policy) :
    Option (Except HookError BeforeOutcome) × Gateway :=
  match policy.disposition with
  | .refuse | .nothing => (some (.ok .proceed), g)
  | .runCommand =>
    match context session path .retrieve with
    | .error e => (some (.error e), g)
    | .ok ctx =>
      let (verdict?, after) := g.runAction policy ctx
      (verdict?.map (·.map .proceedAfterAction), after)
  | .handOff =>
    match context session path .retrieve with
    | .error e => (some (.error e), g)
    | .ok ctx =>
      let (result?, after) := g.handOff policy ctx
      (result?.map (·.map .enqueued), after)

/-- The policies' word on a command that was admitted. -/
def gate (g : Gateway) (session : Session) (command : Command) (path : String) :
    Option (Except HookError BeforeOutcome) × Gateway :=
  match command.operation? with
  | none => (some (.ok .proceed), g)
  | some operation =>
    let direction := operation.direction
    -- A refusal comes before any action, for both directions.
    let policy := g.registry.resolve session.policies direction
    if policy.isRefusal then (some (.error (.policyRefusal session.user direction)), g)
    else
      match direction with
      | .store => (some (.ok .proceed), g)
      | .retrieve => g.retrieveAction session path policy

/-- The hook before a command. -/
def before (g : Gateway) (session : Session) (command : Command) (path : String) :
    Option (Except HookError BeforeOutcome) × Gateway :=
  if session.admin || command.isSpecial then (some (.ok .proceed), g)
  else
    match g.judge with
    | (.error e, settled) => (some (.error e), settled)
    | (.ok (), settled) => settled.gate session command path

/-- The hook before a command as it is run: there is no answer if admission asks for a pause that
cannot be held. -/
def heldBefore (g : Gateway) (session : Session) (command : Command) (path : String) :
    Option (Option (Except HookError BeforeOutcome) × Gateway) :=
  if session.admin || command.isSpecial then some (some (.ok .proceed), g)
  else
    (g.admission.heldJudge g.surroundings g.machine.now).map fun round =>
      match g.judged round with
      | (.error e, settled) => (some (.error e), settled)
      | (.ok (), settled) => settled.gate session command path

/-- Run the command of a stored file, which must be there. -/
def runOnFile (g : Gateway) (policy : Policy) (ctx : TransferContext) :
    Option (Except HookError AfterOutcome) × Gateway :=
  match g.machine.files.checkRegular ctx.localPath with
  | .error source => (some (.error (.fileUnavailable ctx.localPath source)), g)
  | .ok () =>
    let (verdict?, after) := g.runAction policy ctx
    (verdict?.map (·.map .actionSucceeded), after)

/-- The action of a file that was stored. -/
def storeAction (g : Gateway) (session : Session) (operation : Operation) (path : String)
    (policy : Policy) : Option (Except HookError AfterOutcome) × Gateway :=
  match policy.disposition with
  | .refuse | .nothing => (some (.ok .completed), g)
  | .runCommand =>
    match context session path operation with
    | .error e => (some (.error e), g)
    | .ok ctx => g.runOnFile policy ctx
  | .handOff =>
    match context session path operation with
    | .error e => (some (.error e), g)
    | .ok ctx =>
      let (result?, after) := g.handOff policy ctx
      (result?.map (·.map .enqueued), after)

/-- A failure after a transfer is only an anomaly: the transfer stays completed. -/
def asOutcome : Except HookError AfterOutcome → AfterOutcome
  | .ok outcome => outcome
  | .error anomaly => .completedWithAnomaly anomaly

/-- The hook after a transfer. -/
def after (g : Gateway) (session : Session) (operation : Operation) (path : String)
    (succeeded : Bool) : Option AfterOutcome × Gateway :=
  if !succeeded then (some .skipped, g)
  else if session.admin || operation.direction = .retrieve then (some .completed, g)
  else
    let (outcome?, after) :=
      g.storeAction session operation path (g.registry.resolve session.policies .store)
    (outcome?.map asOutcome, after)

end Gateway

end TransferGateway
