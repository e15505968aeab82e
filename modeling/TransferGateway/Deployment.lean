import TransferGateway.Admission.Connections
import TransferGateway.Admission.Sampler
import TransferGateway.Hook.Gateway
import TransferGateway.Manifest.Basic

/-!
# Deployments

A gateway that runs by a manifest: the policies, limits and rules in the manifest, the
connections it counts, the sampler of its load, and the sessions of its users.
-/

namespace TransferGateway

/-- Why a manifest cannot be put into operation. -/
inductive DeploymentError where
  | invalid (cause : ManifestError)
  /-- The database cannot be reached; the messages are those of the causes, the innermost last. -/
  | unreachable (messages : List String)
  /-- A database is asked for and there is none. -/
  | noDatabase
  | specification (cause : SpecificationError)
deriving DecidableEq, Repr, Inhabited

namespace DeploymentError

/-- The message of an error without its causes. -/
def headline : DeploymentError → String
  | .invalid _ => "Invalid gateway configuration"
  | .unreachable _ => "Failed to connect to the queued-transfer database"
  | .noDatabase => "PostgreSQL storage selected but no database connection"
  | .specification cause => cause.message

/-- The messages of the causes of an error, the innermost last. -/
def causes : DeploymentError → List String
  | .invalid cause => [cause.message]
  | .unreachable messages => messages
  | _ => []

end DeploymentError

/-- What a deployment does not take from its manifest. -/
structure Outside where
  machine : Machine := {}
  /-- What becomes of connecting to the database at an address, with at most the given number of
  connections: the messages of what fails and of its causes, or the store that is found there. -/
  connect : String → Nat → Except (List String) Store := fun _ _ => .error []
  /-- The time of day. -/
  clock : Int := 0
  /-- The load average of the operating system over time. -/
  systemLoad : Nat → Binary64 := fun _ => .zero
  /-- The random values of the admission controller. -/
  jitter : Nat → Rat := fun _ => mkRat 1 2

namespace Storage

/-- Connect to the database of a storage, if it has one. -/
def connect (outside : Outside) : Storage → Except DeploymentError (Option Store)
  | .inMemory => .ok none
  | .database address connections =>
    match outside.connect address connections with
    | .error messages => .error (.unreachable messages)
    | .ok store => .ok (some store)

/-- The rules in a storage, which are those of the database if it needs one. -/
def ruleBook (rules : List TransferRule) (database? : Option Store) :
    Storage → Except DeploymentError RuleBook
  | .inMemory => .ok (rules.foldl RuleBook.insert {})
  | .database .. =>
    match database? with
    | some store => .ok store.rules
    | none => .error .noDatabase

/-- The queue in a storage, which is that of the database if it needs one. -/
def queue (database? : Option Store) : Storage → Except DeploymentError Queue
  | .inMemory => .ok (.empty 1)
  | .database .. =>
    match database? with
    | some store => .ok store.queue
    | none => .error .noDatabase

end Storage

/-- A gateway in operation. -/
structure Deployment where
  manifest : Manifest
  gateway : Gateway
  userPolicies : Table PolicySet := .empty
  connections : Connections := {}
  /-- The sampler of the load, unless that is the operating system. -/
  sampler : Option LoadSampler := none
  systemLoad : Nat → Binary64 := fun _ => .zero

namespace Deployment

/-- The gateway of a manifest with the given policies and the given store. -/
def gatewayOf (m : Manifest) (outside : Outside) (policies : PolicySet) (store : Store) :
    Gateway where
  registry := ⟨policies⟩
  admission := { limits := m.spec.admission, jitter := outside.jitter }
  machine := outside.machine
  store := store
  handoff := ⟨m.spec.host.id, m.spec.host.defaultBlockSize⟩
  retryDelay := m.spec.execution.retryDelay

/-- Check that a manifest is good. -/
def checkManifest (m : Manifest) : Except DeploymentError Unit :=
  match m.validate with
  | .ok () => .ok ()
  | .error cause => .error (.invalid cause)

/-- The policies for everybody. -/
def policies (m : Manifest) : Except DeploymentError PolicySet :=
  match m.policies with
  | .ok set => .ok set
  | .error cause => .error (.specification cause)

/-- The policies of the users. -/
def policiesOfUsers (m : Manifest) : Except DeploymentError (Table PolicySet) :=
  match m.userPolicies with
  | .ok table => .ok table
  | .error cause => .error (.specification cause)

/-- Put a manifest into operation. -/
def start (outside : Outside) (m : Manifest) : Except DeploymentError Deployment := do
  checkManifest m
  let database? ← m.spec.storage.connect outside
  let rules ← m.spec.storage.ruleBook m.spec.rules database?
  let queue ← m.spec.storage.queue database?
  let policies ← policies m
  let userPolicies ← policiesOfUsers m
  return {
    manifest := m
    gateway := gatewayOf m outside policies
      { rules, queue, faults := (database?.map Store.faults).getD {}, clock := outside.clock }
    userPolicies
    sampler := LoadSampler.start? m.spec.admission.sampler
    systemLoad := outside.systemLoad }

/-- The session of a user who has just been authenticated. -/
def session (d : Deployment) (user baseDirectory : String) : Session :=
  let settings := d.manifest.user? user
  { user
    account := (settings.bind UserSettings.account).getD user
    baseDirectory
    admin := (settings.map UserSettings.admin).getD false
    policies := d.userPolicies.find? user }

/-- The policy that a session goes by. -/
def resolve (d : Deployment) (session : Session) (direction : Direction) : Policy :=
  d.gateway.registry.resolve session.policies direction

/-- The load at an instant. -/
def load (d : Deployment) (now : Nat) : Binary64 :=
  match d.sampler with
  | some sampler => sampler.load
  | none => d.systemLoad now

/-- The readings of the gateway over time, as long as no connection comes or goes. -/
def surroundings (d : Deployment) : Surroundings := fun now => d.connections.readings (d.load now)

/-- The gateway among what surrounds it now. -/
def current (d : Deployment) : Gateway := { d.gateway with surroundings := d.surroundings }

/-- Publish a load; whether there is a handle to publish it through. -/
def publish (d : Deployment) (load : Binary64) : Bool × Deployment :=
  match d.sampler with
  | some sampler => (sampler.hasHandle, { d with sampler := some (sampler.publish load) })
  | none => (false, d)

/-- Whether the gateway is overloaded now. -/
def check (d : Deployment) : Bool × Deployment :=
  let now := d.gateway.machine.now
  let (overloaded, admission) := d.gateway.admission.check now (d.surroundings now)
  (overloaded, { d with gateway := { d.gateway with admission } })

/-- Whether the gateway is overloaded, with the pauses that a session would make; there is no answer
if one of them cannot be held. -/
def checkWithBackoff (d : Deployment) (attempt : Nat) : Option (Bool × Deployment) :=
  let machine := d.gateway.machine
  (d.gateway.admission.heldRound d.surroundings machine.now attempt).map fun round =>
    (round.overloaded,
      { d with
        gateway :=
          { d.gateway with
            admission := round.controller, machine := { machine with now := round.now } } })

/-- Let time pass. -/
def sleep (d : Deployment) (length : Duration) : Deployment :=
  { d with gateway := { d.gateway with machine := d.gateway.machine.sleep length } }

/-- Prepare a hand-off. -/
def prepare (d : Deployment) (line : String) : Except HandoffError Descriptor × Deployment :=
  let prepared := Handoff.prepare d.gateway.handoff line d.gateway.store
  (prepared.result,
    { d with
      gateway :=
        { d.gateway with store := prepared.store, calls := d.gateway.calls ++ prepared.calls } })

/-- The hook before a command as it is run. -/
def before (d : Deployment) (session : Session) (command : Command) (path : String) :
    Option (Option (Except HookError BeforeOutcome) × Deployment) :=
  (d.current.heldBefore session command path).map fun (answer, gateway) =>
    (answer, { d with gateway })

/-- The hook after a transfer. -/
def after (d : Deployment) (session : Session) (operation : Operation) (path : String)
    (succeeded : Bool) : Option AfterOutcome × Deployment :=
  let (answer, gateway) := d.current.after session operation path succeeded
  (answer, { d with gateway })

end Deployment

end TransferGateway
