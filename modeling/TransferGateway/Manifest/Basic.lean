import TransferGateway.Admission.Limits
import TransferGateway.Handoff.Request
import TransferGateway.Number.FloatText
import TransferGateway.Policy.Basic
import TransferGateway.Table

/-!
# Gateway manifests

What a gateway is told about itself: its host, the policies for everybody, the limits of
admission, where queued transfers are stored, and settings of single users.
-/

namespace TransferGateway

/-- The name and labels of a manifest. -/
structure Metadata where
  name : String
  version : Option String := none
  labels : Option (Table String) := none
deriving DecidableEq, Repr, Inhabited

/-- The block size of a manifest that gives none. -/
def defaultBlockSize : Nat := 65536

/-- The host of a gateway. -/
structure HostSettings where
  id : String
  defaultBlockSize : Nat := TransferGateway.defaultBlockSize
deriving DecidableEq, Repr, Inhabited

/-- The policies for everybody, and how processes are started. -/
structure ExecutionSettings where
  specs : PolicySpecs := {}
  retryDelay : Duration := .ofMillis 100
deriving DecidableEq, Repr, Inhabited

/-- Where rules and queued transfers are stored. -/
inductive Storage where
  | inMemory
  | database (connection : String) (maxConnections : Nat)
deriving DecidableEq, Repr, Inhabited

/-- The settings of a user. -/
structure UserSettings where
  account : Option String := none
  admin : Bool := false
  specs : PolicySpecs := {}
deriving DecidableEq, Repr, Inhabited

/-- What a manifest says about the gateway. -/
structure ManifestSpec where
  host : HostSettings
  execution : ExecutionSettings := {}
  admission : AdmissionLimits := {}
  storage : Storage := .inMemory
  rules : List TransferRule := []
  users : Table UserSettings := .empty
deriving DecidableEq, Repr, Inhabited

/-- A gateway manifest. -/
structure Manifest where
  apiVersion : String
  kind : String
  metadata : Metadata
  spec : ManifestSpec
deriving DecidableEq, Repr, Inhabited

namespace Manifest

/-- The version that every manifest has to state. -/
def expectedVersion : String := "relaygate.io/v1"

/-- The kind that every manifest has to state. -/
def expectedKind : String := "GatewayConfig"

/-- The manifest of a machine that has none. -/
def standard (hostname : String) : Manifest where
  apiVersion := expectedVersion
  kind := expectedKind
  metadata := { name := hostname, version := some "1.0.0" }
  spec := { host := { id := hostname } }

/-- The policies for everybody. -/
def policies (m : Manifest) : Except SpecificationError PolicySet :=
  PolicySet.parse m.spec.execution.specs

/-- The policies of every user. -/
def userPolicies (m : Manifest) : Except SpecificationError (Table PolicySet) :=
  m.spec.users.mapValues fun user => PolicySet.parse user.specs

/-- The settings of a user. -/
def user? (m : Manifest) (name : String) : Option UserSettings := m.spec.users.find? name

end Manifest

/-- Why a manifest is no good. -/
inductive ManifestError where
  | apiVersion (found : String)
  | kind (found : String)
  | emptyName
  | emptyHost
  | blockSize (found : Nat)
  | cpuLimit (found : Binary64)
  | emptyConnection
  | execution (cause : SpecificationError)
  | unnamedRule
  | unnamedUser
  | user (name : String) (cause : SpecificationError)
deriving DecidableEq, Repr, Inhabited

/-- The text of a manifest error. -/
def ManifestError.message : ManifestError → String
  | .apiVersion found =>
    "Invalid apiVersion: '" ++ found ++ "'. Must be '" ++ Manifest.expectedVersion ++ "'"
  | .kind found => "Invalid kind: '" ++ found ++ "'. Must be '" ++ Manifest.expectedKind ++ "'"
  | .emptyName => "metadata.name cannot be empty"
  | .emptyHost => "spec.host.id cannot be empty"
  | .blockSize found =>
    "spec.host.default_block_size must be at least " ++ toString Handoff.minBlockSize ++
      ", got " ++ toString found
  | .cpuLimit found =>
    "spec.admission.cpu_limit must be within [0, 1], got " ++ found.plainText
  | .emptyConnection => "spec.storage.connection_string cannot be empty"
  | .execution cause => "spec.execution: " ++ cause.message
  | .unnamedRule => "spec.rules contains a rule without a name"
  | .unnamedUser => "spec.users contains an empty user name"
  | .user name cause => "spec.users." ++ name ++ ": " ++ cause.message

namespace Manifest

/-- Fail unless something holds. -/
def require (holds : Bool) (otherwise : ManifestError) : Except ManifestError Unit :=
  if holds then .ok () else .error otherwise

/-- Whether the storage can be connected to as far as can be told. -/
def connectionGiven : Storage → Bool
  | .inMemory => true
  | .database connection _ => !connection.isEmpty

/-- Check the entries of users. -/
def validateUsers : List (String × UserSettings) → Except ManifestError Unit
  | [] => .ok ()
  | (name, user) :: rest => do
    require (!name.isEmpty) .unnamedUser
    match PolicySet.parse user.specs with
    | .error e => .error (.user name e)
    | .ok _ => validateUsers rest

/-- Check a manifest; the first fault is reported. -/
def validate (m : Manifest) : Except ManifestError Unit := do
  require (m.apiVersion == expectedVersion) (.apiVersion m.apiVersion)
  require (m.kind == expectedKind) (.kind m.kind)
  require (!m.metadata.name.isEmpty) .emptyName
  require (!m.spec.host.id.isEmpty) .emptyHost
  require (decide (Handoff.minBlockSize ≤ m.spec.host.defaultBlockSize))
    (.blockSize m.spec.host.defaultBlockSize)
  let cpuLimit := m.spec.admission.cpuLimit
  require (decide (Binary64.zero ≤ cpuLimit) && decide (cpuLimit ≤ Binary64.one))
    (.cpuLimit cpuLimit)
  require (connectionGiven m.spec.storage) .emptyConnection
  match m.policies with
  | .error e => .error (.execution e)
  | .ok _ =>
    require (m.spec.rules.all fun rule => !rule.name.isEmpty) .unnamedRule
    validateUsers m.spec.users.entries

end Manifest

end TransferGateway
