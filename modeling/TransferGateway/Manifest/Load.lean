import TransferGateway.Host.Basic
import TransferGateway.Manifest.Read
import TransferGateway.Number.FloatNumeral

/-!
# Loading manifests

Where a manifest is looked for, what variables of the environment override in it, and what
happens when it cannot be loaded.
-/

namespace TransferGateway

namespace Manifest

/-- The variable that names the manifest to load. -/
def pathVariable : String := "RELAYGATE_CONFIG_PATH"

/-- The variable that overrides the limit of the load. -/
def cpuLimitVariable : String := "RELAYGATE_CPU_LIMIT"

/-- The variable that overrides the limit of connections. -/
def connectionLimitVariable : String := "RELAYGATE_CONNECTION_LIMIT"

/-- The places where a manifest is looked for, in this order. -/
def candidates (host : Host) : List String :=
  (host.valueOf? pathVariable).toList ++ ["./relaygate-config.yaml"] ++
    (host.home?.map fun home => Host.below (Host.below home ".relaygate") "config.yaml").toList ++
    ["/etc/relaygate/config.yaml"]

/-- The first place at which there is something. -/
def discover (host : Host) : Option String := (candidates host).find? host.files.exists?

/-- Apply the overrides of the environment; values that are no numbers are passed over. -/
def override (host : Host) (m : Manifest) : Manifest :=
  let limits := m.spec.admission
  let cpuLimit :=
    (host.valueOf? cpuLimitVariable).bind fun text => Number.float? text.toList
  let connectionLimit :=
    (host.valueOf? connectionLimitVariable).bind fun text =>
      Number.unsignedWithin? 64 10 text.toList
  let admission :=
    { limits with
      cpuLimit := cpuLimit.getD limits.cpuLimit
      connectionLimit := connectionLimit.getD limits.connectionLimit }
  { m with spec := { m.spec with admission } }

end Manifest

/-- Why a file gives no manifest. -/
inductive LoadFault where
  | unreadable (cause : SystemError)
  | invalid (cause : Yaml.ReadError)
deriving DecidableEq, Repr, Inhabited

/-- Why a manifest cannot be loaded. -/
structure LoadError where
  /-- The path, if it was asked for. -/
  asked : Option String
  fault : LoadFault
deriving DecidableEq, Repr, Inhabited

namespace LoadError

/-- What stands before the text of a fault. -/
def lead (e : LoadError) : String :=
  match e.asked with
  | none => ""
  | some path => "Failed to load config at " ++ quoted path ++ ": "

/-- The text of a load error. -/
def message (e : LoadError) : String :=
  e.lead ++
    match e.fault with
    | .unreadable cause => cause.text
    | .invalid cause => cause.message

end LoadError

namespace Manifest

/-- The manifest in a file. -/
def ofFile (host : Host) (path : String) : Except LoadFault Manifest :=
  match host.files.read path with
  | .error e => .error (.unreadable e)
  | .ok text =>
    match ofText host.name text with
    | .error e => .error (.invalid e)
    | .ok m => .ok m

/-- Load the manifest that is asked for, else the one that is found, else the standard one. -/
def load (host : Host) (asked : Option String) : Except LoadError Manifest :=
  let found :=
    match asked with
    | some path => some path
    | none => discover host
  match found with
  | none => .ok ((standard host.name).override host)
  | some path =>
    match ofFile host path with
    | .error fault => .error ⟨asked, fault⟩
    | .ok m => .ok (m.override host)

end Manifest

end TransferGateway
