import TransferGateway.Duration.Units
import TransferGateway.Manifest.Basic
import TransferGateway.Yaml.Printer

/-!
# Writing manifests

A manifest as YAML, its fields in the order in which they are declared.  A version, labels or
rules that are not there are left out; an account that is not there is written as nothing.
-/

namespace TransferGateway.Manifest
open TransferGateway.Yaml

/-- A duration in units. -/
def durationValue (d : Duration) : Value := .text d.inUnits

/-- An entry that may be left out. -/
def entryOf {α : Type} (name : String) (write : α → Value) : Option α → List (String × Value)
  | none => []
  | some a => [(name, write a)]

/-- Metadata to write. -/
def metadataValue (m : Metadata) : Value :=
  .mapping <|
    ("name", .text m.name) :: entryOf "version" .text m.version ++
      entryOf "labels"
        (fun labels => .mapping (labels.entries.map fun l => (l.1, .text l.2))) m.labels

/-- The entries of policy specifications. -/
def specsEntries (s : PolicySpecs) : List (String × Value) := [
  ("store", .text s.store), ("store_timeout", durationValue s.storeTimeout),
  ("retrieve", .text s.retrieve), ("retrieve_timeout", durationValue s.retrieveTimeout)]

/-- Host settings to write. -/
def hostValue (h : HostSettings) : Value :=
  .mapping [("id", .text h.id), ("default_block_size", .integer h.defaultBlockSize)]

/-- Execution settings to write. -/
def executionValue (e : ExecutionSettings) : Value :=
  .mapping (specsEntries e.specs ++ [("spawn_retry_delay", durationValue e.retryDelay)])

/-- Admission limits to write. -/
def admissionValue (a : AdmissionLimits) : Value :=
  .mapping [
    ("cpu_limit", .float a.cpuLimit), ("connection_limit", .integer a.connectionLimit),
    ("min_recheck_interval", durationValue a.minRecheck),
    ("connection_timeout", durationValue a.connectionTimeout),
    ("attempts", .integer a.attempts), ("sampler", .text a.sampler.name)]

/-- A storage to write. -/
def storageValue : Storage → Value
  | .inMemory => .mapping [("backend", .text "in_memory")]
  | .database connection maxConnections =>
    .mapping [("backend", .text "postgres"), ("connection_string", .text connection),
      ("max_connections", .integer maxConnections)]

/-- A rule to write. -/
def ruleValue (r : TransferRule) : Value :=
  .mapping [("name", .text r.name), ("mode", .text r.mode.name)]

/-- User settings to write. -/
def userValue (u : UserSettings) : Value :=
  .mapping <|
    [("account", u.account.elim .null .text), ("admin", .boolean u.admin)] ++ specsEntries u.specs

/-- The specification of a manifest to write. -/
def specValue (s : ManifestSpec) : Value :=
  .mapping <|
    [("host", hostValue s.host), ("execution", executionValue s.execution),
      ("admission", admissionValue s.admission), ("storage", storageValue s.storage)] ++
    (if s.rules.isEmpty then [] else [("rules", .sequence (s.rules.map ruleValue))]) ++
    [("users", .mapping (s.users.entries.map fun u => (u.1, userValue u.2)))]

/-- A manifest to write. -/
def toValue (m : Manifest) : Value :=
  .mapping [("apiVersion", .text m.apiVersion), ("kind", .text m.kind),
    ("metadata", metadataValue m.metadata), ("spec", specValue m.spec)]

/-- A manifest as YAML. -/
def render (m : Manifest) : String := m.toValue.render

end TransferGateway.Manifest
