import TransferGateway.Duration.Units
import TransferGateway.Manifest.Basic
import TransferGateway.Yaml.Content

/-!
# Reading manifests

The fields of a manifest, which of them may be left out, and what they are then.  Fields that
are not known are passed over.
-/

namespace TransferGateway.Manifest
open TransferGateway.Yaml

/-- Read a duration in units. -/
def readDuration : Reader Duration := readParsed "a duration" Duration.parse?

/-- Read a text. -/
def readString : Reader String := readText "a string"

/-- A record that is being read has seen a field it does not know. -/
def passOver {σ : Type} (state : σ) (value : Node) : ReadM σ := do
  ignore value
  return state

/-- Metadata while it is read. -/
structure MetadataDraft where
  name : Option String := none
  version : Option (Option String) := none
  labels : Option (Option (Table String)) := none

/-- Read metadata. -/
def readMetadata : Reader Metadata :=
  readRecord "ManifestMetadata" ({} : MetadataDraft)
    (fun d key ctx value => do
      match key with
      | "name" => return { d with name := ← readField key d.name readString ctx value }
      | "version" =>
        return { d with version := ← readField key d.version (readOptional readString) ctx value }
      | "labels" =>
        return { d with
          labels := ← readField key d.labels (readOptional (readTable readString)) ctx value }
      | _ => passOver d value)
    (fun d => do
      return { name := ← required "name" d.name, version := d.version.getD none
               labels := d.labels.getD none })

/-- Host settings while they are read. -/
structure HostDraft where
  id : Option String := none
  blockSize : Option Nat := none

/-- Read host settings. -/
def readHost : Reader HostSettings :=
  readRecord "HostConfig" ({} : HostDraft)
    (fun d key ctx value => do
      match key with
      | "id" => return { d with id := ← readField key d.id readString ctx value }
      | "default_block_size" =>
        return { d with blockSize := ← readField key d.blockSize (readUnsigned 32) ctx value }
      | _ => passOver d value)
    (fun d => do
      return { id := ← required "id" d.id, defaultBlockSize := d.blockSize.getD defaultBlockSize })

/-- Policy specifications while they are read. -/
structure SpecsDraft where
  store : Option String := none
  storeTimeout : Option Duration := none
  retrieve : Option String := none
  retrieveTimeout : Option Duration := none

namespace SpecsDraft

/-- Read a field of policy specifications, if it is one. -/
def add? (d : SpecsDraft) (key : String) (ctx : ReadContext) (value : Node) :
    Option (ReadM SpecsDraft) :=
  match key with
  | "store" => some do return { d with store := ← readField key d.store readString ctx value }
  | "store_timeout" =>
    some do
      return { d with storeTimeout := ← readField key d.storeTimeout readDuration ctx value }
  | "retrieve" =>
    some do return { d with retrieve := ← readField key d.retrieve readString ctx value }
  | "retrieve_timeout" =>
    some do
      return { d with
        retrieveTimeout := ← readField key d.retrieveTimeout readDuration ctx value }
  | _ => none

/-- The specifications that were read. -/
def finish (d : SpecsDraft) : PolicySpecs where
  store := d.store.getD ""
  storeTimeout := d.storeTimeout.getD .zero
  retrieve := d.retrieve.getD ""
  retrieveTimeout := d.retrieveTimeout.getD .zero

end SpecsDraft

/-- Execution settings while they are read. -/
structure ExecutionDraft where
  specs : SpecsDraft := {}
  retryDelay : Option Duration := none

/-- Read execution settings. -/
def readExecution : Reader ExecutionSettings :=
  readRecord "ExecutionConfig" ({} : ExecutionDraft)
    (fun d key ctx value => do
      match d.specs.add? key ctx value with
      | some next => return { d with specs := ← next }
      | none =>
        match key with
        | "spawn_retry_delay" =>
          return { d with retryDelay := ← readField key d.retryDelay readDuration ctx value }
        | _ => passOver d value)
    (fun d => .ok { specs := d.specs.finish, retryDelay := d.retryDelay.getD (.ofMillis 100) })

/-- The names of the samplers. -/
def samplerOptions : List (String × SamplerKind) :=
  SamplerKind.all.map fun kind => (kind.name, kind)

/-- Admission limits while they are read. -/
structure AdmissionDraft where
  cpuLimit : Option Binary64 := none
  connectionLimit : Option Nat := none
  minRecheck : Option Duration := none
  connectionTimeout : Option Duration := none
  attempts : Option Nat := none
  sampler : Option SamplerKind := none

/-- Read admission limits. -/
def readAdmission : Reader AdmissionLimits :=
  readRecord "AdmissionLimits" ({} : AdmissionDraft)
    (fun d key ctx value => do
      match key with
      | "cpu_limit" => return { d with cpuLimit := ← readField key d.cpuLimit readFloat ctx value }
      | "connection_limit" =>
        return { d with
          connectionLimit := ← readField key d.connectionLimit (readUnsigned 64) ctx value }
      | "min_recheck_interval" =>
        return { d with minRecheck := ← readField key d.minRecheck readDuration ctx value }
      | "connection_timeout" =>
        return { d with
          connectionTimeout := ← readField key d.connectionTimeout readDuration ctx value }
      | "attempts" =>
        return { d with attempts := ← readField key d.attempts (readUnsigned 32) ctx value }
      | "sampler" =>
        return { d with
          sampler := ← readField key d.sampler (readChoice samplerOptions) ctx value }
      | _ => passOver d value)
    (fun d =>
      let absent : AdmissionLimits := {}
      .ok {
        cpuLimit := d.cpuLimit.getD absent.cpuLimit
        connectionLimit := d.connectionLimit.getD absent.connectionLimit
        minRecheck := d.minRecheck.getD absent.minRecheck
        connectionTimeout := d.connectionTimeout.getD absent.connectionTimeout
        attempts := d.attempts.getD absent.attempts
        sampler := d.sampler.getD absent.sampler })

/-- The kinds of storage. -/
inductive Backend where
  | inMemory
  | database
deriving DecidableEq, Repr

/-- The kinds of storage by name. -/
def backendOptions : List (String × Backend) :=
  [("in_memory", .inMemory), ("postgres", .database)]

/-- The connections that a database allows unless it is told. -/
def defaultMaxConnections : Nat := 5

/-- A database while its settings are read. -/
structure DatabaseDraft where
  connection : Option String := none
  maxConnections : Option Nat := none

namespace DatabaseDraft

/-- The fields of a database. -/
def fields : List String := ["connection_string", "max_connections"]

/-- Take in a field. -/
def add (d : DatabaseDraft) (key value : Content) : Except ReadError DatabaseDraft := do
  match ← key.fieldName fields with
  | "connection_string" =>
    if d.connection.isSome then .error (duplicateField "connection_string")
    else return { d with connection := some (← value.text) }
  | "max_connections" =>
    if d.maxConnections.isSome then .error (duplicateField "max_connections")
    else return { d with maxConnections := some (← value.unsigned 32) }
  | _ => return d

/-- Take in fields from left to right. -/
def addAll (d : DatabaseDraft) : List (Content × Content) → Except ReadError DatabaseDraft
  | [] => .ok d
  | (key, value) :: rest => do (← d.add key value).addAll rest

/-- The database whose settings were read. -/
def finish (d : DatabaseDraft) : Except ReadError Storage := do
  return .database (← required "connection_string" d.connection)
    (d.maxConnections.getD defaultMaxConnections)

/-- A database whose settings are listed without names. -/
def ofItems : List Content → Except ReadError Storage
  | [] => .error (Content.wrongLength 0 "struct PostgresConfig with 2 elements")
  | [connection] => do return .database (← connection.text) defaultMaxConnections
  | connection :: maxConnections :: rest => do
    let text ← connection.text
    let n ← maxConnections.unsigned 32
    if rest.isEmpty then return .database text n
    else .error (Content.wrongLength (rest.length + 2) (Content.elements 2))

end DatabaseDraft

/-- The storage that a variant and its fields stand for. -/
def storageOf (v : Variant Backend) : Except ReadError Storage :=
  match v.chosen, v.content with
  | .inMemory, .sequence items =>
    if items.isEmpty then .ok .inMemory
    else .error (Content.wrongLength items.length (Content.elements 0))
  | .inMemory, _ => .ok .inMemory
  | .database, .mapping entries => do (← DatabaseDraft.addAll {} entries).finish
  | .database, .sequence items => DatabaseDraft.ofItems items
  | .database, other => other.misfit "struct PostgresConfig"

/-- Read where things are stored.  Faults in the fields of a variant belong to the record
around it. -/
def readStorage : Reader Storage := fun ctx node => do
  storageOf (← readVariant "StorageBackend" "backend" backendOptions ctx node)

/-- The names of the transfer modes. -/
def modeOptions : List (String × TransferMode) := TransferMode.all.map fun mode => (mode.name, mode)

/-- A rule while it is read. -/
structure RuleDraft where
  name : Option String := none
  mode : Option TransferMode := none

/-- Read a rule. -/
def readRule : Reader TransferRule :=
  readRecord "TransferRule" ({} : RuleDraft)
    (fun d key ctx value => do
      match key with
      | "name" => return { d with name := ← readField key d.name readString ctx value }
      | "mode" =>
        return { d with mode := ← readField key d.mode (readChoice modeOptions) ctx value }
      | _ => passOver d value)
    (fun d => do return ⟨← required "name" d.name, ← required "mode" d.mode⟩)

/-- User settings while they are read. -/
structure UserDraft where
  account : Option (Option String) := none
  admin : Option Bool := none
  specs : SpecsDraft := {}

/-- Read user settings. -/
def readUser : Reader UserSettings :=
  readRecord "UserConfig" ({} : UserDraft)
    (fun d key ctx value => do
      match d.specs.add? key ctx value with
      | some next => return { d with specs := ← next }
      | none =>
        match key with
        | "account" =>
          return { d with
            account := ← readField key d.account (readOptional readString) ctx value }
        | "admin" => return { d with admin := ← readField key d.admin readBoolean ctx value }
        | _ => passOver d value)
    (fun d =>
      .ok { account := d.account.getD none, admin := d.admin.getD false, specs := d.specs.finish })

/-- What a manifest says, while it is read. -/
structure SpecDraft where
  host : Option HostSettings := none
  execution : Option ExecutionSettings := none
  admission : Option AdmissionLimits := none
  storage : Option Storage := none
  rules : Option (List TransferRule) := none
  users : Option (Table UserSettings) := none

/-- Read what a manifest says; without a host section the host is that of the machine. -/
def readSpec (hostname : String) : Reader ManifestSpec :=
  readRecord "GatewayConfigSpec" ({} : SpecDraft)
    (fun d key ctx value => do
      match key with
      | "host" => return { d with host := ← readField key d.host readHost ctx value }
      | "execution" =>
        return { d with execution := ← readField key d.execution readExecution ctx value }
      | "admission" =>
        return { d with admission := ← readField key d.admission readAdmission ctx value }
      | "storage" => return { d with storage := ← readField key d.storage readStorage ctx value }
      | "rules" => return { d with rules := ← readField key d.rules (readList readRule) ctx value }
      | "users" =>
        return { d with users := ← readField key d.users (readTable readUser) ctx value }
      | _ => passOver d value)
    (fun d =>
      .ok {
        host := d.host.getD { id := hostname }
        execution := d.execution.getD {}
        admission := d.admission.getD {}
        storage := d.storage.getD .inMemory
        rules := d.rules.getD []
        users := d.users.getD .empty })

/-- A manifest while it is read. -/
structure ManifestDraft where
  apiVersion : Option String := none
  kind : Option String := none
  metadata : Option Metadata := none
  spec : Option ManifestSpec := none

/-- Read a manifest. -/
def reader (hostname : String) : Reader Manifest :=
  readRecord "GatewayConfigManifest" ({} : ManifestDraft)
    (fun d key ctx value => do
      match key with
      | "apiVersion" =>
        return { d with apiVersion := ← readField key d.apiVersion readString ctx value }
      | "kind" => return { d with kind := ← readField key d.kind readString ctx value }
      | "metadata" =>
        return { d with metadata := ← readField key d.metadata readMetadata ctx value }
      | "spec" => return { d with spec := ← readField key d.spec (readSpec hostname) ctx value }
      | _ => passOver d value)
    (fun d => do
      return {
        apiVersion := ← required "apiVersion" d.apiVersion
        kind := ← required "kind" d.kind
        metadata := ← required "metadata" d.metadata
        spec := ← required "spec" d.spec })

/-- Read the text of a manifest. -/
def ofText (hostname text : String) : Except ReadError Manifest :=
  readDocument (reader hostname) text

end TransferGateway.Manifest
