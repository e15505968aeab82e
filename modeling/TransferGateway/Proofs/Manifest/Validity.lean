import TransferGateway.Manifest.Basic

/-!
# Valid manifests

A manifest passes its check exactly if every part of it is in order.
-/

namespace TransferGateway.Manifest

/-- A manifest all of whose parts are in order. -/
structure Valid (m : Manifest) : Prop where
  apiVersion : m.apiVersion = expectedVersion
  kind : m.kind = expectedKind
  name : m.metadata.name ≠ ""
  host : m.spec.host.id ≠ ""
  blockSize : Handoff.minBlockSize ≤ m.spec.host.defaultBlockSize
  cpuLimit : Binary64.zero ≤ m.spec.admission.cpuLimit ∧ m.spec.admission.cpuLimit ≤ Binary64.one
  connection : ∀ connection n, m.spec.storage = .database connection n → connection ≠ ""
  execution : ∃ policies, m.policies = .ok policies
  rules : ∀ rule ∈ m.spec.rules, rule.name ≠ ""
  users : ∀ entry ∈ m.spec.users.entries,
    entry.1 ≠ "" ∧ ∃ policies, PolicySet.parse entry.2.specs = .ok policies

theorem require_bind_eq_ok_iff {holds : Bool} {otherwise : ManifestError}
    {next : Unit → Except ManifestError Unit} :
    (require holds otherwise >>= next) = .ok () ↔ holds = true ∧ next () = .ok () := by
  cases holds with
  | false => simp [require, bind, Except.bind]
  | true => simp [require, bind, Except.bind]

theorem connectionGiven_iff {storage : Storage} :
    connectionGiven storage = true ↔
      ∀ connection n, storage = .database connection n → connection ≠ "" := by
  cases storage with
  | inMemory => simp [connectionGiven]
  | database connection n => simp [connectionGiven]

theorem validateUsers_eq_ok_iff {entries : List (String × UserSettings)} :
    validateUsers entries = .ok () ↔ ∀ entry ∈ entries,
      entry.1 ≠ "" ∧ ∃ policies, PolicySet.parse entry.2.specs = .ok policies := by
  induction entries with
  | nil => simp [validateUsers]
  | cons entry rest ih =>
    obtain ⟨name, user⟩ := entry
    rw [validateUsers, require_bind_eq_ok_iff, List.forall_mem_cons]
    cases hparse : PolicySet.parse user.specs with
    | error e => simp
    | ok policies => simp [ih]

/-- A manifest passes its check exactly when all of its parts are in order. -/
theorem validate_eq_ok_iff {m : Manifest} : m.validate = .ok () ↔ m.Valid := by
  unfold validate
  simp only [require_bind_eq_ok_iff, connectionGiven_iff, beq_iff_eq, Bool.and_eq_true,
    decide_eq_true_eq, Bool.not_eq_true', String.isEmpty_eq_false_iff]
  cases hpolicies : m.policies with
  | error e =>
    constructor
    · rintro ⟨-, -, -, -, -, -, -, hfault⟩
      cases hfault
    · intro h
      obtain ⟨policies, hexecution⟩ := h.execution
      rw [hpolicies] at hexecution
      contradiction
  | ok policies =>
    simp only [require_bind_eq_ok_iff, validateUsers_eq_ok_iff, List.all_eq_true,
      Bool.not_eq_true', String.isEmpty_eq_false_iff]
    constructor
    · rintro ⟨hapiVersion, hkind, hname, hhost, hblockSize, hcpuLimit, hconnection, hrules, husers⟩
      exact ⟨hapiVersion, hkind, hname, hhost, hblockSize, hcpuLimit, hconnection,
        ⟨policies, hpolicies⟩, hrules, husers⟩
    · rintro ⟨hapiVersion, hkind, hname, hhost, hblockSize, hcpuLimit, hconnection, -, hrules,
        husers⟩
      exact ⟨hapiVersion, hkind, hname, hhost, hblockSize, hcpuLimit, hconnection, hrules, husers⟩

end TransferGateway.Manifest
