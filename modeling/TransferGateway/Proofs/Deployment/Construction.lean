import TransferGateway.Proofs.Deployment.Sessions

/-!
# Validation and construction

A manifest that keeps its store in memory can be put into operation exactly if it passes its check,
and it passes exactly if every part of it is in order, in whatever order its users come.  Nothing
that the check has accepted fails when the gateway is put together.
-/

namespace TransferGateway

namespace Manifest

variable {m : Manifest} {users : Table UserSettings}

/-- The same manifest with other users. -/
def withUsers (m : Manifest) (users : Table UserSettings) : Manifest :=
  { m with spec := { m.spec with users } }

/-- Whether all parts are in order does not depend on the order of the users. -/
theorem valid_withUsers_iff (horder : users.entries.Perm m.spec.users.entries) :
    (m.withUsers users).Valid ↔ m.Valid := by
  constructor
  · intro h
    exact ⟨h.apiVersion, h.kind, h.name, h.host, h.blockSize, h.cpuLimit, h.connection, h.execution,
      h.rules, fun entry hentry => h.users entry (horder.mem_iff.2 hentry)⟩
  · intro h
    exact ⟨h.apiVersion, h.kind, h.name, h.host, h.blockSize, h.cpuLimit, h.connection, h.execution,
      h.rules, fun entry hentry => h.users entry (horder.mem_iff.1 hentry)⟩

/-- Every user has policies, and they are those that the user's own specifications say. -/
structure Provides (m : Manifest) (table : Table PolicySet) : Prop where
  names : table.names.Perm m.spec.users.names
  own : ∀ name, table.find? name =
    (m.user? name).bind fun settings => (PolicySet.parse settings.specs).toOption

theorem provides_of_userPolicies {table : Table PolicySet} (h : m.userPolicies = .ok table) :
    m.Provides table := by
  constructor
  · exact .of_eq (Table.names_of_mapEntries (Table.mapEntries_of_mapValues h))
  · intro name
    rcases Table.find?_of_mapValues h name with
      ⟨hnone, hnone'⟩ | ⟨settings, own, hsettings, hparse, hown⟩
    · rw [hnone', user?, hnone]
      rfl
    · rw [hown, user?, hsettings]
      show some own = (PolicySet.parse settings.specs).toOption
      rw [hparse]
      rfl

/-- Users in another order have the same policies. -/
theorem Provides.of_withUsers {table : Table PolicySet} (h : (m.withUsers users).Provides table)
    (horder : users.entries.Perm m.spec.users.entries) : m.Provides table where
  names := h.names.trans (horder.map Prod.fst)
  own name := by
    have hsame : (m.withUsers users).user? name = m.user? name := Table.find?_of_perm horder name
    rw [h.own, hsame]

end Manifest

namespace Deployment

variable {m : Manifest} {outside : Outside}

/-- Nothing is put into operation that has not passed its check. -/
theorem validate_of_start {d : Deployment} (h : start outside m = .ok d) : m.validate = .ok () := by
  cases hvalidate : m.validate with
  | ok _ => rfl
  | error cause =>
    have hcheck : checkManifest m = .error (.invalid cause) := by
      rw [checkManifest, hvalidate]
    rw [start, hcheck] at h
    cases h

theorem exists_start_iff (outside : Outside) (hmemory : m.spec.storage = .inMemory) :
    (∃ d, start outside m = .ok d) ↔ m.validate = .ok () := by
  constructor
  · rintro ⟨d, hstart⟩
    exact validate_of_start hstart
  · intro hvalidate
    obtain ⟨d, hstart, -⟩ := exists_start outside hmemory (Manifest.validate_eq_ok_iff.1 hvalidate)
    exact ⟨d, hstart⟩

/-- Whatever the order of its users, a manifest passes its check exactly if all of its parts are in
order, and for the limit of the load this means a number between zero and one; without a database it
can be put into operation exactly if it passes; and then the policies for everybody can be read, and
those of the users, one set for every user, from the user's own specifications. -/
theorem construction_exact {m : Manifest} {users : Table UserSettings}
    (horder : users.entries.Perm m.spec.users.entries) (outside : Outside) :
    ((m.withUsers users).validate = .ok () ↔ m.Valid) ∧
    (Binary64.zero ≤ m.spec.admission.cpuLimit ∧ m.spec.admission.cpuLimit ≤ Binary64.one ↔
      m.spec.admission.cpuLimit.InUnit) ∧
    (m.spec.storage = .inMemory →
      ((∃ d, start outside (m.withUsers users) = .ok d) ↔ m.validate = .ok ())) ∧
    (m.validate = .ok () → ∃ set table, (m.withUsers users).policies = .ok set ∧
      (m.withUsers users).userPolicies = .ok table ∧ m.Provides table) := by
  have hvalidate : (m.withUsers users).validate = .ok () ↔ m.Valid :=
    Manifest.validate_eq_ok_iff.trans (Manifest.valid_withUsers_iff horder)
  refine ⟨hvalidate, Binary64.inUnit_iff.symm, fun hmemory => ?_, fun hpassed => ?_⟩
  · have hsame : (m.withUsers users).spec.storage = .inMemory := hmemory
    rw [exists_start_iff outside hsame, hvalidate, Manifest.validate_eq_ok_iff]
  · have hvalid : (m.withUsers users).Valid :=
      (Manifest.valid_withUsers_iff horder).2 (Manifest.validate_eq_ok_iff.1 hpassed)
    obtain ⟨set, hset⟩ := hvalid.execution
    obtain ⟨table, htable⟩ := exists_userPolicies hvalid
    exact ⟨set, table, hset, htable,
      (Manifest.provides_of_userPolicies htable).of_withUsers horder⟩

/-- A user who must not store. -/
def carol : String × UserSettings := ("carol", { specs.store := "REFUSED" })

/-- A user whose files are scanned before they are sent. -/
def dave : String × UserSettings := ("dave", { specs.retrieve := "EXECUTE scan #FILE#" })

/-- A gateway with these two users and a limit of the load. -/
def crewed (cpuLimit : Binary64) : Manifest where
  apiVersion := Manifest.expectedVersion
  kind := Manifest.expectedKind
  metadata := { name := "edge" }
  spec :=
    { host := { id := "edge" }
      admission := { cpuLimit }
      users := ⟨[carol, dave], by decide⟩ }

/-- The same users in the other order. -/
def swapped : Table UserSettings := ⟨[dave, carol], by decide⟩

/-- With its users in the other order the gateway runs and has the same policies; with a limit that
is not a number it neither passes nor runs. -/
theorem construction_exact_crewed :
    (crewed .one).validate = .ok () ∧
      (∃ d, start {} ((crewed .one).withUsers swapped) = .ok d) ∧
      (∃ table, ((crewed .one).withUsers swapped).userPolicies = .ok table ∧
        table.find? "carol" = some ⟨.refusal, .noAction⟩ ∧ table.find? "erin" = none) ∧
      ¬ (crewed .nan).Valid ∧
      ¬ ∃ d, start {} ((crewed .nan).withUsers swapped) = .ok d := by
  have hpassed : (crewed .one).validate = .ok () := rfl
  have horder : ∀ limit, swapped.entries.Perm (crewed limit).spec.users.entries := fun _ =>
    .swap carol dave []
  obtain ⟨-, -, hruns, hpolicies⟩ := construction_exact (horder .one) {}
  obtain ⟨-, hunit, hstops, -⟩ := construction_exact (horder .nan) {}
  obtain ⟨-, table, -, htable, hprovides⟩ := hpolicies hpassed
  have hinvalid : ¬ (crewed .nan).Valid := fun h => hunit.1 h.cpuLimit
  refine ⟨hpassed, (hruns rfl).2 hpassed, ⟨table, htable, ?_, ?_⟩, hinvalid, ?_⟩
  · rw [hprovides.own]
    rfl
  · rw [hprovides.own]
    rfl
  · rw [hstops rfl, Manifest.validate_eq_ok_iff]
    exact hinvalid

end Deployment

end TransferGateway
