import TransferGateway.Deployment
import TransferGateway.Proofs.Manifest.Validity
import TransferGateway.Proofs.Policy.Specification

/-!
# The sessions of a deployment

A valid manifest that keeps its store in memory can be put into operation.  From then on it alone
decides every user's policies: those that the user's own entry asks for, and those for everybody
where it asks for nothing.
-/

namespace TransferGateway

namespace Manifest

/-- The policy that a manifest decides on for a user and a direction. -/
inductive Decides (m : Manifest) (user : String) (direction : Direction) : Policy → Prop where
  | own {settings : UserSettings} {policy : Policy} (huser : m.user? user = some settings)
      (hread : settings.specs.read direction = .ok policy)
      (hasks : policy.disposition ≠ .nothing) : Decides m user direction policy
  /-- The user has no entry, or one that asks for nothing. -/
  | general {policy : Policy}
      (hdefers : ∀ settings, m.user? user = some settings →
        ∃ own, settings.specs.read direction = .ok own ∧ own.disposition = .nothing)
      (hread : m.spec.execution.specs.read direction = .ok policy) :
      Decides m user direction policy

/-- What a manifest says about the session of a user. -/
structure Describes (m : Manifest) (user : String) (session : Session) : Prop where
  named : session.user = user
  admin : session.admin = true ↔ ∃ settings, m.user? user = some settings ∧ settings.admin = true
  account : ∀ settings account, m.user? user = some settings → settings.account = some account →
    session.account = account
  noAccount : (∀ settings, m.user? user = some settings → settings.account = none) →
    session.account = user

variable {m m' : Manifest} {user : String} {direction : Direction} {p q : Policy}

theorem Decides.unique (h : m.Decides user direction p) (h' : m.Decides user direction q) :
    p = q := by
  cases h with
  | own huser hread hasks =>
    cases h' with
    | own huser' hread' _ =>
      rw [huser] at huser'
      cases huser'
      rw [hread] at hread'
      exact Except.ok.inj hread'
    | general hdefers _ =>
      obtain ⟨own, hown, hnothing⟩ := hdefers _ huser
      rw [hread] at hown
      cases hown
      exact absurd hnothing hasks
  | general hdefers hread =>
    cases h' with
    | own huser' hread' hasks =>
      obtain ⟨own, hown, hnothing⟩ := hdefers _ huser'
      rw [hread'] at hown
      cases hown
      exact absurd hnothing hasks
    | general _ hread' =>
      rw [hread] at hread'
      exact Except.ok.inj hread'

/-- What decides is the user's entry and the specification for everybody of the same direction. -/
theorem Decides.congr (h : m.Decides user direction p)
    (hspecs : m.spec.execution.specs.get direction = m'.spec.execution.specs.get direction)
    (huser : m.user? user = m'.user? user) : m'.Decides user direction p := by
  cases h with
  | own hsettings hread hasks => exact .own (huser ▸ hsettings) hread hasks
  | general hdefers hread =>
    refine .general (huser ▸ hdefers) ?_
    rw [PolicySpecs.read] at hread ⊢
    rwa [← hspecs]

end Manifest

namespace Deployment

/-- A deployment goes by the manifest and by the policies in it. -/
structure Runs (m : Manifest) (d : Deployment) : Prop where
  manifest : d.manifest = m
  policies : m.policies = .ok d.gateway.registry.global
  userPolicies : m.userPolicies = .ok d.userPolicies

variable {m : Manifest} {d : Deployment}

theorem exists_userPolicies (h : m.Valid) : ∃ table, m.userPolicies = .ok table :=
  Table.exists_mapValues_eq_ok fun entry hentry => (h.users entry hentry).2

/-- A valid manifest without a database can be put into operation. -/
theorem exists_start (outside : Outside) (hmemory : m.spec.storage = .inMemory) (h : m.Valid) :
    ∃ d, start outside m = .ok d ∧ Runs m d := by
  obtain ⟨set, hpolicies⟩ := h.execution
  obtain ⟨table, htable⟩ := exists_userPolicies h
  have hcheck : checkManifest m = .ok () := by
    rw [checkManifest, Manifest.validate_eq_ok_iff.2 h]
  have hset : policies m = .ok set := by
    rw [policies, hpolicies]
  have husers : policiesOfUsers m = .ok table := by
    rw [policiesOfUsers, htable]
  unfold start
  rw [hcheck, hset, husers, hmemory]
  exact ⟨_, rfl, rfl, hpolicies, htable⟩

/-- Every session goes by the policies that the manifest decides on for its user. -/
theorem Runs.decides (h : Runs m d) (user base : String) (direction : Direction) :
    m.Decides user direction (d.resolve (d.session user base) direction) := by
  have hgeneral : m.spec.execution.specs.read direction =
      .ok (d.gateway.registry.global.get direction) := PolicySet.parse_eq_ok_iff.1 h.policies direction
  unfold resolve session PolicyRegistry.resolve
  rcases Table.find?_of_mapValues h.userPolicies user with
    ⟨hnone, hnone'⟩ | ⟨settings, own, hsettings, hparse, hown⟩
  · simp only [hnone']
    refine .general ?_ hgeneral
    intro settings hsettings
    rw [Manifest.user?, hnone] at hsettings
    contradiction
  · have hread := PolicySet.parse_eq_ok_iff.1 hparse direction
    simp only [hown]
    split
    · rename_i hnothing
      refine .general ?_ hgeneral
      intro other hother
      rw [Manifest.user?, hsettings] at hother
      cases hother
      exact ⟨own.get direction, hread, hnothing⟩
    · rename_i hasks
      exact .own hsettings hread hasks

theorem Runs.describes (h : Runs m d) (user base : String) :
    m.Describes user (d.session user base) := by
  unfold session
  rw [h.manifest]
  cases huser : m.user? user with
  | none => constructor <;> simp [huser]
  | some settings => constructor <;> simp +contextual [huser]

/-- A valid manifest without a database runs, and decides every user's policies and session; two
of them that agree on the specification for everybody of a direction and on the entry of a user
decide alike on that user in that direction. -/
theorem manifest_decides {m : Manifest} (hmemory : m.spec.storage = .inMemory)
    (hvalid : m.validate = .ok ()) (outside : Outside) :
    ∃ d, start outside m = .ok d ∧
      (∀ user base direction,
        m.Decides user direction (d.resolve (d.session user base) direction) ∧
          m.Describes user (d.session user base)) ∧
      ∀ (m' : Manifest) (outside' : Outside), m'.spec.storage = .inMemory →
        m'.validate = .ok () → ∃ d', start outside' m' = .ok d' ∧
          ∀ user base base' direction,
            m.spec.execution.specs.get direction = m'.spec.execution.specs.get direction →
            m.user? user = m'.user? user →
            d.resolve (d.session user base) direction =
              d'.resolve (d'.session user base') direction := by
  obtain ⟨d, hstart, hruns⟩ := exists_start outside hmemory (Manifest.validate_eq_ok_iff.1 hvalid)
  refine ⟨d, hstart, fun user base direction => ?_, fun m' outside' hmemory' hvalid' => ?_⟩
  · exact ⟨hruns.decides user base direction, hruns.describes user base⟩
  · obtain ⟨d', hstart', hruns'⟩ :=
      exists_start outside' hmemory' (Manifest.validate_eq_ok_iff.1 hvalid')
    refine ⟨d', hstart', fun user base base' direction hspecs huser => ?_⟩
    have hdecides := (hruns.decides user base direction).congr hspecs huser
    exact hdecides.unique (hruns'.decides user base' direction)

/-- A manifest under which stored files are scanned, but carol must not store at all. -/
def scanning (retrieve : String) : Manifest where
  apiVersion := Manifest.expectedVersion
  kind := Manifest.expectedKind
  metadata := { name := "edge" }
  spec :=
    { host := { id := "edge" }
      execution := { specs := { store := "EXECUTE scan #FILE#", retrieve } }
      users := Table.empty.insert "carol" { account := some "finance", specs.store := "REFUSED" } }

/-- Carol is refused, everybody else is scanned, whatever is said about retrieving. -/
theorem scanning_decides :
    (scanning "NONE").validate = .ok () ∧ (scanning "REFUSED").validate = .ok () ∧
      ∃ d, start {} (scanning "NONE") = .ok d ∧
        d.resolve (d.session "carol" "/srv") .store = .refusal ∧
        (d.session "carol" "/srv").account = "finance" ∧
        d.resolve (d.session "dave" "/srv") .store = ⟨.runCommand, "scan #FILE#", .zero⟩ ∧
        ∃ d', start {} (scanning "REFUSED") = .ok d' ∧
          d.resolve (d.session "dave" "/srv") .store =
            d'.resolve (d'.session "dave" "/") .store := by
  obtain ⟨d, hstart, hdecides, hagree⟩ := manifest_decides (m := scanning "NONE") rfl rfl {}
  obtain ⟨d', hstart', halike⟩ := hagree (scanning "REFUSED") {} rfl rfl
  refine ⟨rfl, rfl, d, hstart, ?_, ?_, ?_, d', hstart', halike "dave" "/srv" "/" .store rfl rfl⟩
  · exact (hdecides "carol" "/srv" .store).1.unique (.own rfl rfl (by decide))
  · exact (hdecides "carol" "/srv" .store).2.account _ _ rfl rfl
  · refine (hdecides "dave" "/srv" .store).1.unique (.general ?_ rfl)
    intro settings hsettings
    contradiction

end Deployment

end TransferGateway
