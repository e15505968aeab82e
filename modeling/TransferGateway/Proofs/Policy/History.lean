import TransferGateway.Policy.Registry
import TransferGateway.Proofs.Policy.Specification

/-!
# Histories of the policy registry

At every point of a history the policies in force are those of the last `configure` that succeeded,
both directions of them, and every call is answered by them.
-/

namespace TransferGateway.PolicyRegistry

/-- The policies in force after a history: those that the last successful `configure` read, each of
them the one that the specification of its direction asks for, or the initial ones if none
succeeded. -/
inductive InForce (initial : PolicySet) :
    List (RegistryCall × RegistryAnswer) → PolicySet → Prop where
  | initial {history : List (RegistryCall × RegistryAnswer)}
      (hnone : ∀ specs, (.configure specs, .configured (.ok ())) ∉ history) :
      InForce initial history initial
  | last {earlier later : List (RegistryCall × RegistryAnswer)} {specs : PolicySpecs}
      {policies : PolicySet} (hread : PolicySet.parse specs = .ok policies)
      (hasks : ∀ direction, specs.Asks direction (.ok (policies.get direction)))
      (hlater : ∀ specs, (.configure specs, .configured (.ok ())) ∉ later) :
      InForce initial (earlier ++ (.configure specs, .configured (.ok ())) :: later) policies

/-- The right answer to a call while some policies are in force. -/
inductive Answers (global : PolicySet) : RegistryCall → RegistryAnswer → Prop where
  | configured {specs : PolicySpecs} {policies : PolicySet}
      (h : ∀ direction, specs.read direction = .ok (policies.get direction)) :
      Answers global (.configure specs) (.configured (.ok ()))
  | rejected {specs : PolicySpecs} {e : SpecificationError}
      (h : specs.read .store = .error e ∨
        (∃ store, specs.read .store = .ok store) ∧ specs.read .retrieve = .error e) :
      Answers global (.configure specs) (.configured (.error e))
  | global : Answers global .global (.global global)
  | own {policies : PolicySet} {direction : Direction}
      (h : (policies.get direction).disposition ≠ .nothing) :
      Answers global (.resolve (some policies) direction) (.resolved (policies.get direction))
  | general {own : Option PolicySet} {direction : Direction}
      (h : ∀ policies ∈ own, (policies.get direction).disposition = .nothing) :
      Answers global (.resolve own direction) (.resolved (global.get direction))
  | allowed {own : Option PolicySet} {direction : Direction} {policy : Policy} {holds : Bool}
      (h : Answers global (.resolve own direction) (.resolved policy))
      (hholds : holds = false ↔ policy.disposition = .refuse) :
      Answers global (.isAllowed own direction) (.allowed holds)

variable {initial : PolicySet} {registry : PolicyRegistry} {call : RegistryCall}
  {history : List (RegistryCall × RegistryAnswer)}

/-! ## One call -/

theorem answers_resolve (registry : PolicyRegistry) (own : Option PolicySet)
    (direction : Direction) :
    Answers registry.global (.resolve own direction)
      (.resolved (registry.resolve own direction)) := by
  cases own with
  | none => exact .general (by simp)
  | some policies =>
    by_cases h : (policies.get direction).disposition = .nothing
    · simp only [resolve, if_pos h]
      exact .general (by simpa using h)
    · simp only [resolve, if_neg h]
      exact .own h

/-- Every call is answered by the policies in force. -/
theorem answers_answer (registry : PolicyRegistry) (call : RegistryCall) :
    Answers registry.global call (registry.answer call).1 := by
  cases call with
  | configure specs =>
    simp only [answer, configure]
    cases hparse : PolicySet.parse specs with
    | error e => exact .rejected (PolicySet.parse_eq_error_iff.1 hparse)
    | ok policies => exact .configured (PolicySet.parse_eq_ok_iff.1 hparse)
  | global => exact .global
  | resolve own direction => exact answers_resolve registry own direction
  | isAllowed own direction =>
    refine .allowed (answers_resolve registry own direction) ?_
    simp [isAllowed, Policy.isRefusal]

/-- A call puts other policies in force by a `configure` that succeeds, or changes nothing. -/
theorem answer_cases (registry : PolicyRegistry) (call : RegistryCall) :
    (∃ specs policies, call = .configure specs ∧ PolicySet.parse specs = .ok policies ∧
        registry.answer call = (.configured (.ok ()), ⟨policies⟩)) ∨
      (∀ specs, (call, (registry.answer call).1) ≠ (.configure specs, .configured (.ok ()))) ∧
        (registry.answer call).2 = registry := by
  cases call with
  | configure specs =>
    simp only [answer, configure]
    cases hparse : PolicySet.parse specs with
    | error e => exact .inr ⟨by simp, rfl⟩
    | ok policies => exact .inl ⟨specs, policies, rfl, hparse, rfl⟩
  | global => exact .inr ⟨by simp, rfl⟩
  | resolve own direction => exact .inr ⟨by simp, rfl⟩
  | isAllowed own direction => exact .inr ⟨by simp, rfl⟩

/-- A specification that cannot be read leaves the registry as it was. -/
theorem answer_configure_of_error {specs : PolicySpecs} {direction : Direction}
    {e : SpecificationError} (h : specs.read direction = .error e) :
    (registry.answer (.configure specs)).2 = registry := by
  rcases registry.answer_cases (.configure specs) with ⟨_, policies, hcall, hparse, -⟩ | ⟨-, hsame⟩
  · cases hcall
    rw [PolicySet.parse_eq_ok_iff.1 hparse direction] at h
    contradiction
  · exact hsame

/-! ## Histories -/

theorem InForce.answer (h : InForce initial history registry.global) :
    InForce initial (history ++ [(call, (registry.answer call).1)])
      (registry.answer call).2.global := by
  rcases registry.answer_cases call with ⟨specs, policies, rfl, hparse, hanswer⟩ | ⟨hother, hsame⟩
  · rw [hanswer]
    have hasks (direction : Direction) : specs.Asks direction (.ok (policies.get direction)) :=
      PolicySpecs.read_eq_iff.1 (PolicySet.parse_eq_ok_iff.1 hparse direction)
    exact .last hparse hasks (by simp)
  · rw [hsame]
    have hkeep : ∀ entries : List (RegistryCall × RegistryAnswer),
        (∀ specs, (.configure specs, .configured (.ok ())) ∉ entries) →
          ∀ specs, (.configure specs, .configured (.ok ())) ∉
            entries ++ [(call, (registry.answer call).1)] := by
      intro entries hentries specs hmem
      rcases List.mem_append.1 hmem with hmem | hmem
      · exact hentries specs hmem
      · exact hother specs (List.mem_singleton.1 hmem).symm
    generalize registry.global = policies at h
    cases h with
    | initial hnone => exact .initial (hkeep _ hnone)
    | last hread hasks hlater =>
      rw [List.append_assoc, List.cons_append]
      exact .last hread hasks (hkeep _ hlater)

theorem run_append (registry : PolicyRegistry) (earlier later : List RegistryCall) :
    registry.run (earlier ++ later) =
      ((registry.run earlier).1 ++ ((registry.run earlier).2.run later).1,
        ((registry.run earlier).2.run later).2) := by
  induction earlier generalizing registry with
  | nil => rfl
  | cons call rest ih => simp [run, ih]

/-- After every history the policies in force are those that it says. -/
theorem inForce_run (initial : PolicySet) (calls : List RegistryCall) :
    InForce initial ((run ⟨initial⟩ calls).1) (run ⟨initial⟩ calls).2.global := by
  induction calls using List.reverseRecOn with
  | nil => exact .initial (by simp [run])
  | append_singleton calls call ih =>
    rw [run_append]
    exact ih.answer

/-- At every point of a history, the policies in force are those of the last `configure` that
succeeded; the call made there is answered by them; and a `configure` one of whose specifications
cannot be read changes neither policy. -/
theorem history_exact (initial : PolicySet) (before : List RegistryCall) (call : RegistryCall)
    (after : List RegistryCall) :
    let past := run ⟨initial⟩ before
    InForce initial past.1 past.2.global ∧
    (∃ answer later, (run ⟨initial⟩ (before ++ call :: after)).1 = past.1 ++ (call, answer) :: later ∧
      Answers past.2.global call answer) ∧
    ∀ specs direction e, call = .configure specs → specs.read direction = .error e →
      (run ⟨initial⟩ (before ++ [call])).2 = past.2 := by
  intro past
  refine ⟨inForce_run initial before, ?_, ?_⟩
  · refine ⟨(past.2.answer call).1, ((past.2.answer call).2.run after).1, ?_, ?_⟩
    · rw [run_append]
      rfl
    · exact answers_answer past.2 call
  · rintro specs direction e rfl hread
    rw [run_append]
    exact answer_configure_of_error hread

end TransferGateway.PolicyRegistry
