import TransferGateway.Proofs.Hook.Actions

/-!
# The gate before a command

Bypassing commands touch nothing, admission comes first, and only an admitted retrieval starts a
process or calls the store, as its policy asks for.  The answer says which of these happened, and an
admitted command does get what its policy asks for.
-/

namespace TransferGateway.Gateway

/-- A fact of a retrieval holds a marker. -/
def Marked (session : Session) (path : String) : Prop :=
  ∃ fact marker : Marker, marker.chars <:+: ((session.retrieval path).valueOf fact).toList

/-- The starts and the store calls that were made between two states, and what each of them and
the answer imply. -/
structure Effects (g : Gateway) (session : Session) (command : Command) (path : String)
    (answer : Option (Except HookError BeforeOutcome)) (after : Gateway)
    (launches : List CommandLine) (calls : List StoreCall) : Prop where
  launched : after.machine.launches = g.machine.launches ++ launches
  called : after.calls = g.calls ++ calls
  stored : calls = [] → after.store = g.store
  judged : ¬ Bypasses session command → after.admission = g.settled.admission
  launching : launches ≠ [] → g.Acts session command path .runCommand
  calling : calls ≠ [] → g.Acts session command path .handOff
  unmarked : launches ≠ [] ∨ calls ≠ [] → ¬ Marked session path
  proceeding : answer = some (.ok .proceed) → launches = [] ∧ calls = []
  ran : ∀ result, answer = some (.ok (.proceedAfterAction result)) →
    calls = [] ∧ (result.status = .ok ∨ result.status = .warning) ∧
      ∃ line commandLine, Template.expand (session.retrieval path)
          (g.registry.resolve session.policies .retrieve).template = some line ∧
        CommandLine.tokenize line = some commandLine ∧
        ∀ launch ∈ launches, launch = commandLine
  queued : ∀ descriptor, answer = some (.ok (.enqueued descriptor)) →
    launches = [] ∧ ∃ id, descriptor.id = some id ∧
      after.store.queue.find? id = some ⟨descriptor, .toSubmit⟩

/-- The answer of a gateway that ran a line. -/
def ranAnswer (line : String) (result? : Option RunResult) :
    Option (Except HookError BeforeOutcome) :=
  (result?.map (verdict line)).map (·.map .proceedAfterAction)

/-- An admitted command may go on as it is: it transfers nothing, its file comes in and is not
refused, or no policy asks for an action. -/
inductive Unasked (g : Gateway) (session : Session) : Command → Prop where
  | other {command : Command} (h : command.operation? = none) : Unasked g session command
  | received {operation : Operation} (h : operation ≠ .retrieve)
      (hpolicy : (g.registry.resolve session.policies .store).disposition ≠ .refuse) :
      Unasked g session (.transfer operation)
  | idle (h : (g.registry.resolve session.policies .retrieve).disposition = .nothing) :
      Unasked g session (.transfer .retrieve)

/-- An admitted command gets what its policy asks for: a refusal, the run of its expanded line, or
the hand-off of it.  Only a marker in the facts comes in between. -/
structure Serves (g : Gateway) (session : Session) (command : Command) (path : String)
    (outcome : Option (Except HookError BeforeOutcome) × Gateway) : Prop where
  unasked : g.Unasked session command → outcome = (some (.ok .proceed), g.settled)
  refused : ∀ operation, command = .transfer operation →
    (g.registry.resolve session.policies operation.direction).disposition = .refuse →
      outcome = (some (.error (.policyRefusal session.user operation.direction)), g.settled)
  marked : command = .transfer .retrieve →
    (g.registry.resolve session.policies .retrieve).disposition = .runCommand ∨
      (g.registry.resolve session.policies .retrieve).disposition = .handOff →
    Marked session path →
      ∃ field, Template.unsafeField? (session.retrieval path) = some field ∧
        outcome = (some (.error (.unsafeContext field)), g.settled)
  run : ∀ line, command = .transfer .retrieve →
    (g.registry.resolve session.policies .retrieve).disposition = .runCommand →
    ¬ Marked session path →
    Template.expand (session.retrieval path)
      (g.registry.resolve session.policies .retrieve).template = some line →
      let limit := (g.registry.resolve session.policies .retrieve).timeout
      outcome = (ranAnswer line (Executor.run g.retryDelay line limit g.settled.machine).1,
        g.settled.perform (some (.run line limit)))
  handedOff : ∀ line, command = .transfer .retrieve →
    (g.registry.resolve session.policies .retrieve).disposition = .handOff →
    ¬ Marked session path →
    Template.expand (session.retrieval path)
      (g.registry.resolve session.policies .retrieve).template = some line →
      outcome = (some ((answerOf (Handoff.prepare g.handoff line g.store)).map .enqueued),
        g.settled.perform (some (.handOff line)))

variable {g : Gateway} {session : Session} {command : Command} {path : String}

/-- The guard before an expansion finds a field if and only if a fact holds a marker. -/
theorem unsafeField?_eq_none_iff_not_marked :
    Template.unsafeField? (session.retrieval path) = none ↔ ¬ Marked session path := by
  simp only [Template.unsafeField?_eq_none_iff, Template.hasMarker_eq_false_iff, Marked,
    not_exists]

/-- An answer that comes without any action. -/
theorem effects_of_still {answer : Option (Except HookError BeforeOutcome)} {after : Gateway}
    (hlaunches : after.machine.launches = g.machine.launches) (hcalls : after.calls = g.calls)
    (hstore : after.store = g.store)
    (hadmission : ¬ Bypasses session command → after.admission = g.settled.admission)
    (hran : ∀ result, answer ≠ some (.ok (.proceedAfterAction result)))
    (hqueued : ∀ descriptor, answer ≠ some (.ok (.enqueued descriptor))) :
    g.Effects session command path answer after [] [] where
  launched := by rw [hlaunches, List.append_nil]
  called := by rw [hcalls, List.append_nil]
  stored := fun _ => hstore
  judged := hadmission
  launching := fun h => absurd rfl h
  calling := fun h => absurd rfl h
  unmarked := fun h => by simp at h
  proceeding := fun _ => ⟨rfl, rfl⟩
  ran := fun result h => absurd h (hran result)
  queued := fun descriptor h => absurd h (hqueued descriptor)

/-- A verdict that lets the command go on is the result of a run that succeeded. -/
theorem verdict_eq_ok {line : String} {result result' : RunResult}
    (h : verdict line result = .ok result') :
    result = result' ∧ (result'.status = .ok ∨ result'.status = .warning) := by
  unfold verdict at h
  cases hsuccess : result.isSuccess with
  | true =>
    simp only [hsuccess, if_true, Except.ok.injEq] at h
    subst h
    refine ⟨rfl, ?_⟩
    cases hstatus : result.status with
    | ok => exact .inl rfl
    | warning => exact .inr rfl
    | failed => simp [RunResult.isSuccess, hstatus] at hsuccess
  | false =>
    simp only [hsuccess] at h
    cases hcause : result.cause <;> simp [hcause] at h

/-- A gateway that ran a line lets the command go on only with the result of a run that
succeeded. -/
theorem ranAnswer_cases (line : String) (result? : Option RunResult) :
    ranAnswer line result? = none ∨ (∃ e, ranAnswer line result? = some (.error e)) ∨
      ∃ result, ranAnswer line result? = some (.ok (.proceedAfterAction result)) ∧
        (result.status = .ok ∨ result.status = .warning) := by
  cases result? with
  | none => exact .inl rfl
  | some result =>
    right
    simp only [ranAnswer, Option.map_some]
    cases hverdict : verdict line result with
    | error e => exact .inl ⟨e, rfl⟩
    | ok result' =>
      obtain ⟨rfl, hstatus⟩ := verdict_eq_ok hverdict
      exact .inr ⟨result, rfl, hstatus⟩

/-- The effects of running the command of a policy. -/
theorem effects_of_run (hacts : g.Acts session command path .runCommand)
    {verdict? : Option (Except HookError RunResult)} {after : Gateway}
    (hrun : g.settled.runAction (g.registry.resolve session.policies .retrieve)
      (session.retrieval path) = (verdict?, after)) :
    ∃ launches, g.Effects session command path (verdict?.map (·.map .proceedAfterAction)) after
      launches [] := by
  rcases g.settled.runAction_cases (g.registry.resolve session.policies .retrieve)
    (session.retrieval path) with hnone | ⟨line, result?, machine, hline, hexec, hsome⟩
  · rw [hnone] at hrun
    cases hrun
    exact ⟨[], effects_of_still rfl rfl rfl (fun _ => rfl) (by simp) (by simp)⟩
  · rw [hsome] at hrun
    cases hrun
    have hcases := ranAnswer_cases line result?
    have hrun := Executor.run_cases g.settled.retryDelay line
      (g.registry.resolve session.policies .retrieve).timeout g.settled.machine
    rw [hexec] at hrun
    rcases hrun with hempty | ⟨commandLine, n, htokens, hlaunches⟩
    · cases hempty
      refine ⟨[], effects_of_still rfl rfl rfl (fun _ => rfl) ?_ ?_⟩
      · intro result h
        simp [verdict, RunResult.isSuccess, RunResult.failed, Except.map] at h
      · intro descriptor h
        simp [verdict, RunResult.isSuccess, RunResult.failed, Except.map] at h
    · show ∃ launches, g.Effects session command path (ranAnswer line result?) _ launches []
      refine ⟨List.replicate n commandLine, ?_⟩
      constructor
      · exact hlaunches
      · exact (List.append_nil _).symm
      · exact fun _ => rfl
      · exact fun _ => rfl
      · exact fun _ => hacts
      · exact fun h => absurd rfl h
      · exact fun _ => unsafeField?_eq_none_iff_not_marked.1 hacts.safe
      · intro h
        rcases hcases with hanswer | ⟨e, hanswer⟩ | ⟨result, hanswer, -⟩ <;>
          simp [hanswer] at h
      · intro result h
        rcases hcases with hanswer | ⟨e, hanswer⟩ | ⟨result', hanswer, hstatus⟩
        · simp [hanswer] at h
        · simp [hanswer] at h
        · obtain rfl : result' = result := by simpa [hanswer] using h
          exact ⟨rfl, hstatus, line, commandLine, hline, htokens,
            fun launch hlaunch => List.eq_of_mem_replicate hlaunch⟩
      · intro descriptor h
        rcases hcases with hanswer | ⟨e, hanswer⟩ | ⟨result, hanswer, -⟩ <;>
          simp [hanswer] at h

/-- The effects of a hand-off. -/
theorem effects_of_handOff (hacts : g.Acts session command path .handOff)
    {result? : Option (Except HookError Descriptor)} {after : Gateway}
    (hhand : g.settled.handOff (g.registry.resolve session.policies .retrieve)
      (session.retrieval path) = (result?, after)) :
    ∃ calls, g.Effects session command path (result?.map (·.map .enqueued)) after [] calls := by
  rcases g.settled.handOff_cases (g.registry.resolve session.policies .retrieve)
    (session.retrieval path) with hnone | ⟨line, prepared, hline, hprepared, hsome⟩
  · rw [hnone] at hhand
    cases hhand
    exact ⟨[], effects_of_still rfl rfl rfl (fun _ => rfl) (by simp) (by simp)⟩
  · rw [hsome] at hhand
    cases hhand
    refine ⟨prepared.calls, ?_⟩
    constructor
    · exact (List.append_nil _).symm
    · rfl
    · intro hcalls
      cases hprepared with
      | unread e hparse => rfl
      | _ => simp at hcalls
    · exact fun _ => rfl
    · exact fun h => absurd rfl h
    · exact fun _ => hacts
    · exact fun _ => unsafeField?_eq_none_iff_not_marked.1 hacts.safe
    · intro h
      cases hresult : prepared.result <;>
        simp [hresult, answerOf, Except.map] at h
    · intro result h
      cases hresult : prepared.result <;>
        simp [hresult, answerOf, Except.map] at h
    · intro descriptor h
      cases hprepared with
      | queued request rule hparse hrule =>
        have hdescriptor : { g.settled.handoff.descriptor request rule g.settled.store.clock with
            id := some g.settled.store.queue.next } = descriptor := by
          simpa [answerOf, Except.map] using h
        refine ⟨rfl, g.settled.store.queue.next, ?_, ?_⟩
        · rw [← hdescriptor]
        · rw [← hdescriptor]
          exact Handoff.find?_queued g.settled.store.queue _
      | _ => simp [answerOf, Except.map] at h

/-! ## What an admitted command gets -/

theorem before_of_unasked (hthrottled : ¬ Bypasses session command) (hload : g.overloaded = false)
    (h : g.Unasked session command) :
    g.before session command path = (some (.ok .proceed), g.settled) := by
  rw [before_of_admitted path hthrottled hload]
  cases h with
  | other h => simp only [gate, h]
  | @received operation h hpolicy =>
    have hdirection : operation.direction = .store := Operation.direction_eq_store h
    have hrefusal : ¬ (g.registry.resolve session.policies .store).isRefusal = true := by
      simpa [Policy.isRefusal] using hpolicy
    simp only [gate, Command.operation?, hdirection]
    exact if_neg hrefusal
  | idle h =>
    rw [gate_retrieve path (by simp [h])]
    simp only [retrieveAction, h]

theorem before_of_refused {operation : Operation}
    (hthrottled : ¬ Bypasses session (.transfer operation)) (hload : g.overloaded = false)
    (h : (g.registry.resolve session.policies operation.direction).disposition = .refuse) :
    g.before session (.transfer operation) path =
      (some (.error (.policyRefusal session.user operation.direction)), g.settled) := by
  rw [before_of_admitted path hthrottled hload]
  have hrefusal : (g.registry.resolve session.policies operation.direction).isRefusal = true := by
    simp [Policy.isRefusal, h]
  exact if_pos hrefusal

theorem before_of_marked {field : String}
    (hthrottled : ¬ Bypasses session (.transfer .retrieve)) (hload : g.overloaded = false)
    (hasked : (g.registry.resolve session.policies .retrieve).disposition = .runCommand ∨
      (g.registry.resolve session.policies .retrieve).disposition = .handOff)
    (hfield : Template.unsafeField? (session.retrieval path) = some field) :
    g.before session (.transfer .retrieve) path =
      (some (.error (.unsafeContext field)), g.settled) := by
  have hrefuse : (g.registry.resolve session.policies .retrieve).disposition ≠ .refuse := by
    rcases hasked with hrun | hhandOff
    · simp [hrun]
    · simp [hhandOff]
  rw [before_of_admitted path hthrottled hload, gate_retrieve path hrefuse]
  rcases hasked with hrun | hhandOff
  · simp only [retrieveAction, hrun, context_retrieve, hfield]
  · simp only [retrieveAction, hhandOff, context_retrieve, hfield]

/-- A retrieval that runs a command gets the answer of a run of its expanded line. -/
theorem before_of_run {line : String} (hacts : g.Acts session command path .runCommand)
    (hline : Template.expand (session.retrieval path)
      (g.registry.resolve session.policies .retrieve).template = some line) :
    let limit := (g.registry.resolve session.policies .retrieve).timeout
    g.before session command path =
      (ranAnswer line (Executor.run g.retryDelay line limit g.settled.machine).1,
        g.settled.perform (some (.run line limit))) := by
  have hrefuse : (g.registry.resolve session.policies .retrieve).disposition ≠ .refuse := by
    simp [hacts.asked]
  rw [before_of_admitted path hacts.throttled hacts.admitted, hacts.retrieves,
    gate_retrieve path hrefuse]
  simp only [retrieveAction, hacts.asked, context_retrieve, hacts.safe, runAction, hline]
  rfl

theorem serves_before (hthrottled : ¬ Bypasses session command) (hload : g.overloaded = false) :
    g.Serves session command path (g.before session command path) := by
  constructor
  · exact before_of_unasked hthrottled hload
  · rintro operation rfl hrefuse
    exact before_of_refused hthrottled hload hrefuse
  · rintro rfl hasked hmarked
    cases hfield : Template.unsafeField? (session.retrieval path) with
    | none => exact absurd hmarked (unsafeField?_eq_none_iff_not_marked.1 hfield)
    | some field => exact ⟨field, rfl, before_of_marked hthrottled hload hasked hfield⟩
  · intro line hretrieves hasked hmarked hline
    have hsafe := unsafeField?_eq_none_iff_not_marked.2 hmarked
    exact before_of_run ⟨hthrottled, hload, hretrieves, hasked, hsafe⟩ hline
  · intro line hretrieves hasked hmarked hline
    have hsafe := unsafeField?_eq_none_iff_not_marked.2 hmarked
    exact before_of_handOff ⟨hthrottled, hload, hretrieves, hasked, hsafe⟩ hline

/-! ## The gate -/

/-- The starts and the store calls of every way out. -/
theorem effects_before (g : Gateway) (session : Session) (command : Command) (path : String) :
    ∃ launches calls, g.Effects session command path (g.before session command path).1
      (g.before session command path).2 launches calls := by
  have hpassage := passage g session command path
  generalize g.before session command path = outcome at hpassage
  cases hpassage with
  | bypassed h =>
    refine ⟨[], [], ?_⟩
    exact effects_of_still rfl rfl rfl (fun hnot => absurd h hnot) (by simp) (by simp)
  | rejected h hload =>
    refine ⟨[], [], ?_⟩
    exact effects_of_still rfl rfl rfl (fun _ => rfl) (by simp) (by simp)
  | refused h hload e =>
    refine ⟨[], [], ?_⟩
    exact effects_of_still rfl rfl rfl (fun _ => rfl) (by simp) (by simp)
  | unhindered h hload =>
    refine ⟨[], [], ?_⟩
    exact effects_of_still rfl rfl rfl (fun _ => rfl) (by simp) (by simp)
  | ran hacts hrun =>
    obtain ⟨launches, heffects⟩ := effects_of_run hacts hrun
    exact ⟨launches, [], heffects⟩
  | handedOff hacts hhand =>
    obtain ⟨calls, heffects⟩ := effects_of_handOff hacts hhand
    exact ⟨[], calls, heffects⟩

/-- The hook before a command is a gate: administrators and special commands pass without any
effect; otherwise admission decides first, and a rejection has no effect but its own; an admitted
command gets what its policy asks for; and only an admitted retrieval without markers in its facts
starts a process or calls the store. -/
theorem before_gates (g : Gateway) (session : Session) (command : Command) (path : String) :
    (Bypasses session command → g.before session command path = (some (.ok .proceed), g)) ∧
    (¬ Bypasses session command → g.overloaded = true →
      g.before session command path =
        (some (.error (.admissionRejected g.admission.limits.rounds)), g.settled)) ∧
    (¬ Bypasses session command → g.overloaded = false →
      g.Serves session command path (g.before session command path)) ∧
    ∃ launches calls, g.Effects session command path (g.before session command path).1
      (g.before session command path).2 launches calls :=
  ⟨before_of_bypasses path, before_of_overloaded path, serves_before,
    effects_before g session command path⟩

end TransferGateway.Gateway
