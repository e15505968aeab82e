import TransferGateway.Hook.Gateway
import TransferGateway.Proofs.Execution.Course
import TransferGateway.Proofs.Handoff.Preparation

/-!
# How a command passes the gate

Everything that the hook before a command can do, as one case for each of its ways out.
-/

namespace TransferGateway

/-- The facts of a retrieval. -/
def Session.retrieval (session : Session) (path : String) : TransferContext :=
  ⟨session.user, session.account, session.baseDirectory, path, .retrieve⟩

namespace Gateway

/-- Whether admission turns the next command down. -/
def overloaded (g : Gateway) : Bool :=
  (g.admission.judge g.surroundings g.machine.now).overloaded

/-- The gateway after admission was decided: samples and clock have moved on. -/
def settled (g : Gateway) : Gateway :=
  let round := g.admission.judge g.surroundings g.machine.now
  { g with admission := round.controller, machine := { g.machine with now := round.now } }

/-- Whether a command passes without admission. -/
def Bypasses (session : Session) (command : Command) : Prop :=
  session.admin = true ∨ command.isSpecial = true

/-- A retrieval that was admitted, whose policy asks for the given action, and whose facts hold no
marker. -/
structure Acts (g : Gateway) (session : Session) (command : Command) (path : String)
    (disposition : Disposition) : Prop where
  throttled : ¬ Bypasses session command
  admitted : g.overloaded = false
  retrieves : command = .transfer .retrieve
  asked : (g.registry.resolve session.policies .retrieve).disposition = disposition
  safe : Template.unsafeField? (session.retrieval path) = none

/-- Why a command that was admitted is refused: its policy says so, or a fact of a retrieval that
has an action holds a marker. -/
inductive Refusal (g : Gateway) (session : Session) (path : String) :
    Command → HookError → Prop where
  | policy {operation : Operation}
      (h : (g.registry.resolve session.policies operation.direction).disposition = .refuse) :
      Refusal g session path (.transfer operation)
        (.policyRefusal session.user operation.direction)
  | marked {field : String}
      (hasked : (g.registry.resolve session.policies .retrieve).disposition = .runCommand ∨
        (g.registry.resolve session.policies .retrieve).disposition = .handOff)
      (hfield : Template.unsafeField? (session.retrieval path) = some field) :
      Refusal g session path (.transfer .retrieve) (.unsafeContext field)

/-- Everything that the hook before a command can do. -/
inductive Passage (g : Gateway) (session : Session) (command : Command) (path : String) :
    Option (Except HookError BeforeOutcome) × Gateway → Prop where
  | bypassed (h : Bypasses session command) :
      Passage g session command path (some (.ok .proceed), g)
  | rejected (h : ¬ Bypasses session command) (hload : g.overloaded = true) :
      Passage g session command path
        (some (.error (.admissionRejected g.admission.limits.rounds)), g.settled)
  | refused (h : ¬ Bypasses session command) (hload : g.overloaded = false) (e : HookError)
      (hrefusal : Refusal g session path command e) :
      Passage g session command path (some (.error e), g.settled)
  | unhindered (h : ¬ Bypasses session command) (hload : g.overloaded = false) :
      Passage g session command path (some (.ok .proceed), g.settled)
  | ran (h : g.Acts session command path .runCommand)
      {verdict? : Option (Except HookError RunResult)} {after : Gateway}
      (hrun : g.settled.runAction (g.registry.resolve session.policies .retrieve)
        (session.retrieval path) = (verdict?, after)) :
      Passage g session command path (verdict?.map (·.map .proceedAfterAction), after)
  | handedOff (h : g.Acts session command path .handOff)
      {result? : Option (Except HookError Descriptor)} {after : Gateway}
      (hhand : g.settled.handOff (g.registry.resolve session.policies .retrieve)
        (session.retrieval path) = (result?, after)) :
      Passage g session command path (result?.map (·.map .enqueued), after)

theorem context_retrieve (session : Session) (path : String) :
    context session path .retrieve =
      match Template.unsafeField? (session.retrieval path) with
      | some field => .error (.unsafeContext field)
      | none => .ok (session.retrieval path) := rfl

theorem gate_passage {g : Gateway} {session : Session} {command : Command} (path : String)
    (h : ¬ Bypasses session command) (hload : g.overloaded = false) :
    Passage g session command path (g.settled.gate session command path) := by
  unfold gate
  cases command with
  | special command => exact absurd (.inr rfl) h
  | other name => exact .unhindered h hload
  | transfer operation =>
    simp only [Command.operation?]
    split
    · next hrefuse => exact .refused h hload _ (.policy (eq_of_beq hrefuse))
    · cases operation with
      | store => exact .unhindered h hload
      | append => exact .unhindered h hload
      | storeUnique => exact .unhindered h hload
      | retrieve =>
        simp only [Operation.direction, retrieveAction, context_retrieve]
        have hregistry : g.settled.registry = g.registry := rfl
        rw [hregistry]
        cases hasked : (g.registry.resolve session.policies .retrieve).disposition with
        | refuse => exact .unhindered h hload
        | nothing => exact .unhindered h hload
        | runCommand =>
          cases hsafe : Template.unsafeField? (session.retrieval path) with
          | some field => exact .refused h hload _ (.marked (.inl hasked) hsafe)
          | none => exact .ran ⟨h, hload, rfl, hasked, hsafe⟩ rfl
        | handOff =>
          cases hsafe : Template.unsafeField? (session.retrieval path) with
          | some field => exact .refused h hload _ (.marked (.inr hasked) hsafe)
          | none => exact .handedOff ⟨h, hload, rfl, hasked, hsafe⟩ rfl

section

variable {g : Gateway} {session : Session} {command : Command}

theorem before_of_bypasses (path : String) (h : Bypasses session command) :
    g.before session command path = (some (.ok .proceed), g) :=
  if_pos (by simpa [Bypasses] using h)

theorem before_of_throttled (path : String) (h : ¬ Bypasses session command) :
    g.before session command path =
      match g.judge with
      | (.error e, settled) => (some (.error e), settled)
      | (.ok (), settled) => settled.gate session command path :=
  if_neg (by simpa [Bypasses] using h)

/-- A command that was not admitted is rejected. -/
theorem before_of_overloaded (path : String) (h : ¬ Bypasses session command)
    (hload : g.overloaded = true) :
    g.before session command path =
      (some (.error (.admissionRejected g.admission.limits.rounds)), g.settled) := by
  have hjudge : g.judge =
      (.error (.admissionRejected g.admission.limits.rounds), g.settled) := if_pos hload
  rw [before_of_throttled path h, hjudge]

/-- A command that was admitted gets the word of the policies. -/
theorem before_of_admitted (path : String) (h : ¬ Bypasses session command)
    (hload : g.overloaded = false) :
    g.before session command path = g.settled.gate session command path := by
  have hjudge : g.judge = (.ok (), g.settled) := if_neg (by simpa [overloaded] using hload)
  rw [before_of_throttled path h, hjudge]

/-- A retrieval that is not refused gets its action. -/
theorem gate_retrieve (path : String)
    (h : (g.registry.resolve session.policies .retrieve).disposition ≠ .refuse) :
    g.settled.gate session (.transfer .retrieve) path =
      g.settled.retrieveAction session path (g.registry.resolve session.policies .retrieve) := by
  have hrefusal : ¬ (g.registry.resolve session.policies .retrieve).isRefusal = true := by
    simpa [Policy.isRefusal] using h
  exact if_neg hrefusal

end

theorem passage (g : Gateway) (session : Session) (command : Command) (path : String) :
    Passage g session command path (g.before session command path) := by
  by_cases h : Bypasses session command
  · rw [before_of_bypasses path h]
    exact .bypassed h
  · cases hload : g.overloaded with
    | true =>
      rw [before_of_overloaded path h hload]
      exact .rejected h hload
    | false =>
      rw [before_of_admitted path h hload]
      exact gate_passage path h hload

/-! ## Actions -/

/-- The answer of a gateway to a prepared hand-off. -/
def answerOf (prepared : Handoff.Prepared) : Except HookError Descriptor :=
  match prepared.result with
  | .ok descriptor => .ok descriptor
  | .error cause => .error (.ofHandoff cause)

/-- What a hand-off of a gateway does: nothing, or what preparing the expanded line does. -/
theorem handOff_cases (g : Gateway) (policy : Policy) (ctx : TransferContext) :
    g.handOff policy ctx = (none, g) ∨
      ∃ line prepared, Template.expand ctx policy.template = some line ∧
        Handoff.Preparation g.handoff line g.store prepared ∧
        g.handOff policy ctx =
          (some (answerOf prepared),
            { g with store := prepared.store, calls := g.calls ++ prepared.calls }) := by
  unfold handOff
  cases hline : Template.expand ctx policy.template with
  | none => exact .inl rfl
  | some line =>
    exact .inr ⟨line, _, rfl, Handoff.preparation g.handoff line g.store, rfl⟩

/-- What running the command of a policy does: nothing, or a run of the expanded line. -/
theorem runAction_cases (g : Gateway) (policy : Policy) (ctx : TransferContext) :
    g.runAction policy ctx = (none, g) ∨
      ∃ line result? machine, Template.expand ctx policy.template = some line ∧
        Executor.run g.retryDelay line policy.timeout g.machine = (result?, machine) ∧
        g.runAction policy ctx = (result?.map (verdict line), { g with machine }) := by
  unfold runAction
  cases hline : Template.expand ctx policy.template with
  | none => exact .inl rfl
  | some line => exact .inr ⟨line, _, _, rfl, rfl, rfl⟩

/-- A retrieval that is handed off gets what preparing its expanded line does. -/
theorem before_of_handOff {g : Gateway} {session : Session} {command : Command}
    {path line : String} (hacts : g.Acts session command path .handOff)
    (hline : Template.expand (session.retrieval path)
      (g.registry.resolve session.policies .retrieve).template = some line) :
    g.before session command path =
      (some ((answerOf (Handoff.prepare g.handoff line g.store)).map .enqueued),
        { g.settled with
          store := (Handoff.prepare g.handoff line g.store).store
          calls := g.calls ++ (Handoff.prepare g.handoff line g.store).calls }) := by
  have hasked : (g.registry.resolve session.policies .retrieve).disposition ≠ .refuse := by
    simp [hacts.asked]
  rw [before_of_admitted path hacts.throttled hacts.admitted, hacts.retrieves,
    gate_retrieve path hasked]
  simp only [retrieveAction, hacts.asked, context_retrieve, hacts.safe, handOff, hline]
  rfl

/-- A retrieval whose line can be prepared is enqueued. -/
theorem before_eq_enqueued {g : Gateway} {session : Session} {command : Command}
    {path line : String} {descriptor : Descriptor} (hacts : g.Acts session command path .handOff)
    (hline : Template.expand (session.retrieval path)
      (g.registry.resolve session.policies .retrieve).template = some line)
    (hresult : (Handoff.prepare g.handoff line g.store).result = .ok descriptor) :
    (g.before session command path).1 = some (.ok (.enqueued descriptor)) := by
  rw [before_of_handOff hacts hline, answerOf, hresult]
  rfl

/-- Where an enqueued transfer comes from: the line of the policy was read, its rule found. -/
theorem before_enqueued {g : Gateway} {session : Session} {command : Command} {path : String}
    {descriptor : Descriptor}
    (h : (g.before session command path).1 = some (.ok (.enqueued descriptor))) :
    ∃ line request rule,
      Template.expand (session.retrieval path)
        (g.registry.resolve session.policies .retrieve).template = some line ∧
      Handoff.Request.parse line g.handoff.defaultBlockSize = .ok request ∧
      g.store.lookup request.rule = .ok (some rule) ∧
      descriptor =
        { g.handoff.descriptor request rule g.store.clock with
          id := some g.store.queue.next } := by
  have hpassage := passage g session command path
  generalize g.before session command path = outcome at h hpassage
  cases hpassage with
  | bypassed _ => simp at h
  | rejected _ _ => simp at h
  | refused _ _ e => simp at h
  | unhindered _ _ => simp at h
  | ran _ _ =>
    rename_i verdict? _ _
    cases verdict? with
    | none => simp at h
    | some verdict => cases verdict <;> simp [Except.map] at h
  | handedOff hacts hhand =>
    rcases g.settled.handOff_cases (g.registry.resolve session.policies .retrieve)
      (session.retrieval path) with hnone | ⟨line, prepared, hline, hprepared, hsome⟩
    · rw [hnone] at hhand
      cases hhand
      simp at h
    · rw [hsome] at hhand
      cases hhand
      cases hprepared with
      | queued request rule hparse hrule =>
        refine ⟨line, request, rule, hline, hparse, hrule, ?_⟩
        simpa [answerOf, Except.map, settled] using h.symm
      | _ => simp [answerOf, Except.map] at h

end Gateway

end TransferGateway
