import TransferGateway.Proofs.Execution.Account
import TransferGateway.Proofs.Hook.Actions

/-!
# What the hook after a transfer does

Everything that the hook after a transfer can answer, as one case for each of its ways out, with
what it has done by then.  It never asks admission, and it answers unless a command that it runs
without a time limit never ends.
-/

namespace TransferGateway

/-- A transfer that a session reports as finished. -/
structure Transfer where
  session : Session
  operation : Operation
  path : String
  succeeded : Bool
deriving DecidableEq, Repr

/-- The facts of a transfer. -/
def Transfer.facts (t : Transfer) : TransferContext :=
  ⟨t.session.user, t.session.account, t.session.baseDirectory, t.path, t.operation⟩

namespace Executor

variable {retryDelay limit : Duration} {line : String} {m : Machine}

/-- A run never returns if it has no time limit and its process never ends. -/
structure Endless (retryDelay : Duration) (line : String) (limit : Duration) (m : Machine) :
    Prop where
  unlimited : limit = .zero
  hangs : ∃ command outcomes begun process, CommandLine.tokenize line = some command ∧
    Attempts retryDelay command m outcomes begun ∧
    outcomes.getLast? = some (.starts process) ∧ process.ending = .hangs

theorem run_eq_none_iff : (run retryDelay line limit m).1 = none ↔
    Endless retryDelay line limit m := by
  cases htokens : CommandLine.tokenize line with
  | none =>
    rw [run_of_no_word htokens]
    refine ⟨nofun, fun ⟨_, _, _, _, _, hsome, _⟩ => ?_⟩
    cases htokens.symm.trans hsome
  | some command =>
    have hcourse := run_course htokens retryDelay limit m
    generalize run retryDelay line limit m = answer at hcourse
    cases hcourse with
    | endless hattempts hlast hlimit hhangs _ _ =>
      exact ⟨fun _ => ⟨hlimit, _, _, _, _, htokens, hattempts, hlast, hhangs⟩, fun _ => rfl⟩
    | ended hfinds _ _ _ =>
      refine ⟨nofun, ?_⟩
      rintro ⟨hlimit, _, _, _, process, hsome, hattempts, hlast, hhangs⟩
      obtain rfl := Option.some.inj (htokens.symm.trans hsome)
      obtain ⟨rfl, rfl⟩ := hfinds.attempts.unique hattempts
      cases hfinds with
      | unstarted _ hlast' => cases hlast.symm.trans hlast'
      | awaited _ hlast' hawaited =>
        cases hlast.symm.trans hlast'
        cases hawaited with
        | exited hending => cases hhangs.symm.trans hending
        | unwaited hending => cases hhangs.symm.trans hending
        | overdue hlimited _ => exact absurd hlimit hlimited

end Executor

namespace Gateway

variable {g : Gateway} {t : Transfer} {answer : Option AfterOutcome} {after : Gateway}
  {outcome : AfterOutcome} {line : String} {result : RunResult}

/-- The policy of a file that was stored. -/
def storePolicy (g : Gateway) (t : Transfer) : Policy :=
  g.registry.resolve t.session.policies .store

/-- Why there is no action after a transfer although it succeeded. -/
inductive Idle (g : Gateway) (t : Transfer) : Prop where
  | admin (h : t.session.admin = true)
  | retrieves (h : t.operation = .retrieve)
  | refused (h : (g.storePolicy t).disposition = .refuse)
  | unasked (h : (g.storePolicy t).disposition = .nothing)

/-- A transfer that succeeded and whose policy asks for an action. -/
structure Asks (g : Gateway) (t : Transfer) (disposition : Disposition) : Prop where
  merits : g.Merits t.session t.operation t.succeeded
  asked : (g.storePolicy t).disposition = disposition
  acts : disposition = .runCommand ∨ disposition = .handOff

/-- Such a transfer without a marker in its facts, and what its template is expanded to. -/
structure Due (g : Gateway) (t : Transfer) (disposition : Disposition) (line? : Option String) :
    Prop extends g.Asks t disposition where
  safe : Template.unsafeField? t.facts = none
  line : Template.expand t.facts (g.storePolicy t).template = line?

/-- What is answered on the result of a run: a failure is an anomaly of its cause's category. -/
inductive Reported (result : RunResult) : AfterOutcome → Prop where
  | succeeded (h : result.status = .ok ∨ result.status = .warning) :
      Reported result (.actionSucceeded result)
  | unstarted {cause : RunError} (h : result.status = .failed) (hcause : result.cause = some cause)
      (hcategory : cause = .emptyCommand ∨
        ∃ program attempts source, cause = .spawn program attempts source) :
      Reported result (.completedWithAnomaly (.spawn cause))
  | overdue {cause : RunError} (h : result.status = .failed) (hcause : result.cause = some cause)
      (hcategory : ∃ program limit, cause = .timeout program limit) :
      Reported result (.completedWithAnomaly (.timeout cause))
  | ended {cause : RunError} (h : result.status = .failed) (hcause : result.cause = some cause)
      (hcategory : (∃ program code, cause = .exit program code) ∨
        ∃ program source, cause = .wait program source) :
      Reported result (.completedWithAnomaly (.exit cause))

/-- Everything that the hook after a transfer can answer, with the gateway after it. -/
inductive Aftermath (g : Gateway) (t : Transfer) : Option AfterOutcome → Gateway → Prop where
  | skipped (h : t.succeeded = false) : Aftermath g t (some .skipped) g
  | completed (h : t.succeeded = true) (hidle : g.Idle t) : Aftermath g t (some .completed) g
  | marked {disposition : Disposition} {field : String} (h : g.Asks t disposition)
      (hfield : Template.unsafeField? t.facts = some field) :
      Aftermath g t (some (.completedWithAnomaly (.unsafeContext field))) g
  | unavailable {line? : Option String} {source : SystemError} (h : g.Due t .runCommand line?)
      (hfile : g.machine.files.Lacks t.facts.localPath source) :
      Aftermath g t
        (some (.completedWithAnomaly (.fileUnavailable t.facts.localPath source))) g
  | ran {line : String} {result : RunResult} {outcome : AfterOutcome}
      (h : g.Due t .runCommand (some line)) (hfile : g.machine.files.HasFile t.facts.localPath)
      (hrun : (Executor.run g.retryDelay line (g.storePolicy t).timeout g.machine).1 = some result)
      (hreported : Reported result outcome) :
      Aftermath g t (some outcome) (g.perform (some (.run line (g.storePolicy t).timeout)))
  | endless {line : String}
      (h : g.Due t .runCommand (some line)) (hfile : g.machine.files.HasFile t.facts.localPath)
      (hrun : Executor.Endless g.retryDelay line (g.storePolicy t).timeout g.machine) :
      Aftermath g t none (g.perform (some (.run line (g.storePolicy t).timeout)))
  | enqueued {line : String} {descriptor : Descriptor} {id : Int}
      (h : g.Due t .handOff (some line))
      (hresult : (Handoff.prepare g.handoff line g.store).result = .ok descriptor)
      (hid : descriptor.id = some id)
      (hrow : (Handoff.prepare g.handoff line g.store).store.queue.find? id =
        some ⟨descriptor, .toSubmit⟩) :
      Aftermath g t (some (.enqueued descriptor)) (g.perform (some (.handOff line)))
  -- A line that cannot be read is never brought before the store.
  | unread {line : String} {cause : HandoffError} (h : g.Due t .handOff (some line))
      (hresult : (Handoff.prepare g.handoff line g.store).result = .error cause)
      (hparse : cause.isParseError = true) :
      Aftermath g t (some (.completedWithAnomaly (.handoffParse cause))) g
  | unqueued {line : String} {cause : HandoffError} (h : g.Due t .handOff (some line))
      (hresult : (Handoff.prepare g.handoff line g.store).result = .error cause)
      (hparse : cause.isParseError = false) :
      Aftermath g t (some (.completedWithAnomaly (.handoffPersistence cause)))
        (g.perform (some (.handOff line)))
  | unexpanded {disposition : Disposition} (h : g.Due t disposition none)
      (hfile : disposition = .runCommand → g.machine.files.HasFile t.facts.localPath) :
      Aftermath g t none g

/-! ## What is answered on an action -/

/-- The answer on the result of a run. -/
def report (line : String) (result : RunResult) : AfterOutcome :=
  asOutcome ((verdict line result).map .actionSucceeded)

theorem report_of_success (h : result.status = .ok ∨ result.status = .warning) :
    report line result = .actionSucceeded result := by
  have hsuccess : result.isSuccess = true := by
    rcases h with h | h <;> simp [RunResult.isSuccess, h]
  rw [report, verdict, if_pos hsuccess]
  rfl

theorem report_of_cause {cause : RunError} (hfailed : result.status = .failed)
    (hcause : result.cause = some cause) :
    report line result = .completedWithAnomaly (.ofRun cause) := by
  rw [report, Executor.verdict_of_cause line hfailed hcause]
  rfl

theorem Reported.report_eq (h : Reported result outcome) : report line result = outcome := by
  cases h with
  | succeeded h => exact report_of_success h
  | unstarted h hcause hcategory =>
    rw [report_of_cause h hcause]
    rcases hcategory with rfl | ⟨_, _, _, rfl⟩ <;> rfl
  | overdue h hcause hcategory =>
    rw [report_of_cause h hcause]
    obtain ⟨_, _, rfl⟩ := hcategory
    rfl
  | ended h hcause hcategory =>
    rw [report_of_cause h hcause]
    rcases hcategory with ⟨_, _, rfl⟩ | ⟨_, _, rfl⟩ <;> rfl

/-- The answer on a prepared hand-off. -/
def submission (prepared : Handoff.Prepared) : AfterOutcome :=
  asOutcome ((answerOf prepared).map .enqueued)

/-! ## The ways out -/

theorem context_eq (t : Transfer) :
    context t.session t.path t.operation =
      match Template.unsafeField? t.facts with
      | some field => .error (.unsafeContext field)
      | none => .ok t.facts := rfl

theorem after_of_idle (hsucceeded : t.succeeded = true) (h : g.Idle t) :
    g.after t.session t.operation t.path t.succeeded = (some .completed, g) := by
  unfold Gateway.after
  rw [hsucceeded]
  split
  · contradiction
  split
  · rfl
  next hpassed =>
    have hordinary : t.session.admin = false ∧ t.operation.direction ≠ .retrieve := by
      simpa using hpassed
    cases h with
    | admin hadmin => cases hadmin.symm.trans hordinary.1
    | retrieves hretrieves =>
      rw [hretrieves] at hordinary
      exact absurd rfl hordinary.2
    | refused hdisposition =>
      unfold storePolicy at hdisposition
      simp [storeAction, hdisposition, asOutcome]
    | unasked hdisposition =>
      unfold storePolicy at hdisposition
      simp [storeAction, hdisposition, asOutcome]

/-- A transfer that asks for an action gets the answer of its action. -/
theorem Asks.after_eq {disposition : Disposition} (h : g.Asks t disposition) :
    g.after t.session t.operation t.path t.succeeded =
      ((g.storeAction t.session t.operation t.path (g.storePolicy t)).1.map asOutcome,
        (g.storeAction t.session t.operation t.path (g.storePolicy t)).2) := by
  have hdirection := Operation.direction_eq_store h.merits.stores
  unfold Gateway.after
  simp [h.merits.success, h.merits.ordinary, hdirection, storePolicy]

theorem Asks.after_of_marked {disposition : Disposition} {field : String}
    (h : g.Asks t disposition) (hfield : Template.unsafeField? t.facts = some field) :
    g.after t.session t.operation t.path t.succeeded =
      (some (.completedWithAnomaly (.unsafeContext field)), g) := by
  rw [h.after_eq]
  rcases h.acts with rfl | rfl
  · simp only [storeAction, h.asked, context_eq, hfield]
    rfl
  · simp only [storeAction, h.asked, context_eq, hfield]
    rfl

/-- The command of a due transfer runs once its file is found. -/
theorem Due.after_of_run {line? : Option String} (h : g.Due t .runCommand line?) :
    g.after t.session t.operation t.path t.succeeded =
      match g.machine.files.checkRegular t.facts.localPath, line? with
      | .error source, _ =>
        (some (.completedWithAnomaly (.fileUnavailable t.facts.localPath source)), g)
      | .ok (), none => (none, g)
      | .ok (), some line =>
        ((Executor.run g.retryDelay line (g.storePolicy t).timeout g.machine).1.map (report line),
          g.perform (some (.run line (g.storePolicy t).timeout))) := by
  rw [h.toAsks.after_eq]
  simp only [storeAction, h.asked, context_eq, h.safe, runOnFile]
  cases g.machine.files.checkRegular t.facts.localPath with
  | error source => rfl
  | ok _ =>
    simp only [runAction, h.line]
    cases line? with
    | none => rfl
    | some line =>
      simp only [Option.map_map]
      rfl

theorem Due.after_of_handOff {line? : Option String} (h : g.Due t .handOff line?) :
    g.after t.session t.operation t.path t.succeeded =
      match line? with
      | none => (none, g)
      | some line =>
        (some (submission (Handoff.prepare g.handoff line g.store)),
          g.perform (some (.handOff line))) := by
  rw [h.toAsks.after_eq]
  simp only [storeAction, h.asked, context_eq, h.safe, handOff, h.line]
  cases line? with
  | none => rfl
  | some line => rfl

/-- The answer of a way out is given, and the gateway after it is the one that is left. -/
theorem Aftermath.after_eq (h : g.Aftermath t answer after) :
    g.after t.session t.operation t.path t.succeeded = (answer, after) := by
  cases h with
  | skipped h =>
    rw [h]
    rfl
  | completed h hidle => exact after_of_idle h hidle
  | marked h hfield => exact h.after_of_marked hfield
  | unavailable h hfile =>
    have hlacking := Files.checkRegular_eq_error_iff.2 hfile
    simp only [h.after_of_run, hlacking]
  | ran h hfile hrun hreported =>
    have hfound := Files.checkRegular_eq_ok_iff.2 hfile
    simp only [h.after_of_run, hfound, hrun, Option.map_some, hreported.report_eq]
  | endless h hfile hrun =>
    have hfound := Files.checkRegular_eq_ok_iff.2 hfile
    simp only [h.after_of_run, hfound, Executor.run_eq_none_iff.2 hrun, Option.map_none]
  | enqueued h hresult hid hrow =>
    rw [h.after_of_handOff]
    simp [submission, answerOf, hresult, Except.map, asOutcome]
  | @unread line cause h hresult hparse =>
    have hpreparation := Handoff.preparation g.handoff line g.store
    obtain ⟨e, hline⟩ := (hpreparation.isParseError_iff hresult).1 hparse
    obtain ⟨hstore, hcalls⟩ := hpreparation.untouched hline
    rw [h.after_of_handOff]
    simp [submission, answerOf, hresult, Except.map, asOutcome, HookError.ofHandoff, hparse,
      perform, hstore, hcalls]
  | unqueued h hresult hparse =>
    rw [h.after_of_handOff]
    simp [submission, answerOf, hresult, Except.map, asOutcome, HookError.ofHandoff, hparse]
  | @unexpanded disposition h hfile =>
    rcases h.acts with rfl | rfl
    · have hfound := Files.checkRegular_eq_ok_iff.2 (hfile rfl)
      simp only [h.after_of_run, hfound]
    · rw [h.after_of_handOff]

/-! ## One way out for every transfer -/

/-- What is answered on a run is neither that the transfer failed nor that there was no action. -/
theorem Reported.ne (h : Reported result outcome) : outcome ≠ .skipped ∧ outcome ≠ .completed := by
  cases h <;> exact ⟨nofun, nofun⟩

namespace Aftermath

/-- A process is started only for a command that is due, and once its file was found. -/
theorem launching (h : g.Aftermath t answer after)
    (hlaunches : after.machine.launches ≠ g.machine.launches) :
    ∃ line, g.Due t .runCommand (some line) ∧ g.machine.files.HasFile t.facts.localPath := by
  cases h with
  | ran h hfile => exact ⟨_, h, hfile⟩
  | endless h hfile => exact ⟨_, h, hfile⟩
  | _ => exact absurd rfl hlaunches

/-- The store is called only for a hand-off that is due. -/
theorem calling (h : g.Aftermath t answer after) (hcalls : after.calls ≠ g.calls) :
    ∃ line, g.Due t .handOff (some line) := by
  cases h with
  | enqueued h => exact ⟨_, h⟩
  | unqueued h => exact ⟨_, h⟩
  | _ => exact absurd rfl hcalls

end Aftermath

end Gateway

end TransferGateway
