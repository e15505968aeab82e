import TransferGateway.Proofs.Admission.Rounds
import TransferGateway.Proofs.Hook.Passage
import TransferGateway.Proofs.Template.Rounds

/-!
# What a reply code tells

A rejected command is answered with a reply code.  The code tells why the command was rejected, and
with that what the rejection may have left behind: nothing at all when admission, the policies or
the hand-off line are to blame, and at most one row out of the scheduler's sight otherwise.
-/

namespace TransferGateway

theorem ReplyCode.number_eq_iff {r s : ReplyCode} : r.number = s.number ↔ r = s := by
  cases r <;> cases s <;> simp [ReplyCode.number]

namespace HookError

theorem reply_ofRun (cause : RunError) : (ofRun cause).reply = .localProcessingError := by
  cases cause <;> rfl

theorem reply_ofHandoff (cause : HandoffError) :
    (ofHandoff cause).reply =
      if cause.isParseError then .badArguments else .localProcessingError := by
  unfold ofHandoff
  cases cause.isParseError <;> rfl

end HookError

namespace Gateway

variable {g after : Gateway} {session : Session} {command : Command} {path : String} {e : HookError}

/-- Every round that the limits allow a command is overloaded. -/
def Congested (g : Gateway) : Prop :=
  g.admission.verdicts g.surroundings g.machine.now =
    List.replicate g.admission.limits.rounds true

/-- A retrieval that is to be handed off and whose facts hold no marker, but whose expanded line
cannot be read. -/
structure Unreadable (g : Gateway) (session : Session) (command : Command) (path : String) :
    Prop where
  retrieves : command = .transfer .retrieve
  asked : (g.registry.resolve session.policies .retrieve).disposition = .handOff
  safe : Template.unsafeField? (session.retrieval path) = none
  unread : ∃ line cause,
    Template.expand (session.retrieval path)
      (g.registry.resolve session.policies .retrieve).template = some line ∧
    Handoff.Request.parse line g.handoff.defaultBlockSize = .error cause

/-- What each reply code tells about a rejected command. -/
def Tells (g : Gateway) (session : Session) (command : Command) (path : String) :
    ReplyCode → Prop
  | .serviceNotAvailable => g.Congested
  | .fileNameNotAllowed => ¬ g.Congested ∧ ∃ e, g.Refusal session path command e
  | .badArguments => ¬ g.Congested ∧ g.Unreadable session command path
  | .localProcessingError => ¬ g.Congested ∧ (∀ e, ¬ g.Refusal session path command e) ∧
      ¬ g.Unreadable session command path

theorem congested_iff : g.Congested ↔ g.overloaded = true :=
  (g.admission.judge_overloaded_iff g.surroundings g.machine.now).symm

theorem not_congested (h : g.overloaded = false) : ¬ g.Congested := by
  rw [congested_iff, h]
  simp

theorem Refusal.not_unreadable (h : g.Refusal session path command e) :
    ¬ g.Unreadable session command path := by
  intro hunread
  cases h with
  | policy hrefuse =>
    cases hunread.retrieves
    cases hrefuse.symm.trans hunread.asked
  | marked _ hfield => cases hfield.symm.trans hunread.safe

/-- An action that is begun was not refused. -/
theorem Acts.not_refusal {disposition : Disposition} (h : g.Acts session command path disposition)
    (hdisposition : disposition ≠ .refuse) (e : HookError) :
    ¬ g.Refusal session path command e := by
  intro hrefusal
  cases hrefusal with
  | policy hrefuse =>
    cases h.retrieves
    exact hdisposition (h.asked.symm.trans hrefuse)
  | marked _ hfield => cases hfield.symm.trans h.safe

/-- No two codes tell the same. -/
theorem Tells.unique {r s : ReplyCode} (hr : g.Tells session command path r)
    (hs : g.Tells session command path s) : r = s := by
  cases r <;> cases s <;> simp only [Tells] at hr hs <;> grind [Refusal.not_unreadable]

theorem reply_eq_iff (h : g.Tells session command path e.reply) (r : ReplyCode) :
    e.reply = r ↔ g.Tells session command path r := by
  constructor
  · rintro rfl
    exact h
  · exact h.unique

/-- A rejection that blames neither admission nor the policies nor the line. -/
theorem tells_of_acts {disposition : Disposition} (h : g.Acts session command path disposition)
    (hdisposition : disposition ≠ .refuse) (hread : ¬ g.Unreadable session command path)
    (he : e.reply = .localProcessingError) : g.Tells session command path e.reply := by
  rw [he]
  exact ⟨not_congested h.admitted, h.not_refusal hdisposition, hread⟩

/-- What a rejection with the given reply may have left behind: only one that is a local processing
error has any effect, and the only row it can have added is one that could be neither marked nor
deleted. -/
structure Leaves (g after : Gateway) (reply : ReplyCode) : Prop where
  untouched : reply ≠ .localProcessingError → after.machine.launches = g.machine.launches ∧
    after.calls = g.calls ∧ after.store = g.store
  kept : ∀ id row, g.store.queue.find? id = some row → after.store.queue.find? id = some row
  added : ∀ id row, after.store.queue.find? id = some row →
    g.store.queue.find? id = some row ∨
      ∃ calls, after.calls = g.calls ++ calls ∧ Handoff.Stranded g.store calls id row

theorem leaves_of_store {reply : ReplyCode} (hstore : after.store = g.store)
    (huntouched : reply ≠ .localProcessingError → after.machine.launches = g.machine.launches ∧
      after.calls = g.calls) : Leaves g after reply where
  untouched := fun h => ⟨(huntouched h).1, (huntouched h).2, hstore⟩
  kept := fun _ _ hrow => by rw [hstore, hrow]
  added := fun _ _ hrow => .inl (by rw [← hstore, hrow])

theorem reply_of_verdict {line : String} {result : RunResult} (h : verdict line result = .error e) :
    e.reply = .localProcessingError := by
  unfold verdict at h
  split at h
  · cases h
  · split at h
    · obtain rfl := Except.error.inj h
      exact HookError.reply_ofRun _
    · obtain rfl := Except.error.inj h
      rfl

theorem eq_error_of_map {α : Type} {f : α → BeforeOutcome}
    {answer? : Option (Except HookError α)}
    (h : answer?.map (·.map f) = some (.error e)) : answer? = some (.error e) := by
  obtain ⟨answer, rfl, hanswer⟩ := Option.map_eq_some_iff.1 h
  cases answer with
  | error cause =>
    obtain rfl : cause = e := Except.error.inj hanswer
    rfl
  | ok value => cases hanswer

theorem error_of_answerOf {prepared : Handoff.Prepared} (h : answerOf prepared = .error e) :
    ∃ cause, prepared.result = .error cause ∧ e = .ofHandoff cause := by
  unfold answerOf at h
  cases hresult : prepared.result with
  | ok descriptor =>
    rw [hresult] at h
    cases h
  | error cause =>
    rw [hresult] at h
    exact ⟨cause, rfl, (Except.error.inj h).symm⟩

/-- A run that fails is a local processing error, and does not touch the store. -/
theorem reply_of_run (hacts : g.Acts session command path .runCommand)
    (hrun : g.settled.runAction (g.registry.resolve session.policies .retrieve)
      (session.retrieval path) = (some (.error e), after)) :
    g.Tells session command path e.reply ∧ Leaves g after e.reply := by
  rcases g.settled.runAction_cases (g.registry.resolve session.policies .retrieve)
    (session.retrieval path) with hnone | ⟨line, result?, machine, -, -, hsome⟩
  · cases hnone.symm.trans hrun
  · obtain ⟨hanswer, rfl⟩ := Prod.mk.inj (hsome.symm.trans hrun)
    obtain ⟨result, -, hverdict⟩ := Option.map_eq_some_iff.1 hanswer
    have hreply : e.reply = .localProcessingError := reply_of_verdict hverdict
    have hread : ¬ g.Unreadable session command path := by
      intro hunread
      cases hacts.asked.symm.trans hunread.asked
    exact ⟨tells_of_acts hacts (by decide) hread hreply,
      leaves_of_store rfl fun h => absurd hreply h⟩

/-- What a failed hand-off leaves behind is what preparing its line leaves behind. -/
theorem leaves_of_preparation {line : String} {prepared : Handoff.Prepared} {cause : HandoffError}
    (hprepared : Handoff.Preparation g.handoff line g.store prepared)
    (hresult : prepared.result = .error cause)
    (hreply : (HookError.ofHandoff cause).reply = .localProcessingError) :
    Leaves g { g.settled with store := prepared.store, calls := g.calls ++ prepared.calls }
      (HookError.ofHandoff cause).reply := by
  constructor
  · exact fun h => absurd hreply h
  · exact fun _ _ hrow => hprepared.keeps hrow
  · intro id row hrow
    rcases hprepared.leaves hresult hrow with hold | hstranded
    · exact .inl hold
    · exact .inr ⟨prepared.calls, rfl, hstranded⟩

/-- A hand-off that fails blames the line if that cannot be read, and else may have left its row
behind. -/
theorem reply_of_handOff (hacts : g.Acts session command path .handOff)
    (hhand : g.settled.handOff (g.registry.resolve session.policies .retrieve)
      (session.retrieval path) = (some (.error e), after)) :
    g.Tells session command path e.reply ∧ Leaves g after e.reply := by
  rcases g.settled.handOff_cases (g.registry.resolve session.policies .retrieve)
    (session.retrieval path) with hnone | ⟨line, prepared, hline, hprepared, hsome⟩
  · cases hnone.symm.trans hhand
  · obtain ⟨hanswer, rfl⟩ := Prod.mk.inj (hsome.symm.trans hhand)
    obtain ⟨cause, hresult, rfl⟩ := error_of_answerOf (Option.some.inj hanswer)
    have hblame := hprepared.isParseError_iff hresult
    have hreply := HookError.reply_ofHandoff cause
    cases hparse : cause.isParseError with
    | true =>
      rw [hparse, if_pos rfl] at hreply
      obtain ⟨cause', hunread⟩ := hblame.1 hparse
      obtain ⟨hstore, hnone⟩ := hprepared.untouched hunread
      have hcalls : g.calls ++ prepared.calls = g.calls := by
        rw [hnone, List.append_nil]
      rw [hreply]
      exact ⟨⟨not_congested hacts.admitted, hacts.retrieves, hacts.asked, hacts.safe,
        line, cause', hline, hunread⟩, leaves_of_store hstore fun _ => ⟨rfl, hcalls⟩⟩
    | false =>
      rw [hparse, if_neg (by decide)] at hreply
      -- The expanded line is the same one, and the store would not have been asked otherwise.
      have hread : ¬ g.Unreadable session command path := by
        rintro ⟨-, -, -, line', cause', hline', hunread⟩
        obtain rfl : line = line' := Option.some.inj (hline.symm.trans hline')
        have htrue := hblame.2 ⟨cause', hunread⟩
        rw [hparse] at htrue
        cases htrue
      exact ⟨tells_of_acts hacts (by decide) hread hreply,
        leaves_of_preparation hprepared hresult hreply⟩

/-- The reply to a rejected command tells why it was rejected and what that has left behind. -/
theorem tells_and_leaves (h : g.before session command path = (some (.error e), after)) :
    g.Tells session command path e.reply ∧ Leaves g after e.reply := by
  have hpassage := passage g session command path
  generalize hout : g.before session command path = outcome at hpassage
  rw [h] at hout
  cases hpassage with
  | bypassed _ => cases hout
  | rejected _ hload =>
    cases hout
    exact ⟨congested_iff.2 hload, leaves_of_store rfl fun _ => ⟨rfl, rfl⟩⟩
  | refused _ hload _ hrefusal =>
    cases hout
    have hreply : e.reply = .fileNameNotAllowed := by cases hrefusal <;> rfl
    rw [hreply]
    exact ⟨⟨not_congested hload, e, hrefusal⟩, leaves_of_store rfl fun _ => ⟨rfl, rfl⟩⟩
  | unhindered _ _ => cases hout
  | ran hacts hrun =>
    obtain ⟨hanswer, rfl⟩ := Prod.mk.inj hout
    rw [eq_error_of_map hanswer.symm] at hrun
    exact reply_of_run hacts hrun
  | handedOff hacts hhand =>
    obtain ⟨hanswer, rfl⟩ := Prod.mk.inj hout
    rw [eq_error_of_map hanswer.symm] at hhand
    exact reply_of_handOff hacts hhand

/-- What the reply to a rejected command tells.  It is 421 exactly when every round was overloaded,
553 exactly when an admitted command was refused, and 501 exactly when the line of an admitted
retrieval cannot be read; then nothing was started, and no call on the store was made.  Otherwise it
is 451; then the rows that were there stay as they were, and the one that may have been added is
undefined: it could be neither marked nor deleted. -/
theorem before_rejects (h : g.before session command path = (some (.error e), after)) :
    (e.reply.number = 421 ↔ g.Congested) ∧
    (e.reply.number = 553 ↔ ¬ g.Congested ∧ ∃ cause, g.Refusal session path command cause) ∧
    (e.reply.number = 501 ↔ ¬ g.Congested ∧ g.Unreadable session command path) ∧
    (e.reply.number = 421 ∨ e.reply.number = 553 ∨ e.reply.number = 501 →
      after.machine.launches = g.machine.launches ∧ after.calls = g.calls ∧
        after.store = g.store) ∧
    (e.reply.number = 421 ∨ e.reply.number = 553 ∨ e.reply.number = 501 ∨
      e.reply.number = 451) ∧
    (∀ id row, g.store.queue.find? id = some row → after.store.queue.find? id = some row) ∧
    (∀ id row, after.store.queue.find? id = some row → g.store.queue.find? id = some row ∨
      ∃ calls, after.calls = g.calls ++ calls ∧ Handoff.Stranded g.store calls id row) := by
  obtain ⟨htells, hleaves⟩ := tells_and_leaves h
  have hnumber (r : ReplyCode) : e.reply.number = r.number ↔ g.Tells session command path r :=
    ReplyCode.number_eq_iff.trans (reply_eq_iff htells r)
  refine ⟨hnumber .serviceNotAvailable, hnumber .fileNameNotAllowed, hnumber .badArguments,
    fun hblamed => hleaves.untouched ?_, ?_, hleaves.kept, hleaves.added⟩
  · intro hlocal
    rw [hlocal] at hblamed
    simp [ReplyCode.number] at hblamed
  · cases e.reply <;> simp [ReplyCode.number]

/-- A gateway that hands retrievals off to a store that takes a row, but can neither mark nor delete
it. -/
def stranding : Gateway where
  registry := ⟨⟨.noAction, ⟨.handOff, "-to partner -rule push -file report", .zero⟩⟩⟩
  admission := { limits := {} }
  store := {
    rules := ⟨[⟨"push", ⟨false, false, false⟩⟩]⟩
    faults := { mark := some (.database "down"), delete := some (.database "gone") } }
  handoff := ⟨"gateway", 65536⟩

theorem stranding_rejects :
    ∃ after, stranding.before ⟨"alice", "acme", "/srv", false, none⟩ (.transfer .retrieve)
        "report" = (some (.error (.handoffPersistence (.persistence (.database "down")))), after) ∧
      ¬ stranding.Congested ∧
      ∃ row, after.store.queue.find? 1 = some row ∧ row.state = .undefined := by
  have hline : Template.expand (Session.retrieval ⟨"alice", "acme", "/srv", false, none⟩ "report")
      "-to partner -rule push -file report" = some "-to partner -rule push -file report" :=
    Template.expand_eq_some_iff.2 (.done (by decide))
  have hacts : stranding.Acts ⟨"alice", "acme", "/srv", false, none⟩ (.transfer .retrieve)
      "report" .handOff := by
    constructor
    · simp [Bypasses, Command.isSpecial]
    · rfl
    · rfl
    · rfl
    · decide
  have hresult : (Handoff.prepare stranding.handoff "-to partner -rule push -file report"
      stranding.store).result = .error (.persistence (.database "down")) := rfl
  have hstate : ((Handoff.prepare stranding.handoff "-to partner -rule push -file report"
      stranding.store).store.queue.find? 1).map Row.state = some .undefined := rfl
  have hbefore := before_of_handOff hacts hline
  generalize Handoff.prepare stranding.handoff "-to partner -rule push -file report"
    stranding.store = prepared at hresult hstate hbefore
  rw [answerOf, hresult] at hbefore
  obtain ⟨row, hrow, -⟩ := Option.map_eq_some_iff.1 hstate
  obtain ⟨hcongested, -, -, -, -, -, hadded⟩ := before_rejects hbefore
  refine ⟨_, hbefore, fun h => ?_, row, hrow, ?_⟩
  · cases hcongested.2 h
  · rcases hadded 1 row hrow with hold | ⟨calls, -, hstranded⟩
    · cases hold
    · exact hstranded.hidden

end Gateway

end TransferGateway
