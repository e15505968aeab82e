import TransferGateway.Proofs.Hook.Reply

/-!
# The action of a transfer

An action is a command line that is run or a line that is handed off.  The hook before a transfer
and the hook after it decide independently, and the policies may change in between.  Even so they do
at most one action together: a retrieval has its action before it, every other transfer after it.
-/

namespace TransferGateway

theorem Operation.direction_eq_store {operation : Operation} (h : operation ≠ .retrieve) :
    operation.direction = .store := by
  cases operation with
  | retrieve => exact absurd rfl h
  | _ => rfl

/-- What a hook may do for a transfer. -/
inductive Action where
  | run (line : String) (limit : Duration)
  | handOff (line : String)
deriving DecidableEq, Repr, Inhabited

namespace Gateway

/-- Do an action, if there is one: a run only concerns the machine, a hand-off only the store. -/
def perform (g : Gateway) : Option Action → Gateway
  | none => g
  | some (.run line limit) =>
    { g with machine := (Executor.run g.retryDelay line limit g.machine).2 }
  | some (.handOff line) =>
    let prepared := Handoff.prepare g.handoff line g.store
    { g with store := prepared.store, calls := g.calls ++ prepared.calls }

/-- The gateway once admission of a session was decided; administrators pass it by. -/
def admitting (g : Gateway) (session : Session) : Gateway :=
  if session.admin then g else g.settled

/-- Admission starts no process and calls no store. -/
theorem admitting_still (g : Gateway) (session : Session) :
    (g.admitting session).machine.launches = g.machine.launches ∧
      (g.admitting session).calls = g.calls ∧ (g.admitting session).store = g.store := by
  unfold admitting
  split <;> exact ⟨rfl, rfl, rfl⟩

theorem runAction_performs (g : Gateway) (policy : Policy) (ctx : TransferContext) :
    ∃ action?, (g.runAction policy ctx).2 = g.perform action? := by
  unfold runAction
  cases Template.expand ctx policy.template with
  | none => exact ⟨none, rfl⟩
  | some line => exact ⟨some (.run line policy.timeout), rfl⟩

theorem handOff_performs (g : Gateway) (policy : Policy) (ctx : TransferContext) :
    ∃ action?, (g.handOff policy ctx).2 = g.perform action? := by
  unfold handOff
  cases Template.expand ctx policy.template with
  | none => exact ⟨none, rfl⟩
  | some line => exact ⟨some (.handOff line), rfl⟩

/-- What the hook before a transfer does, which is nothing unless it is a retrieval. -/
theorem before_performs (g : Gateway) (session : Session) (operation : Operation) (path : String) :
    ∃ action?, (g.before session (.transfer operation) path).2 =
        (g.admitting session).perform action? ∧
      (action? ≠ none → operation = .retrieve) := by
  have hpassage := passage g session (.transfer operation) path
  generalize g.before session (.transfer operation) path = outcome at hpassage
  have hsettled (h : ¬ Bypasses session (.transfer operation)) :
      g.admitting session = g.settled := if_neg fun hadmin => h (.inl hadmin)
  -- A command that only went through admission.
  have hstill (h : ¬ Bypasses session (.transfer operation)) :
      ∃ action?, g.settled = (g.admitting session).perform action? ∧
        (action? ≠ none → operation = .retrieve) :=
    ⟨none, (hsettled h).symm, fun hne => absurd rfl hne⟩
  cases hpassage with
  | bypassed h =>
    have hadmin : session.admin = true := by simpa [Bypasses, Command.isSpecial] using h
    exact ⟨none, (if_pos hadmin).symm, fun hne => absurd rfl hne⟩
  | rejected h _ => exact hstill h
  | refused h _ _ _ => exact hstill h
  | unhindered h _ => exact hstill h
  | ran hacts hrun =>
    obtain ⟨action?, haction⟩ := g.settled.runAction_performs
      (g.registry.resolve session.policies .retrieve) (session.retrieval path)
    rw [hrun, ← hsettled hacts.throttled] at haction
    exact ⟨action?, haction, fun _ => Command.transfer.inj hacts.retrieves⟩
  | handedOff hacts hhand =>
    obtain ⟨action?, haction⟩ := g.settled.handOff_performs
      (g.registry.resolve session.policies .retrieve) (session.retrieval path)
    rw [hhand, ← hsettled hacts.throttled] at haction
    exact ⟨action?, haction, fun _ => Command.transfer.inj hacts.retrieves⟩

/-- What is done for a stored file, which is nothing if its policy refuses it. -/
theorem storeAction_performs (g : Gateway) (session : Session) (operation : Operation)
    (path : String) (policy : Policy) :
    ∃ action?, (g.storeAction session operation path policy).2 = g.perform action? ∧
      (action? ≠ none → policy.disposition ≠ .refuse) := by
  unfold storeAction
  cases hasked : policy.disposition with
  | refuse => exact ⟨none, rfl, fun hne => absurd rfl hne⟩
  | nothing => exact ⟨none, rfl, fun _ => by decide⟩
  | runCommand =>
    cases context session path operation with
    | error e => exact ⟨none, rfl, fun _ => by decide⟩
    | ok ctx =>
      simp only [runOnFile]
      cases g.machine.files.checkRegular ctx.localPath with
      | error source => exact ⟨none, rfl, fun _ => by decide⟩
      | ok _ =>
        obtain ⟨action?, haction⟩ := g.runAction_performs policy ctx
        exact ⟨action?, haction, fun _ => by decide⟩
  | handOff =>
    cases context session path operation with
    | error e => exact ⟨none, rfl, fun _ => by decide⟩
    | ok ctx =>
      obtain ⟨action?, haction⟩ := g.handOff_performs policy ctx
      exact ⟨action?, haction, fun _ => by decide⟩

/-- What a transfer needs for an action after it: it has succeeded, it is neither a retrieval nor
the transfer of an administrator, and its policy does not refuse it. -/
structure Merits (g : Gateway) (session : Session) (operation : Operation) (succeeded : Bool) :
    Prop where
  success : succeeded = true
  stores : operation ≠ .retrieve
  ordinary : session.admin = false
  allowed : (g.registry.resolve session.policies .store).disposition ≠ .refuse

/-- What the hook after a transfer does, which is nothing unless the transfer merits it. -/
theorem after_performs (g : Gateway) (session : Session) (operation : Operation) (path : String)
    (succeeded : Bool) :
    ∃ action?, (g.after session operation path succeeded).2 = g.perform action? ∧
      (action? ≠ none → g.Merits session operation succeeded) := by
  unfold after
  split
  · exact ⟨none, rfl, fun hne => absurd rfl hne⟩
  · next hsucceeded =>
    split
    · exact ⟨none, rfl, fun hne => absurd rfl hne⟩
    · next hpassed =>
      obtain ⟨action?, haction, hallowed⟩ := g.storeAction_performs session operation path
        (g.registry.resolve session.policies .store)
      have hordinary : session.admin = false ∧ operation.direction ≠ .retrieve := by
        simpa using hpassed
      have hstores : operation ≠ .retrieve := by
        rintro rfl
        exact hordinary.2 rfl
      exact ⟨action?, haction, fun hne =>
        ⟨by simpa using hsucceeded, hstores, hordinary.1, hallowed hne⟩⟩

theorem after_still {g : Gateway} {session : Session} {operation : Operation} {succeeded : Bool}
    (h : ¬ g.Merits session operation succeeded) (path : String) :
    (g.after session operation path succeeded).2 = g := by
  obtain ⟨action?, haction, hmerits⟩ := g.after_performs session operation path succeeded
  cases action? with
  | none => exact haction
  | some action => exact absurd (hmerits (by simp)) h

/-- A transfer that was refused before it merits no action after it under the same policies. -/
theorem Refusal.not_merits {g g' : Gateway} {session : Session} {operation : Operation}
    {path : String} {e : HookError} (h : g.Refusal session path (.transfer operation) e)
    (hregistry : g'.registry = g.registry) (succeeded : Bool) :
    ¬ g'.Merits session operation succeeded := by
  intro hmerits
  cases h with
  | policy hrefuse =>
    rw [Operation.direction_eq_store hmerits.stores] at hrefuse
    exact hmerits.allowed (by rw [hregistry, hrefuse])
  | marked _ _ => exact hmerits.stores rfl

/-- A transfer has at most one action.  The hook before it does one at most, only for a retrieval;
the hook after it, which may find another gateway with other policies, does one at most, only for a
successful transfer that is no retrieval and not that of an administrator.  What the policies
refused before stays without action after it, unless they change. -/
theorem at_most_one_action (g g' : Gateway) (session : Session) (operation : Operation)
    (path : String) (succeeded : Bool) :
    (∃ earlier later : Option Action,
      (g.before session (.transfer operation) path).2 = (g.admitting session).perform earlier ∧
      (g'.after session operation path succeeded).2 = g'.perform later ∧
      (earlier = none ∨ later = none)) ∧
    (operation = .retrieve → (g'.after session operation path succeeded).2 = g') ∧
    (operation ≠ .retrieve →
      (g.before session (.transfer operation) path).2.machine.launches = g.machine.launches ∧
        (g.before session (.transfer operation) path).2.calls = g.calls ∧
        (g.before session (.transfer operation) path).2.store = g.store) ∧
    (session.admin = true → (g'.after session operation path succeeded).2 = g') ∧
    (succeeded = false → g'.after session operation path succeeded = (some .skipped, g')) ∧
    (∀ e, (g.before session (.transfer operation) path).1 = some (.error e) →
      e.reply = .fileNameNotAllowed → g'.registry = g.registry →
      (g'.after session operation path succeeded).2 = g') := by
  obtain ⟨earlier, hbefore, hretrieves⟩ := g.before_performs session operation path
  obtain ⟨later, hafter, hmerits⟩ := g'.after_performs session operation path succeeded
  refine ⟨⟨earlier, later, hbefore, hafter, ?_⟩, fun h => ?_, fun h => ?_, fun h => ?_,
    fun h => ?_, ?_⟩
  · by_cases hearlier : earlier = none
    · exact .inl hearlier
    · right
      by_contra hlater
      exact (hmerits hlater).stores (hretrieves hearlier)
  · exact after_still (fun hmerits => hmerits.stores h) path
  · have hnone : earlier = none := by
      by_contra hne
      exact h (hretrieves hne)
    rw [hbefore, hnone]
    exact g.admitting_still session
  · refine after_still (fun hmerits => ?_) path
    cases h.symm.trans hmerits.ordinary
  · rw [h]
    rfl
  · intro e hanswer hreply hregistry
    have htells := tells_and_leaves (Prod.ext hanswer rfl)
    rw [hreply] at htells
    obtain ⟨⟨-, cause, hrefusal⟩, -⟩ := htells
    exact after_still (hrefusal.not_merits hregistry succeeded) path

end Gateway

end TransferGateway
