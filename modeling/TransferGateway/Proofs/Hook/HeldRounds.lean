import TransferGateway.Proofs.Admission.Overflow
import TransferGateway.Proofs.Hook.Passage

/-!
# The hook before a command as it is run

The rounds of admission as they are run have an answer exactly if all of their pauses can be held,
and then it is that of the rounds themselves.  So the hook that runs them answers like the one that
takes every pause for granted, or not at all; and it always answers under limits that bear the
pauses of the last attempt they allow.
-/

namespace TransferGateway

/-- The pauses of several rounds can be held if those of each round can. -/
theorem AdmissionRound.held_append {first others : AdmissionRound} :
    ({ others with pauses := first.pauses ++ others.pauses } : AdmissionRound).Held ↔
      first.Held ∧ others.Held :=
  List.forall_mem_append

namespace AdmissionController

variable {limits : AdmissionLimits} {c : AdmissionController} {surroundings : Surroundings}
  {now attempt n : Nat} {round : AdmissionRound}

/-- Rounds as they are run answer as the rounds do, provided that all pauses can be held. -/
theorem heldRoundsFrom_eq (surroundings : Surroundings) (attempt n : Nat)
    (c : AdmissionController) (now : Nat) :
    heldRoundsFrom surroundings attempt n c now =
      if (roundsFrom surroundings attempt n c now).Held then
        some (roundsFrom surroundings attempt n c now)
      else none := by
  -- On the number of rounds left; the pauses of the first round stand before those of the others.
  induction n generalizing attempt c now with
  | zero =>
    have hnone : (roundsFrom surroundings attempt 0 c now).Held := by
      intro pause hmem
      cases hmem
    rw [if_pos hnone]
    rfl
  | succ n ih =>
    rw [heldRoundsFrom, roundsFrom, heldRound]
    cases hover : (c.round surroundings now attempt).overloaded with
    | true =>
      by_cases hfirst : (c.round surroundings now attempt).Held
      · simp only [hfirst, if_true, Option.bind_some, hover, ih, AdmissionRound.held_append,
          true_and]
        split <;> rfl
      · simp [hfirst, AdmissionRound.held_append]
    | false =>
      by_cases hfirst : (c.round surroundings now attempt).Held
      · simp [hfirst, hover]
      · simp [hfirst]

theorem heldJudge_eq_some_iff :
    c.heldJudge surroundings now = some round ↔
      c.judge surroundings now = round ∧ (c.judge surroundings now).Held := by
  rw [heldJudge, heldRoundsFrom_eq, judge]
  simp [and_comm]

/-- Limits that bear the pauses of every attempt leave nothing that cannot be held. -/
theorem held_roundsFrom (h : c.Ideal limits) (hreadings : ∀ instant, (surroundings instant).Possible)
    (hbears : ∀ k < n, limits.Bears (factor (attempt + k))) :
    (roundsFrom surroundings attempt n c now).Held := by
  induction n generalizing attempt c now with
  | zero =>
    intro pause hmem
    cases hmem
  | succ n ih =>
    have hfirst : (c.round surroundings now attempt).Held :=
      held_of_bears (SharedRound.ideal_alone h surroundings now attempt) (hreadings _)
        (hbears 0 (by omega))
    have hnext : (c.round surroundings now attempt).controller.Ideal limits :=
      (h.settle now attempt).conclude _ _ _ _
    rw [roundsFrom]
    split
    · apply AdmissionRound.held_append.2
      refine ⟨hfirst, ih hnext ?_⟩
      intro k hk
      have hlater := hbears (k + 1) (by omega)
      rwa [Nat.add_right_comm, Nat.add_assoc]
    · exact hfirst

end AdmissionController

namespace Gateway

open AdmissionController (factor)

variable {g : Gateway} {session : Session} {command : Command} {path : String}

/-- The hook before a command has an answer as it is run exactly if the command passes without
admission or all the pauses of its rounds can be held, and then it is the answer that is given when
every pause is taken for granted. -/
theorem heldBefore_eq_some_iff {outcome : Option (Except HookError BeforeOutcome) × Gateway} :
    g.heldBefore session command path = some outcome ↔
      g.before session command path = outcome ∧
        (Bypasses session command ∨
          (g.admission.judge g.surroundings g.machine.now).Held) := by
  unfold heldBefore before
  split
  · next hbypass =>
    have hbypass : Bypasses session command := by simpa [Bypasses] using hbypass
    simp [hbypass]
  · next hordinary =>
    have hordinary : ¬ Bypasses session command := by simpa [Bypasses] using hordinary
    rw [Option.map_eq_some_iff]
    constructor
    · rintro ⟨round, hround, rfl⟩
      obtain ⟨rfl, hheld⟩ := AdmissionController.heldJudge_eq_some_iff.1 hround
      exact ⟨rfl, .inr hheld⟩
    · rintro ⟨rfl, hbypass | hheld⟩
      · exact absurd hbypass hordinary
      · exact ⟨_, AdmissionController.heldJudge_eq_some_iff.2 ⟨rfl, hheld⟩, rfl⟩

/-- Under limits that bear the pauses of the last attempt every command has its answer. -/
theorem heldBefore_of_bears {limits : AdmissionLimits} (h : g.admission.Ideal limits)
    (hreadings : ∀ instant, (g.surroundings instant).Possible)
    (hbears : limits.Bears (factor (limits.rounds - 1))) :
    g.heldBefore session command path = some (g.before session command path) := by
  have hheld : (g.admission.judge g.surroundings g.machine.now).Held := by
    rw [AdmissionController.judge, h.limits_eq]
    apply AdmissionController.held_roundsFrom h hreadings
    intro k hk
    exact hbears.mono (AdmissionController.factor_mono (by omega))
  exact heldBefore_eq_some_iff.2 ⟨rfl, .inr hheld⟩

end Gateway

end TransferGateway
