import TransferGateway.Admission.Controller

/-!
# The rounds of a command

A command goes through rounds until one of them is not overloaded, and through no more than its
limits allow.
-/

namespace TransferGateway.AdmissionController

/-- The rounds that a command goes through from an attempt on, at most the given number, up to the
first one that is not overloaded. -/
def tries (surroundings : Surroundings) (attempt : Nat) :
    Nat → AdmissionController → Nat → List AdmissionRound
  | 0, _, _ => []
  | remaining + 1, c, now =>
    let first := c.round surroundings now attempt
    if first.overloaded then
      first :: tries surroundings (attempt + 1) remaining first.controller first.now
    else [first]

/-- What the rounds of a command say, in order. -/
def verdicts (c : AdmissionController) (surroundings : Surroundings) (now : Nat) : List Bool :=
  (tries surroundings 0 c.limits.rounds c now).map AdmissionRound.overloaded

/-- Either every round is overloaded, and as many as allowed are made, or one is not and is the
last. -/
theorem roundsFrom_cases (surroundings : Surroundings) (attempt n : Nat) (c : AdmissionController)
    (now : Nat) :
    ((roundsFrom surroundings attempt n c now).overloaded = true ∧
      (tries surroundings attempt n c now).map AdmissionRound.overloaded =
        List.replicate n true) ∨
    ((roundsFrom surroundings attempt n c now).overloaded = false ∧
      ∃ k < n, (tries surroundings attempt n c now).map AdmissionRound.overloaded =
        List.replicate k true ++ [false]) := by
  -- On the number of rounds left; each round hands its controller and its clock on to the next.
  induction n generalizing attempt c now with
  | zero => exact .inl ⟨rfl, rfl⟩
  | succ n ih =>
    cases hfirst : (c.round surroundings now attempt).overloaded with
    | true =>
      have hothers := ih (attempt + 1) (c.round surroundings now attempt).controller
        (c.round surroundings now attempt).now
      simp only [roundsFrom, tries, hfirst, if_true, List.map_cons]
      rcases hothers with ⟨hover, hall⟩ | ⟨hover, k, hk, hall⟩
      · refine .inl ⟨hover, ?_⟩
        rw [hall, List.replicate_succ]
      · refine .inr ⟨hover, k + 1, Nat.succ_lt_succ hk, ?_⟩
        rw [hall, List.replicate_succ, List.cons_append]
    | false =>
      have hlast : tries surroundings attempt (n + 1) c now =
          [c.round surroundings now attempt] := if_neg (by simp [hfirst])
      have hround : roundsFrom surroundings attempt (n + 1) c now =
          c.round surroundings now attempt := if_neg (by simp [hfirst])
      refine .inr ⟨by rw [hround, hfirst], 0, Nat.succ_pos n, ?_⟩
      rw [hlast, List.map_singleton, hfirst]
      rfl

/-- Rounds of which the last one is not overloaded are not all overloaded. -/
theorem append_false_ne_replicate (k n : Nat) :
    List.replicate k true ++ [false] ≠ List.replicate n true := by
  intro h
  have hmem : false ∈ List.replicate n true := by
    rw [← h]
    simp
  cases (List.mem_replicate.1 hmem).2

/-- A command is turned down exactly when all the rounds that its limits allow are overloaded. -/
theorem judge_overloaded_iff (c : AdmissionController) (surroundings : Surroundings) (now : Nat) :
    (c.judge surroundings now).overloaded = true ↔
      c.verdicts surroundings now = List.replicate c.limits.rounds true := by
  unfold judge verdicts
  rcases roundsFrom_cases surroundings 0 c.limits.rounds c now with
    ⟨hover, hall⟩ | ⟨hover, k, hk, hall⟩
  · exact ⟨fun _ => hall, fun _ => hover⟩
  · constructor
    · intro h
      cases hover.symm.trans h
    · intro h
      exact absurd (hall.symm.trans h) (append_false_ne_replicate k _)

end TransferGateway.AdmissionController
