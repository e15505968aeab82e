import Mathlib.Logic.Function.Iterate
import TransferGateway.Admission.Interleaving

/-!
# Turns of admission calls

What one check does to the controller, and what one turn of a call does: at most one check.  A call
that is alone makes the pauses and gets the answer of a round.
-/

namespace TransferGateway

namespace AdmissionController

/-- Everything that a check can do: no sample is wanted, the last one is used again, or a new one
is taken. -/
inductive Checked (c : AdmissionController) (now : Nat) (readings : Readings) :
    Bool × AdmissionController → Prop where
  | unsampled (hcpu : c.limits.cpuCheck = false) : Checked c now readings (c.crowded readings, c)
  | reused (hcpu : c.limits.cpuCheck = true) {sample : LoadSample}
      (hlast : c.lastSample = some sample) (hfresh : c.reuses now sample = true) :
      Checked c now readings (c.crowded readings, c)
  | sampled (hcpu : c.limits.cpuCheck = true) (hstale : c.reusesLast now = false) :
      Checked c now readings
        (decide (c.limits.cpuLimit < readings.load) || c.crowded readings,
          c.record ⟨readings.load, now⟩)

theorem checked (c : AdmissionController) (now : Nat) (readings : Readings) :
    Checked c now readings (c.check now readings) := by
  unfold check
  cases hcpu : c.limits.cpuCheck with
  | false => exact .unsampled hcpu
  | true =>
    simp only [if_true, checkLoad]
    cases hreuse : c.reusesLast now with
    | false => exact .sampled hcpu hreuse
    | true =>
      unfold reusesLast at hreuse
      cases hlast : c.lastSample with
      | none => simp [hlast] at hreuse
      | some sample =>
        simp only [hlast] at hreuse
        exact .reused hcpu hlast hreuse

theorem limits_check (c : AdmissionController) (now : Nat) (readings : Readings) :
    (c.check now readings).2.limits = c.limits := by
  have h := c.checked now readings
  generalize c.check now readings = outcome at h ⊢
  cases h <;> rfl

theorem crowded_eq_false_iff {c : AdmissionController} {readings : Readings} :
    c.crowded readings = false ↔ (c.limits.connectionCheck = true →
      readings.network ≤ c.limits.connectionLimit ∧
        readings.sessions ≤ c.limits.connectionLimit) := by
  unfold crowded
  cases c.limits.connectionCheck <;> simp

theorem crowded_eq_true_iff {c : AdmissionController} {readings : Readings} :
    c.crowded readings = true ↔ c.limits.connectionCheck = true ∧
      (c.limits.connectionLimit < readings.network ∨
        c.limits.connectionLimit < readings.sessions) := by
  unfold crowded
  cases c.limits.connectionCheck <;> simp

/-- Without a check of the load, only the connections are compared. -/
theorem check_of_not_cpuCheck {c : AdmissionController} {now : Nat} {readings : Readings}
    (hcpu : c.limits.cpuCheck = false) : c.check now readings = (c.crowded readings, c) := by
  simp only [check, hcpu, Bool.false_eq_true, if_false]

/-- The start of a round is a pause for a sample that is awaited, or nothing at all. -/
theorem settle_cases (c : AdmissionController) (now attempt : Nat) :
    (c.awaited now = none ∧ c.settle now attempt = ⟨false, c, [], now⟩) ∨
      ∃ pause, c.settle now attempt = ⟨false, c.draw.2, [pause], wakeUp now pause⟩ := by
  unfold settle
  cases c.awaited now with
  | none => exact .inl ⟨rfl, rfl⟩
  | some sample => exact .inr ⟨_, rfl⟩

end AdmissionController

namespace Admission

namespace Stage

/-- What the check of a call has said, if it was made. -/
def verdict? : Stage → Option Bool
  | .called _ | .settling .. => none
  | .recovering _ => some true
  | .answered overloaded => some overloaded

/-- Everything that one turn can do: no check is made and no sample is taken, or the one check of
the call is made. -/
inductive Progress (stage : Stage) (c : AdmissionController) (now : Nat) (readings : Readings) :
    Turn → Prop where
  | still {next : Stage} {after : AdmissionController} (hstage : next.verdict? = stage.verdict?)
      (hlimits : after.limits = c.limits) (hsamples : after.samples = c.samples) :
      Progress stage c now readings ⟨next, after, none⟩
  | checks {next : Stage} {after : AdmissionController} {overloaded : Bool}
      (hunchecked : stage.verdict? = none) (hcheck : (c.check now readings).1 = overloaded)
      (hstage : next.verdict? = some overloaded) (hlimits : after.limits = c.limits)
      (hsamples : after.samples = (c.check now readings).2.samples) :
      Progress stage c now readings ⟨next, after, some overloaded⟩

theorem progress_checkRound {stage : Stage} (hstage : stage.verdict? = none) (attempt : Nat)
    (c : AdmissionController) (now : Nat) (readings : Readings) :
    Progress stage c now readings (checkRound attempt c now readings) := by
  have hlimits := c.limits_check now readings
  unfold checkRound
  split
  next overloaded after hcheck =>
    rw [hcheck] at hlimits
    cases overloaded with
    | true => exact .checks hstage (by rw [hcheck]) rfl hlimits (by rw [hcheck])
    | false => exact .checks hstage (by rw [hcheck]) rfl hlimits (by rw [hcheck])

theorem progress_turn (stage : Stage) (c : AdmissionController) (now : Nat) (readings : Readings) :
    Progress stage c now readings (stage.turn c now readings) := by
  cases stage with
  | called call =>
    cases call with
    | check => exact .checks rfl rfl rfl (c.limits_check now readings) rfl
    | round attempt =>
      simp only [turn, beginRound]
      rcases c.settle_cases now attempt with ⟨-, h⟩ | ⟨pause, h⟩
      · rw [h]
        exact progress_checkRound rfl attempt c now readings
      · rw [h]
        exact .still rfl rfl rfl
  | settling attempt wake =>
    simp only [turn]
    split
    · exact progress_checkRound rfl attempt c now readings
    · exact .still rfl rfl rfl
  | recovering wake =>
    simp only [turn]
    split
    · exact .still rfl rfl rfl
    · exact .still rfl rfl rfl
  | answered overloaded => exact .still rfl rfl rfl

/-! ## A call that is alone -/

/-- When the next turn of a call is due. -/
def due : Stage → Nat → Nat
  | .settling _ wake, _ => wake
  | .recovering wake, _ => wake
  | _, now => now

/-- One turn of a call that is alone: time passes up to the end of its pause. -/
def alone (surroundings : Surroundings) :
    Stage × AdmissionController × Nat → Stage × AdmissionController × Nat
  | (stage, c, now) =>
    let turn := stage.turn c (stage.due now) (surroundings (stage.due now))
    (turn.stage, turn.controller, stage.due now)

/-- What is left of a round once it has come to its check. -/
def finish (surroundings : Surroundings) (attempt : Nat) (c : AdmissionController) (now : Nat) :
    Stage × AdmissionController × Nat :=
  match c.check now (surroundings now) with
  | (true, checked) =>
    (.answered true, checked.draw.2,
      wakeUp now (checked.draw.2.overloadPause attempt checked.draw.1))
  | (false, checked) => (.answered false, checked, now)

/-- A call that has made its check has its answer after one more turn. -/
theorem alone_checkRound (surroundings : Surroundings) (attempt : Nat) (c : AdmissionController)
    (now : Nat) :
    alone surroundings
        ((checkRound attempt c now (surroundings now)).stage,
          (checkRound attempt c now (surroundings now)).controller, now) =
      finish surroundings attempt c now := by
  unfold checkRound finish
  rcases c.check now (surroundings now) with ⟨_ | _, checked⟩
  · rfl
  · simp [alone, due, turn]

theorem alone_finish (surroundings : Surroundings) (attempt : Nat) (c : AdmissionController)
    (now : Nat) :
    alone surroundings (finish surroundings attempt c now) = finish surroundings attempt c now := by
  unfold finish
  rcases c.check now (surroundings now) with ⟨_ | _, checked⟩ <;> rfl

theorem round_eq_finish (surroundings : Surroundings) (attempt : Nat) (c : AdmissionController)
    (now : Nat) :
    (.answered (c.round surroundings now attempt).overloaded,
        (c.round surroundings now attempt).controller,
        (c.round surroundings now attempt).now) =
      finish surroundings attempt (c.settle now attempt).controller (c.settle now attempt).now := by
  cases hcheck : (c.settle now attempt).controller.check (c.settle now attempt).now
    (surroundings (c.settle now attempt).now) with
  | mk overloaded checked =>
    simp only [AdmissionController.round, finish, hcheck]
    cases overloaded <;> rfl

/-- Three turns of a call that is alone are one round. -/
theorem alone_iterate_round (surroundings : Surroundings) (attempt : Nat)
    (c : AdmissionController) (now : Nat) :
    (alone surroundings)^[3] (.called (.round attempt), c, now) =
      (.answered (c.round surroundings now attempt).overloaded,
        (c.round surroundings now attempt).controller,
        (c.round surroundings now attempt).now) := by
  rw [round_eq_finish]
  -- Without a pause the check falls into the first turn, with one into the second.
  rcases c.settle_cases now attempt with ⟨-, h⟩ | ⟨pause, h⟩
  · have hfirst : alone surroundings (.called (.round attempt), c, now) =
        ((checkRound attempt c now (surroundings now)).stage,
          (checkRound attempt c now (surroundings now)).controller, now) := by
      simp only [alone, due, turn, beginRound, h]
      rfl
    rw [h, Function.iterate_succ_apply, hfirst, Function.iterate_succ_apply, alone_checkRound]
    exact alone_finish surroundings attempt c now
  · have hfirst : alone surroundings (.called (.round attempt), c, now) =
        (.settling attempt (wakeUp now pause), c.draw.2, now) := by
      simp only [alone, due, turn, beginRound, h]
      rfl
    have hsecond : alone surroundings (.settling attempt (wakeUp now pause), c.draw.2, now) =
        ((checkRound attempt c.draw.2 (wakeUp now pause) (surroundings (wakeUp now pause))).stage,
          (checkRound attempt c.draw.2 (wakeUp now pause)
            (surroundings (wakeUp now pause))).controller, wakeUp now pause) := by
      simp [alone, due, turn]
    rw [h, Function.iterate_succ_apply, hfirst, Function.iterate_succ_apply, hsecond]
    exact alone_checkRound surroundings attempt c.draw.2 (wakeUp now pause)

end Stage

end Admission

end TransferGateway
