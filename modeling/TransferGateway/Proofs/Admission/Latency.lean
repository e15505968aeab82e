import Mathlib.Tactic.Ring
import TransferGateway.Hook.Gateway
import TransferGateway.Proofs.Admission.Backoff
import TransferGateway.Proofs.Admission.Rounds

/-!
# How long admission takes

A command goes through rounds of attempts that are counted up, until one says that there is no
overload or as many as allowed have been made.  The controller is shared: during the pauses of a
command others take samples and draw random values, and the load and the connections change.  Each
round still asks for no more than a multiple of two spans that its limits give, and after an
overload for a multiple of a millisecond at least, so the whole wait is bounded on both sides by
sums of the first whole numbers.
-/

namespace TransferGateway

/-! ## Ideal controllers -/

namespace AdmissionController

/-- A controller with these limits that forms exact products and draws random values between zero
and one. -/
structure Ideal (limits : AdmissionLimits) (c : AdmissionController) : Prop where
  limits_eq : c.limits = limits
  precision_eq : c.precision = .exact
  jitter_unit : UnitJitter c.jitter

variable {limits : AdmissionLimits} {c : AdmissionController}

theorem Ideal.draw (h : c.Ideal limits) : c.draw.2.Ideal limits :=
  ⟨h.limits_eq, h.precision_eq, h.jitter_unit⟩

theorem Ideal.check (h : c.Ideal limits) (now : Nat) (readings : Readings) :
    (c.check now readings).2.Ideal limits := by
  have hchecked := c.checked now readings
  generalize c.check now readings = outcome at hchecked ⊢
  cases hchecked with
  | unsampled _ => exact h
  | reused _ _ _ => exact h
  | sampled _ _ => exact ⟨h.limits_eq, h.precision_eq, h.jitter_unit⟩

theorem drawn_check (c : AdmissionController) (now : Nat) (readings : Readings) :
    (c.check now readings).2.drawn = c.drawn := by
  have hchecked := c.checked now readings
  generalize c.check now readings = outcome at hchecked ⊢
  cases hchecked <;> rfl

theorem Ideal.settle (h : c.Ideal limits) (now attempt : Nat) :
    (c.settle now attempt).controller.Ideal limits := by
  rcases c.settle_cases now attempt with ⟨-, hsettle⟩ | ⟨pause, hsettle⟩
  · rw [hsettle]
    exact h
  · rw [hsettle]
    exact h.draw

/-- One random value is drawn for the pause before a check. -/
theorem drawn_settle_le (c : AdmissionController) (now attempt : Nat) :
    (c.settle now attempt).controller.drawn ≤ c.drawn + 1 := by
  rcases c.settle_cases now attempt with ⟨-, hsettle⟩ | ⟨pause, hsettle⟩
  · rw [hsettle]
    exact Nat.le_succ _
  · rw [hsettle]
    exact Nat.le_refl _

/-- A round starts with one pause at most, and with one only where the load is checked. -/
theorem settle_pauses (h : c.Ideal limits) (now attempt : Nat) :
    (c.settle now attempt).pauses = [] ∨
      ∃ pause, (c.settle now attempt).pauses = [pause] ∧ limits.cpuCheck = true ∧
        pause.nanoseconds ≤ limits.settleSpan * factor attempt := by
  cases hawaited : c.awaited now with
  | none =>
    rw [settle_of_awaited_eq_none hawaited]
    exact .inl rfl
  | some sample =>
    obtain ⟨hcpu, -, hover, -⟩ := awaited_eq_some_iff.1 hawaited
    have hload : 0 ≤ sample.load.clampUnit :=
      Binary64.clampUnit_nonneg (AdmissionLimits.zero_lt_cpuLimit hcpu) hover
    have hpause : (c.recheckPause attempt sample.load (c.jitter c.drawn)).nanoseconds ≤
        c.limits.settleSpan * factor attempt :=
      recheckPause_le h.precision_eq hload (h.jitter_unit c.drawn)
    rw [h.limits_eq] at hcpu hpause
    rw [settle_of_awaited hawaited]
    exact .inr ⟨_, rfl, hcpu, hpause⟩

theorem requested_settle_le (h : c.Ideal limits) (now attempt : Nat) :
    (c.settle now attempt).requested ≤ (attempt + 1) * limits.settleSpan := by
  rcases settle_pauses h now attempt with hnone | ⟨pause, hone, -, hpause⟩
  · rw [AdmissionRound.requested, hnone]
    exact Nat.zero_le _
  · rw [AdmissionRound.requested, hone, List.map_singleton, List.sum_singleton]
    exact hpause.trans (mul_factor_le _ _)

/-- The rest of a round is its check alone, or the check and one more pause. -/
theorem conclude_cases (c : AdmissionController) (readings : Readings) (now attempt : Nat)
    (pauses : List Duration) :
    c.conclude readings now attempt pauses =
        ⟨false, (c.check now readings).2, pauses, now⟩ ∨
      ∃ pause later,
        pause = (c.check now readings).2.overloadPause attempt
          ((c.check now readings).2.jitter (c.check now readings).2.drawn) ∧
        c.conclude readings now attempt pauses =
          ⟨true, (c.check now readings).2.draw.2, pauses ++ [pause], later⟩ := by
  cases hcheck : c.check now readings with
  | mk overloaded checked =>
    cases overloaded with
    | false => exact .inl (conclude_of_idle hcheck)
    | true => exact .inr ⟨_, _, rfl, conclude_of_overloaded hcheck⟩

theorem Ideal.conclude (h : c.Ideal limits) (readings : Readings) (now attempt : Nat)
    (pauses : List Duration) :
    (c.conclude readings now attempt pauses).controller.Ideal limits := by
  rcases c.conclude_cases readings now attempt pauses with hidle | ⟨pause, later, -, hover⟩
  · rw [hidle]
    exact h.check now readings
  · rw [hover]
    exact (h.check now readings).draw

/-- One random value is drawn for the pause after a check. -/
theorem drawn_conclude_le (c : AdmissionController) (readings : Readings) (now attempt : Nat)
    (pauses : List Duration) :
    (c.conclude readings now attempt pauses).controller.drawn ≤ c.drawn + 1 := by
  have hdrawn := c.drawn_check now readings
  rcases c.conclude_cases readings now attempt pauses with hidle | ⟨pause, later, -, hover⟩
  · rw [hidle]
    exact hdrawn.le.trans (Nat.le_succ _)
  · rw [hover]
    exact (congrArg (· + 1) hdrawn).le

end AdmissionController

/-! ## Rounds on a shared controller -/

/-- A round of a command that shares its controller with others. -/
structure SharedRound where
  attempt : Nat
  /-- The controller at the start of the round. -/
  first : AdmissionController
  now : Nat
  /-- The controller at the check, which others may have used during the pause before it. -/
  resumed : AdmissionController
  later : Nat
  readings : Readings

namespace SharedRound

/-- The end of the round. -/
def outcome (r : SharedRound) : AdmissionRound :=
  r.resumed.conclude r.readings r.later r.attempt (r.first.settle r.now r.attempt).pauses

/-- The number of random values that the round draws, before its check and after it. -/
def draws (r : SharedRound) : Nat :=
  ((r.first.settle r.now r.attempt).controller.drawn - r.first.drawn) +
    (r.outcome.controller.drawn - r.resumed.drawn)

/-- Both controllers of the round are ideal. -/
structure Ideal (limits : AdmissionLimits) (r : SharedRound) : Prop where
  first : r.first.Ideal limits
  resumed : r.resumed.Ideal limits

/-- The verdicts of rounds, in order. -/
def verdicts (rounds : List SharedRound) : List Bool :=
  rounds.map fun r => r.outcome.overloaded

/-- The time that rounds ask to pause for, all in all. -/
def requested (rounds : List SharedRound) : Nat :=
  (rounds.map fun r => r.outcome.requested).sum

variable {limits : AdmissionLimits} {r : SharedRound} {rounds : List SharedRound}

theorem verdicts_singleton (hidle : r.outcome.overloaded = false) : verdicts [r] = [false] := by
  rw [verdicts, List.map_singleton, hidle]

theorem verdicts_cons (hover : r.outcome.overloaded = true) :
    verdicts (r :: rounds) = true :: verdicts rounds := by
  rw [verdicts, List.map_cons, hover, verdicts]

theorem requested_cons (r : SharedRound) (rounds : List SharedRound) :
    requested (r :: rounds) = r.outcome.requested + requested rounds :=
  List.sum_cons

/-- With an overloaded round in front, the overloaded ones behind it begin one attempt later. -/
theorem add_count_verdicts_cons (hover : r.outcome.overloaded = true) (attempt : Nat) :
    attempt + (verdicts (r :: rounds)).count true =
      attempt + 1 + (verdicts rounds).count true := by
  rw [verdicts_cons hover, List.count_cons_self]
  omega

theorem draws_le (r : SharedRound) : r.draws ≤ 2 := by
  have hbefore := r.first.drawn_settle_le r.now r.attempt
  have hafter : r.outcome.controller.drawn ≤ r.resumed.drawn + 1 :=
    r.resumed.drawn_conclude_le _ _ _ _
  unfold draws
  omega

theorem requested_outcome_of_idle (hidle : r.outcome.overloaded = false) :
    r.outcome.requested = (r.first.settle r.now r.attempt).requested := by
  unfold outcome at hidle ⊢
  rcases r.resumed.conclude_cases r.readings r.later r.attempt
    (r.first.settle r.now r.attempt).pauses with h | ⟨pause, later, -, h⟩
  · rw [h]
    rfl
  · rw [h] at hidle
    cases hidle

theorem requested_outcome_of_overloaded (h : r.Ideal limits)
    (hover : r.outcome.overloaded = true) :
    ∃ checked : AdmissionController, checked.Ideal limits ∧
      r.outcome.requested = (r.first.settle r.now r.attempt).requested +
        (checked.overloadPause r.attempt (checked.jitter checked.drawn)).nanoseconds := by
  unfold outcome at hover ⊢
  rcases r.resumed.conclude_cases r.readings r.later r.attempt
    (r.first.settle r.now r.attempt).pauses with hidle | ⟨pause, later, hpause, hpaused⟩
  · rw [hidle] at hover
    cases hover
  · refine ⟨(r.resumed.check r.later r.readings).2, h.resumed.check r.later r.readings, ?_⟩
    rw [hpaused, ← hpause]
    simp [AdmissionRound.requested]

theorem requested_le_of_idle (h : r.Ideal limits) (hidle : r.outcome.overloaded = false) :
    r.outcome.requested ≤ (r.attempt + 1) * limits.settleSpan := by
  rw [requested_outcome_of_idle hidle]
  exact AdmissionController.requested_settle_le h.first r.now r.attempt

theorem requested_le_of_overloaded (h : r.Ideal limits) (hover : r.outcome.overloaded = true) :
    r.outcome.requested ≤
      (r.attempt + 1) * limits.settleSpan + (r.attempt + 1) * limits.recoverSpan := by
  obtain ⟨checked, hchecked, hrequested⟩ := requested_outcome_of_overloaded h hover
  have hbefore := AdmissionController.requested_settle_le h.first r.now r.attempt
  have hafter :
      (checked.overloadPause r.attempt (checked.jitter checked.drawn)).nanoseconds ≤
        checked.limits.recoverSpan * AdmissionController.factor r.attempt :=
    AdmissionController.overloadPause_le hchecked.precision_eq (hchecked.jitter_unit checked.drawn)
  rw [hchecked.limits_eq] at hafter
  rw [hrequested]
  exact Nat.add_le_add hbefore (hafter.trans (AdmissionController.mul_factor_le _ _))

theorem le_requested_of_overloaded (h : r.Ideal limits) (hover : r.outcome.overloaded = true)
    (hattempt : r.attempt < AdmissionController.maxFactor) :
    (r.attempt + 1) * Duration.perMilli ≤ r.outcome.requested := by
  obtain ⟨checked, -, hrequested⟩ := requested_outcome_of_overloaded h hover
  have hafter : (r.attempt + 1) * Duration.perMilli ≤
      (checked.overloadPause r.attempt (checked.jitter checked.drawn)).nanoseconds :=
    AdmissionController.le_overloadPause hattempt
  rw [hrequested]
  exact hafter.trans (Nat.le_add_left _ _)

end SharedRound

/-! ## The rounds of a command -/

/-- How a command goes through rounds from an attempt on, given how many are left, and its answer:
it is admitted by the first round that is not overloaded, and rejected when none is left. -/
inductive AdmissionCourse (limits : AdmissionLimits) :
    Nat → Nat → List SharedRound → Except HookError Unit → Prop where
  | exhausted (attempt : Nat) :
      AdmissionCourse limits attempt 0 [] (.error (.admissionRejected limits.rounds))
  | admitted {r : SharedRound} {remaining : Nat} (hideal : r.Ideal limits)
      (hidle : r.outcome.overloaded = false) :
      AdmissionCourse limits r.attempt (remaining + 1) [r] (.ok ())
  | again {r : SharedRound} {remaining : Nat} {rounds : List SharedRound}
      {answer : Except HookError Unit} (hideal : r.Ideal limits)
      (hover : r.outcome.overloaded = true)
      (rest : AdmissionCourse limits (r.attempt + 1) remaining rounds answer) :
      AdmissionCourse limits r.attempt (remaining + 1) (r :: rounds) answer

/-- The sum of the first whole numbers. -/
def triangle (n : Nat) : Nat := n * (n + 1) / 2

theorem triangle_succ (n : Nat) : triangle (n + 1) = triangle n + (n + 1) := by
  have hsplit : (n + 1) * (n + 1 + 1) = n * (n + 1) + (n + 1) * 2 := by ring
  unfold triangle
  rw [hsplit, Nat.add_mul_div_right _ _ (by decide)]

namespace AdmissionCourse

open SharedRound

variable {limits : AdmissionLimits} {attempt remaining : Nat} {rounds : List SharedRound}
  {answer : Except HookError Unit}

theorem attempts_eq (h : AdmissionCourse limits attempt remaining rounds answer) :
    rounds.map SharedRound.attempt = List.range' attempt rounds.length := by
  induction h with
  | exhausted attempt => rfl
  | admitted _ _ => rfl
  | again _ _ _ ih => rw [List.map_cons, ih, List.length_cons, List.range'_succ]

/-- Either all the rounds are overloaded and the command is rejected, or it is admitted by the last
one. -/
theorem verdicts_cases (h : AdmissionCourse limits attempt remaining rounds answer) :
    (answer = .error (.admissionRejected limits.rounds) ∧
      verdicts rounds = List.replicate remaining true) ∨
    (answer = .ok () ∧ ∃ k < remaining, verdicts rounds = List.replicate k true ++ [false]) := by
  induction h with
  | exhausted attempt => exact .inl ⟨rfl, rfl⟩
  | @admitted r remaining _ hidle =>
    exact .inr ⟨rfl, 0, Nat.succ_pos _, verdicts_singleton hidle⟩
  | @again r remaining rounds answer _ hover _ ih =>
    rw [verdicts_cons hover]
    rcases ih with ⟨hanswer, hall⟩ | ⟨hanswer, k, hk, hall⟩
    · refine .inl ⟨hanswer, ?_⟩
      rw [hall, List.replicate_succ]
    · refine .inr ⟨hanswer, k + 1, Nat.succ_lt_succ hk, ?_⟩
      rw [hall, List.replicate_succ, List.cons_append]

/-- The pauses before the checks count for all rounds, those after them for the overloaded ones. -/
theorem requested_le (h : AdmissionCourse limits attempt remaining rounds answer) :
    requested rounds + (triangle attempt * limits.settleSpan +
        triangle attempt * limits.recoverSpan) ≤
      triangle (attempt + rounds.length) * limits.settleSpan +
        triangle (attempt + (verdicts rounds).count true) * limits.recoverSpan := by
  -- On the course; what the attempts before it would ask for is added on the left.
  induction h with
  | exhausted attempt => exact (Nat.zero_add _).le
  | @admitted r remaining hideal hidle =>
    have hround := requested_le_of_idle hideal hidle
    have hsum : requested [r] = r.outcome.requested := List.sum_singleton
    have hcount : (verdicts [r]).count true = 0 := by
      rw [verdicts_singleton hidle]
      rfl
    rw [hsum, hcount, List.length_singleton, triangle_succ, Nat.add_mul,
      Nat.add_zero r.attempt]
    omega
  | @again r remaining rounds answer hideal hover _ ih =>
    have hround := requested_le_of_overloaded hideal hover
    have hlength : r.attempt + (r :: rounds).length = r.attempt + 1 + rounds.length := by
      rw [List.length_cons]
      omega
    rw [triangle_succ, Nat.add_mul (triangle _), Nat.add_mul (triangle _)] at ih
    rw [requested_cons, hlength, add_count_verdicts_cons hover]
    omega

/-- The pause after each overloaded round takes a millisecond for each unit of its factor. -/
theorem le_requested (h : AdmissionCourse limits attempt remaining rounds answer)
    (hlast : attempt + remaining ≤ AdmissionController.maxFactor) :
    triangle (attempt + (verdicts rounds).count true) * Duration.perMilli ≤
      requested rounds + triangle attempt * Duration.perMilli := by
  induction h with
  | exhausted attempt => exact (Nat.zero_add _).ge
  | @admitted r remaining _ hidle =>
    have hcount : (verdicts [r]).count true = 0 := by
      rw [verdicts_singleton hidle]
      rfl
    rw [hcount]
    exact Nat.le_add_left _ _
  | @again r remaining rounds answer hideal hover _ ih =>
    have hround := le_requested_of_overloaded hideal hover (by omega)
    have hrest := ih (by omega)
    rw [triangle_succ, Nat.add_mul (triangle _)] at hrest
    rw [requested_cons, add_count_verdicts_cons hover]
    omega

end AdmissionCourse

/-- How the rounds of a command end and how long they ask to pause. -/
structure Latency (limits : AdmissionLimits) (rounds : List SharedRound)
    (answer : Except HookError Unit) : Prop where
  attempts : rounds.map SharedRound.attempt = List.range rounds.length
  length_le : rounds.length ≤ limits.rounds
  draws_le : ∀ r ∈ rounds, r.draws ≤ 2
  rejected_iff : answer = .error (.admissionRejected limits.rounds) ↔
    SharedRound.verdicts rounds = List.replicate limits.rounds true
  ends : (answer = .error (.admissionRejected limits.rounds) ∧
      SharedRound.verdicts rounds = List.replicate limits.rounds true ∧
      limits.rounds * (limits.rounds + 1) / 2 * Duration.perMilli ≤
        SharedRound.requested rounds ∧
      SharedRound.requested rounds ≤
        limits.rounds * (limits.rounds + 1) / 2 * (limits.settleSpan + limits.recoverSpan)) ∨
    (answer = .ok () ∧ ∃ k < limits.rounds,
      SharedRound.verdicts rounds = List.replicate k true ++ [false] ∧
      SharedRound.requested rounds ≤
        (k + 1) * (k + 2) / 2 * limits.settleSpan + k * (k + 1) / 2 * limits.recoverSpan)

theorem AdmissionCourse.latency {limits : AdmissionLimits} {rounds : List SharedRound}
    {answer : Except HookError Unit} (h : AdmissionCourse limits 0 limits.rounds rounds answer)
    (hlast : limits.rounds ≤ AdmissionController.maxFactor) : Latency limits rounds answer := by
  have hattempts : rounds.map SharedRound.attempt = List.range rounds.length := by
    rw [h.attempts_eq, List.range_eq_range']
  have hdraws : ∀ r ∈ rounds, r.draws ≤ 2 := fun r _ => r.draws_le
  have hlow := h.le_requested (by omega)
  have hhigh := h.requested_le
  have hlength : (SharedRound.verdicts rounds).length = rounds.length := List.length_map _
  simp only [triangle, Nat.zero_mul, Nat.zero_add, Nat.zero_div, Nat.add_zero] at hlow hhigh
  rcases h.verdicts_cases with ⟨hanswer, hall⟩ | ⟨hanswer, k, hk, hall⟩
  · rw [hall, List.length_replicate] at hlength
    rw [hall, List.count_replicate_self] at hlow hhigh
    rw [← hlength, ← Nat.mul_add] at hhigh
    exact ⟨hattempts, hlength.ge, hdraws, ⟨fun _ => hall, fun _ => hanswer⟩,
      .inl ⟨hanswer, hall, hlow, hhigh⟩⟩
  · have hcount : (List.replicate k true ++ [false]).count true = k := by simp
    have hrounds : rounds.length = k + 1 := by
      rw [← hlength, hall]
      simp
    rw [hall, hcount, hrounds] at hhigh
    refine ⟨hattempts, hrounds ▸ hk, hdraws, ⟨fun hrejected => ?_, fun hover => ?_⟩,
      .inr ⟨hanswer, k, hk, hall, hhigh⟩⟩
    · rw [hanswer] at hrejected
      cases hrejected
    · exact absurd (hall.symm.trans hover) (AdmissionController.append_false_ne_replicate k _)

/-! ## The rounds of a gateway -/

/-- A round that no other command comes in between. -/
def SharedRound.alone (surroundings : Surroundings) (c : AdmissionController)
    (now attempt : Nat) : SharedRound where
  attempt := attempt
  first := c
  now := now
  resumed := (c.settle now attempt).controller
  later := (c.settle now attempt).now
  readings := surroundings (c.settle now attempt).now

theorem SharedRound.outcome_alone (surroundings : Surroundings) (c : AdmissionController)
    (now attempt : Nat) :
    (SharedRound.alone surroundings c now attempt).outcome = c.round surroundings now attempt :=
  rfl

theorem SharedRound.ideal_alone {limits : AdmissionLimits} {c : AdmissionController}
    (h : c.Ideal limits) (surroundings : Surroundings) (now attempt : Nat) :
    (SharedRound.alone surroundings c now attempt).Ideal limits :=
  ⟨h, h.settle now attempt⟩

namespace AdmissionController

/-- The rounds of a command that is alone, from an attempt on and at most the given number. -/
def course (surroundings : Surroundings) (attempt : Nat) :
    Nat → AdmissionController → Nat → List SharedRound
  | 0, _, _ => []
  | remaining + 1, c, now =>
    let first := c.round surroundings now attempt
    if first.overloaded then
      SharedRound.alone surroundings c now attempt ::
        course surroundings (attempt + 1) remaining first.controller first.now
    else [SharedRound.alone surroundings c now attempt]

variable {limits : AdmissionLimits} {c : AdmissionController}

theorem map_outcome_course (surroundings : Surroundings) (attempt n : Nat)
    (c : AdmissionController) (now : Nat) :
    (course surroundings attempt n c now).map SharedRound.outcome =
      tries surroundings attempt n c now := by
  induction n generalizing attempt c now with
  | zero => rfl
  | succ n ih =>
    simp only [course, tries]
    split
    · rw [List.map_cons, ih, SharedRound.outcome_alone]
    · rfl

/-- The pauses of a decision are those of its rounds. -/
theorem pauses_roundsFrom (surroundings : Surroundings) (attempt n : Nat)
    (c : AdmissionController) (now : Nat) :
    (roundsFrom surroundings attempt n c now).pauses =
      (course surroundings attempt n c now).flatMap fun r => r.outcome.pauses := by
  induction n generalizing attempt c now with
  | zero => rfl
  | succ n ih =>
    simp only [course, roundsFrom]
    split
    · rw [List.flatMap_cons, ← ih, SharedRound.outcome_alone]
    · exact (List.append_nil _).symm

theorem course_of_ideal (h : c.Ideal limits) (surroundings : Surroundings) (attempt n now : Nat) :
    AdmissionCourse limits attempt n (course surroundings attempt n c now)
      (if (roundsFrom surroundings attempt n c now).overloaded then
        .error (.admissionRejected limits.rounds) else .ok ()) := by
  -- On the number of rounds left; each round leaves an ideal controller.
  induction n generalizing attempt c now with
  | zero => exact .exhausted attempt
  | succ n ih =>
    have hideal := SharedRound.ideal_alone h surroundings now attempt
    cases hfirst : (c.round surroundings now attempt).overloaded with
    | true =>
      have hnext : (c.round surroundings now attempt).controller.Ideal limits :=
        (h.settle now attempt).conclude _ _ _ _
      have hothers := ih hnext (attempt + 1) (c.round surroundings now attempt).now
      simp only [course, roundsFrom, hfirst, if_true]
      exact .again hideal hfirst hothers
    | false =>
      simp only [course, roundsFrom, hfirst, Bool.false_eq_true, if_false]
      exact .admitted hideal hfirst

end AdmissionController

namespace Gateway

/-- The rounds that a gateway decides on admission in. -/
def admissionRounds (g : Gateway) : List SharedRound :=
  AdmissionController.course g.surroundings 0 g.admission.limits.rounds g.admission g.machine.now

theorem course_admissionRounds {limits : AdmissionLimits} {g : Gateway}
    (h : g.admission.Ideal limits) :
    AdmissionCourse limits 0 limits.rounds g.admissionRounds g.judge.1 := by
  have hcourse := AdmissionController.course_of_ideal h g.surroundings 0 limits.rounds g.machine.now
  have hjudge : g.judge.1 =
      if (g.admission.judge g.surroundings g.machine.now).overloaded then
        .error (.admissionRejected g.admission.limits.rounds) else .ok () :=
    apply_ite Prod.fst _ _ _
  rw [hjudge, admissionRounds, AdmissionController.judge, h.limits_eq]
  exact hcourse

/-- Whatever others do with the controller in between, and however the load and the connections
change: a command goes through attempts from zero on, up to one that says that there is no overload
and no more than its limits allow, and it is rejected exactly when all of these say overloaded.  The
time that it asks to pause for is bounded by the number of attempts, the longest pause before a
check and the longest one after it.  A gateway whose command is alone goes through such rounds. -/
theorem admission_latency {limits : AdmissionLimits}
    (hattempts : limits.attempts ≤ AdmissionController.maxFactor) :
    (∀ rounds answer, AdmissionCourse limits 0 limits.rounds rounds answer →
      Latency limits rounds answer) ∧
    ∀ g : Gateway, g.admission.Ideal limits →
      AdmissionCourse limits 0 limits.rounds g.admissionRounds g.judge.1 ∧
      Latency limits g.admissionRounds g.judge.1 ∧
      g.admissionRounds.map SharedRound.outcome =
        AdmissionController.tries g.surroundings 0 limits.rounds g.admission g.machine.now ∧
      (g.admission.judge g.surroundings g.machine.now).pauses =
        g.admissionRounds.flatMap fun r => r.outcome.pauses := by
  have hlast : limits.rounds ≤ AdmissionController.maxFactor := Nat.max_le.2 ⟨hattempts, by decide⟩
  refine ⟨fun rounds answer hcourse => hcourse.latency hlast, fun g hideal => ?_⟩
  have hcourse := course_admissionRounds hideal
  refine ⟨hcourse, hcourse.latency hlast, ?_, ?_⟩
  · rw [admissionRounds, hideal.limits_eq]
    exact AdmissionController.map_outcome_course _ _ _ _ _
  · exact AdmissionController.pauses_roundsFrom _ _ _ _ _

/-- A second after the controller took a sample of three quarters with a limit of one half, in these
surroundings. -/
def pressed (surroundings : Surroundings) : Gateway where
  registry := ⟨⟨.noAction, .noAction⟩⟩
  admission := .heated
  surroundings := surroundings
  machine := { now := 1000000000 }
  handoff := ⟨"gateway", 65536⟩

/-- A load of three quarters up to an instant, and none from then on. -/
def loadUntil (finish : Nat) : Surroundings := fun now =>
  if now < finish then ⟨.finite false (mkRat 3 4), 0, 0⟩ else {}

/-- While a command pauses before its check, another one takes a sample that is within the limit. -/
def relieved : SharedRound where
  attempt := 0
  first := .heated
  now := 1000000000
  resumed := AdmissionController.heated.draw.2.record ⟨.zero, 1100000000⟩
  later := 1188000000
  readings := ⟨.finite false (mkRat 3 4), 0, 0⟩

/-- A command that is admitted by its second attempt, one that is rejected after both, and one that
is admitted at once by the sample of another. -/
theorem admission_latency_pressed :
    (pressed (loadUntil 5000000000)).judge.1 = .ok () ∧
      SharedRound.requested (pressed (loadUntil 5000000000)).admissionRounds = 8062500000 ∧
      Latency AdmissionController.heated.limits (pressed (loadUntil 5000000000)).admissionRounds
        (pressed (loadUntil 5000000000)).judge.1 ∧
      (pressed (loadUntil 50000000000)).judge.1 = .error (.admissionRejected 2) ∧
      SharedRound.requested (pressed (loadUntil 50000000000)).admissionRounds = 23062500000 ∧
      Latency AdmissionController.heated.limits (pressed (loadUntil 50000000000)).admissionRounds
        (pressed (loadUntil 50000000000)).judge.1 ∧
      Latency AdmissionController.heated.limits [relieved] (.ok ()) := by
  have hideal : AdmissionController.heated.Ideal AdmissionController.heated.limits := by
    refine ⟨rfl, rfl, fun _ => ?_⟩
    show 0 ≤ mkRat 1 2 ∧ mkRat 1 2 < 1
    decide
  have hattempts : AdmissionController.heated.limits.attempts ≤ AdmissionController.maxFactor := by
    decide
  have hidle : relieved.outcome.overloaded = false := by decide +kernel
  have hrelieved : AdmissionCourse AdmissionController.heated.limits 0 2 [relieved] (.ok ()) :=
    .admitted ⟨hideal, hideal.draw.limits_eq, hideal.draw.precision_eq, hideal.draw.jitter_unit⟩
      hidle
  obtain ⟨hshared, halone⟩ := admission_latency hattempts
  obtain ⟨-, hadmitted, -⟩ := halone (pressed (loadUntil 5000000000)) hideal
  obtain ⟨-, hrejected, -⟩ := halone (pressed (loadUntil 50000000000)) hideal
  refine ⟨?_, ?_, hadmitted, ?_, ?_, hrejected, hshared [relieved] (.ok ()) hrelieved⟩
  · decide +kernel
  · decide +kernel
  · decide +kernel
  · decide +kernel

end Gateway

end TransferGateway
