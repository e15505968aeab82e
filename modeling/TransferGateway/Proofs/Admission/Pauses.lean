import TransferGateway.Admission.Controller
import TransferGateway.Proofs.Duration.Scale

/-!
# The pauses of a round

How long the two pauses of a round can be, with exact products: both grow with the attempt, and both
are bounded by a span of the limits times the factor of the attempt.
-/

namespace TransferGateway

namespace Binary64

theorem clampUnit_le_one (x : Binary64) : x.clampUnit ≤ 1 := by
  cases x with
  | nan => decide
  | infinity negative => cases negative <;> decide
  | finite negative q =>
    cases negative with
    | true =>
      show (0 : Rat) ≤ 1
      decide
    | false =>
      show (if 1 < q then 1 else q) ≤ 1
      split
      next => exact le_refl 1
      next h => exact not_lt.1 h

/-- A load over a limit that is positive stays nonnegative in the unit interval. -/
theorem clampUnit_nonneg {limit x : Binary64} (hlimit : zero < limit) (h : limit < x) :
    0 ≤ x.clampUnit := by
  change zero.lt limit = true at hlimit
  change limit.lt x = true at h
  cases x with
  | nan => exact le_refl 0
  | infinity negative => cases negative <;> decide
  | finite negative q =>
    cases negative with
    | true => exact le_refl 0
    | false =>
      have hq : 0 < q := by
        cases limit with
        | nan => cases hlimit
        | infinity side => cases side <;> simp [lt, zero] at hlimit h
        | finite sign p => exact lt_trans (of_decide_eq_true hlimit) (of_decide_eq_true h)
      show 0 ≤ if 1 < q then 1 else q
      split
      next => decide
      next => exact le_of_lt hq

end Binary64

namespace AdmissionLimits

/-- The longest pause before a check, for each unit of the factor. -/
def settleSpan (limits : AdmissionLimits) : Nat := limits.minRecheck.half.nanoseconds

/-- The longest pause after an overload, for each unit of the factor. -/
def recoverSpan (limits : AdmissionLimits) : Nat :=
  max limits.connectionTimeout.half.nanoseconds Duration.perMilli

theorem zero_lt_cpuLimit {limits : AdmissionLimits} (h : limits.cpuCheck = true) :
    Binary64.zero < limits.cpuLimit :=
  of_decide_eq_true (Bool.and_eq_true_iff.1 h).1

end AdmissionLimits

namespace AdmissionController

/-- The random values lie between zero and one. -/
def UnitJitter (jitter : Nat → Rat) : Prop := ∀ i, 0 ≤ jitter i ∧ jitter i < 1

theorem factor_mono {a b : Nat} (h : a ≤ b) : factor a ≤ factor b := by
  unfold factor
  omega

theorem factor_le (attempt : Nat) : factor attempt ≤ attempt + 1 :=
  Nat.min_le_left _ _

theorem factor_le_maxFactor (attempt : Nat) : factor attempt ≤ maxFactor := Nat.min_le_right _ _

theorem mul_factor_le (n attempt : Nat) : n * factor attempt ≤ (attempt + 1) * n := by
  rw [Nat.mul_comm]
  exact Nat.mul_le_mul_right _ (factor_le attempt)

theorem factor_eq {attempt : Nat} (h : attempt < maxFactor) : factor attempt = attempt + 1 :=
  Nat.min_eq_left h

variable {c : AdmissionController} {now attempt : Nat}

/-- A sample is awaited if it is the last one, over the limit and no longer fresh. -/
theorem awaited_eq_some_iff {sample : LoadSample} :
    c.awaited now = some sample ↔ c.limits.cpuCheck = true ∧ c.lastSample = some sample ∧
      c.limits.cpuLimit < sample.load ∧
      c.limits.minRecheck.half.nanoseconds ≤ now - sample.takenAt := by
  unfold awaited baseDelay
  cases hcpu : c.limits.cpuCheck with
  | false => simp
  | true =>
    cases hlast : c.lastSample with
    | none => simp
    | some last =>
      simp only [if_true, true_and, Option.some.injEq, Option.ite_none_right_eq_some]
      constructor
      · rintro ⟨hover, rfl⟩
        exact ⟨rfl, hover⟩
      · rintro ⟨rfl, hover⟩
        exact ⟨hover, rfl⟩

/-! ## The pause before a check -/

section

variable {load : Binary64} {random : Rat}

theorem recheckPause_eq (hexact : c.precision = .exact) :
    c.recheckPause attempt load random =
      c.limits.minRecheck.half.scale .exact
        (load.clampUnit * (factor attempt : Rat) * random) := by
  unfold recheckPause baseDelay
  rw [hexact]
  rfl

theorem recheckPause_mono (hexact : c.precision = .exact) (hload : 0 ≤ load.clampUnit)
    (hrandom : 0 ≤ random) {a b : Nat} (h : a ≤ b) :
    (c.recheckPause a load random).nanoseconds ≤
      (c.recheckPause b load random).nanoseconds := by
  have hfactor : (factor a : Rat) ≤ factor b := by exact_mod_cast factor_mono h
  have hnonneg : (0 : Rat) ≤ factor a := by positivity
  rw [recheckPause_eq hexact, recheckPause_eq hexact]
  refine Duration.scale_mono _ (mul_nonneg (mul_nonneg hload hnonneg) hrandom) ?_
  exact mul_le_mul_of_nonneg_right (mul_le_mul_of_nonneg_left hfactor hload) hrandom

theorem recheckPause_le (hexact : c.precision = .exact) (hload : 0 ≤ load.clampUnit)
    (hrandom : 0 ≤ random ∧ random < 1) :
    (c.recheckPause attempt load random).nanoseconds ≤
      c.limits.settleSpan * factor attempt := by
  have hnonneg : (0 : Rat) ≤ factor attempt := by positivity
  have hproduct : load.clampUnit * (factor attempt : Rat) * random ≤ factor attempt := by
    have hclamped : load.clampUnit * (factor attempt : Rat) ≤ factor attempt :=
      mul_le_of_le_one_left hnonneg load.clampUnit_le_one
    exact (mul_le_of_le_one_right (mul_nonneg hload hnonneg) hrandom.2.le).trans hclamped
  rw [recheckPause_eq hexact]
  exact Duration.scale_le_mul _ (mul_nonneg (mul_nonneg hload hnonneg) hrandom.1) hproduct

end

/-! ## The pause after an overload -/

section

variable {random : Rat}

theorem nanoseconds_overloadPause :
    (c.overloadPause attempt random).nanoseconds =
      max (c.limits.connectionTimeout.half.scale c.precision random).nanoseconds
        Duration.perMilli * factor attempt := by
  have hmilli : minOverloadPause.nanoseconds = Duration.perMilli := rfl
  simp only [overloadPause, Duration.times]
  rw [Duration.nanoseconds_longer, hmilli]

theorem overloadPause_mono {c' : AdmissionController} (hlimits : c.limits = c'.limits)
    (hprecision : c.precision = c'.precision) {a b : Nat} (h : a ≤ b) :
    (c.overloadPause a random).nanoseconds ≤ (c'.overloadPause b random).nanoseconds := by
  rw [nanoseconds_overloadPause, nanoseconds_overloadPause, hlimits, hprecision]
  exact Nat.mul_le_mul_left _ (factor_mono h)

theorem le_overloadPause (h : attempt < maxFactor) :
    (attempt + 1) * Duration.perMilli ≤ (c.overloadPause attempt random).nanoseconds := by
  rw [nanoseconds_overloadPause, factor_eq h, Nat.mul_comm]
  exact Nat.mul_le_mul_right _ (Nat.le_max_right _ _)

/-- The random part of the pause is no longer than half the timeout. -/
theorem nanoseconds_spread_le (hrandom : 0 ≤ random ∧ random < 1) :
    (c.limits.connectionTimeout.half.scale .exact random).nanoseconds ≤
      c.limits.connectionTimeout.half.nanoseconds := by
  have hone : random ≤ ((1 : Nat) : Rat) := by exact_mod_cast hrandom.2.le
  have hscale := c.limits.connectionTimeout.half.scale_le_mul hrandom.1 hone
  rwa [Nat.mul_one] at hscale

theorem overloadPause_le (hexact : c.precision = .exact) (hrandom : 0 ≤ random ∧ random < 1) :
    (c.overloadPause attempt random).nanoseconds ≤ c.limits.recoverSpan * factor attempt := by
  rw [nanoseconds_overloadPause, hexact]
  exact Nat.mul_le_mul_right _ (max_le_max_right _ (nanoseconds_spread_le hrandom))

end

/-! ## Rounds in two parts -/

/-- What is left of a round behind its first pause: the check, and the pause after it if that says
overloaded. -/
def conclude (c : AdmissionController) (readings : Readings) (now attempt : Nat)
    (pauses : List Duration) : AdmissionRound :=
  let (overloaded, checked) := c.check now readings
  if overloaded then
    let (random, drawn) := checked.draw
    let pause := drawn.overloadPause attempt random
    ⟨true, drawn, pauses ++ [pause], wakeUp now pause⟩
  else ⟨false, checked, pauses, now⟩

theorem round_eq_conclude (c : AdmissionController) (surroundings : Surroundings)
    (now attempt : Nat) :
    c.round surroundings now attempt =
      (c.settle now attempt).controller.conclude (surroundings (c.settle now attempt).now)
        (c.settle now attempt).now attempt (c.settle now attempt).pauses :=
  rfl

theorem settle_of_awaited_eq_none (h : c.awaited now = none) :
    c.settle now attempt = ⟨false, c, [], now⟩ := by
  simp only [settle, h]

theorem settle_of_awaited {sample : LoadSample} (h : c.awaited now = some sample) :
    c.settle now attempt =
      ⟨false, c.draw.2, [c.recheckPause attempt sample.load (c.jitter c.drawn)],
        wakeUp now (c.recheckPause attempt sample.load (c.jitter c.drawn))⟩ := by
  simp only [settle, h]
  rfl

theorem conclude_of_overloaded {checked : AdmissionController} {readings : Readings}
    {pauses : List Duration} (h : c.check now readings = (true, checked)) :
    c.conclude readings now attempt pauses =
      ⟨true, checked.draw.2,
        pauses ++ [checked.overloadPause attempt (checked.jitter checked.drawn)],
        wakeUp now (checked.overloadPause attempt (checked.jitter checked.drawn))⟩ := by
  simp only [conclude, h]
  rfl

theorem conclude_of_idle {checked : AdmissionController} {readings : Readings}
    {pauses : List Duration} (h : c.check now readings = (false, checked)) :
    c.conclude readings now attempt pauses = ⟨false, checked, pauses, now⟩ := by
  simp only [conclude, h]
  rfl

end AdmissionController

end TransferGateway
