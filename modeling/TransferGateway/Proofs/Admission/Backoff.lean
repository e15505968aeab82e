import Mathlib.Algebra.Order.BigOperators.Group.List
import Mathlib.Data.List.Forall2
import TransferGateway.Proofs.Admission.Pauses
import TransferGateway.Proofs.Admission.Turns

/-!
# Backoff over attempts

A later attempt pauses longer and does nothing else differently.  The longer pause before its check
moves the clock further, but that changes neither the verdict nor the sampling: a round pauses first
only for a sample over the limit, and such a sample is never used again.
-/

namespace TransferGateway

/-- The time that a round asks to pause for, all in all. -/
def AdmissionRound.requested (round : AdmissionRound) : Nat :=
  (round.pauses.map Duration.nanoseconds).sum

/-- Pauses of which each is at most the one in the same place. -/
def NoLonger (shorter longer : List Duration) : Prop :=
  List.Forall₂ (fun p q => p.nanoseconds ≤ q.nanoseconds) shorter longer

/-- A round goes like another one, with pauses that are no shorter. -/
structure AdmissionRound.Outlasts (late early : AdmissionRound) : Prop where
  overloaded : late.overloaded = early.overloaded
  sampled : late.controller.samples.length = early.controller.samples.length
  drawn : late.controller.drawn = early.controller.drawn
  pauses : NoLonger early.pauses late.pauses
  requested : early.requested ≤ late.requested

theorem NoLonger.sum_le {shorter longer : List Duration} (h : NoLonger shorter longer) :
    (shorter.map Duration.nanoseconds).sum ≤ (longer.map Duration.nanoseconds).sum := by
  refine List.Forall₂.sum_le_sum ?_
  rw [List.forall₂_map_left_iff, List.forall₂_map_right_iff]
  exact h

namespace AdmissionController

variable {c : AdmissionController} {now a b : Nat} {readings : Readings}

/-- A sample that is awaited is over the limit, so it is not used again at any instant. -/
theorem reusesLast_of_awaited {sample : LoadSample} (h : c.awaited now = some sample)
    (later : Nat) :
    c.reusesLast later = false := by
  obtain ⟨-, hlast, hover, -⟩ := awaited_eq_some_iff.1 h
  have hexceeds : ¬ sample.load ≤ c.limits.cpuLimit := fun hle =>
    Binary64.not_lt_of_le hle hover
  simp [reusesLast, hlast, reuses, hexceeds]

theorem check_of_stale (hcpu : c.limits.cpuCheck = true) (hstale : c.reusesLast now = false) :
    c.check now readings =
      (decide (c.limits.cpuLimit < readings.load) || c.crowded readings,
        c.record ⟨readings.load, now⟩) := by
  simp only [check, hcpu, checkLoad, hstale, if_true, Bool.false_eq_true, if_false]
  rfl

/-- The check behind a pause takes a sample and says the same, however long the pause was. -/
theorem exists_check_of_awaited {sample : LoadSample} (h : c.awaited now = some sample)
    (readings : Readings) (later : Nat) :
    ∃ checked, c.draw.2.check later readings =
        (decide (c.limits.cpuLimit < readings.load) || c.crowded readings, checked) ∧
      checked.limits = c.limits ∧ checked.precision = c.precision ∧ checked.jitter = c.jitter ∧
      checked.drawn = c.drawn + 1 ∧ checked.samples.length = c.samples.length + 1 := by
  obtain ⟨hcpu, -⟩ := awaited_eq_some_iff.1 h
  have hcheck : c.draw.2.check later readings =
      (decide (c.limits.cpuLimit < readings.load) || c.crowded readings,
        c.draw.2.record ⟨readings.load, later⟩) :=
    check_of_stale hcpu (reusesLast_of_awaited h later)
  exact ⟨c.draw.2.record ⟨readings.load, later⟩, hcheck, rfl, rfl, rfl, rfl, rfl⟩

/-- Without a pause before their checks, rounds of two attempts differ in the pause behind them. -/
theorem outlasts_of_unawaited (h : c.awaited now = none) (hab : a ≤ b) :
    (c.round (fun _ => readings) now b).Outlasts (c.round (fun _ => readings) now a) := by
  rw [round_eq_conclude, round_eq_conclude, settle_of_awaited_eq_none h,
    settle_of_awaited_eq_none h]
  cases hcheck : c.check now readings with
  | mk overloaded checked =>
    cases overloaded with
    | false =>
      have hpauses : NoLonger [] [] := .nil
      simp only [conclude_of_idle hcheck]
      exact ⟨rfl, rfl, rfl, hpauses, hpauses.sum_le⟩
    | true =>
      have hpauses : NoLonger
          [checked.overloadPause a (checked.jitter checked.drawn)]
          [checked.overloadPause b (checked.jitter checked.drawn)] :=
        .cons (overloadPause_mono rfl rfl hab) .nil
      simp only [conclude_of_overloaded hcheck, List.nil_append]
      exact ⟨rfl, rfl, rfl, hpauses, hpauses.sum_le⟩

/-- With a pause before their checks, rounds of two attempts take their samples at two instants, but
the sample and the verdict are the same. -/
theorem outlasts_of_awaited {sample : LoadSample} (h : c.awaited now = some sample)
    (hexact : c.precision = .exact) (hjitter : UnitJitter c.jitter) (hab : a ≤ b) :
    (c.round (fun _ => readings) now b).Outlasts (c.round (fun _ => readings) now a) := by
  obtain ⟨hcpu, -, hover, -⟩ := awaited_eq_some_iff.1 h
  have hload : 0 ≤ sample.load.clampUnit :=
    Binary64.clampUnit_nonneg (AdmissionLimits.zero_lt_cpuLimit hcpu) hover
  have hfirst := recheckPause_mono hexact hload (hjitter c.drawn).1 hab
  rw [round_eq_conclude, round_eq_conclude, settle_of_awaited h, settle_of_awaited h]
  -- Only the instant of the check depends on the attempt.
  obtain ⟨early, hearly, hlimits, hprecision, hrandom, hdrawn, hsamples⟩ :=
    exists_check_of_awaited h readings
      (wakeUp now (c.recheckPause a sample.load (c.jitter c.drawn)))
  obtain ⟨late, hlate, hlimits', hprecision', hrandom', hdrawn', hsamples'⟩ :=
    exists_check_of_awaited h readings
      (wakeUp now (c.recheckPause b sample.load (c.jitter c.drawn)))
  have hsampled : late.samples.length = early.samples.length := hsamples'.trans hsamples.symm
  have hcount : late.drawn = early.drawn := hdrawn'.trans hdrawn.symm
  cases hverdict : (decide (c.limits.cpuLimit < readings.load) || c.crowded readings) with
  | false =>
    rw [hverdict] at hearly hlate
    have hpauses : NoLonger [c.recheckPause a sample.load (c.jitter c.drawn)]
        [c.recheckPause b sample.load (c.jitter c.drawn)] := .cons hfirst .nil
    simp only [conclude_of_idle hearly, conclude_of_idle hlate]
    exact ⟨rfl, hsampled, hcount, hpauses, hpauses.sum_le⟩
  | true =>
    rw [hverdict] at hearly hlate
    have hvalue : late.jitter late.drawn = early.jitter early.drawn := by
      rw [hrandom', hrandom, hcount]
    have hsecond : (early.overloadPause a (early.jitter early.drawn)).nanoseconds ≤
        (late.overloadPause b (late.jitter late.drawn)).nanoseconds := by
      rw [hvalue]
      exact overloadPause_mono (hlimits.trans hlimits'.symm) (hprecision.trans hprecision'.symm) hab
    have hpauses : NoLonger
        [c.recheckPause a sample.load (c.jitter c.drawn),
          early.overloadPause a (early.jitter early.drawn)]
        [c.recheckPause b sample.load (c.jitter c.drawn),
          late.overloadPause b (late.jitter late.drawn)] := .cons hfirst (.cons hsecond .nil)
    simp only [conclude_of_overloaded hearly, conclude_of_overloaded hlate, List.singleton_append]
    exact ⟨rfl, hsampled, congrArg (· + 1) hcount, hpauses, hpauses.sum_le⟩

/-- Without an overload a round that awaits no sample does not pause. -/
theorem pauses_of_idle (h : c.awaited now = none)
    (hidle : (c.round (fun _ => readings) now a).overloaded = false) :
    (c.round (fun _ => readings) now a).pauses = [] := by
  rw [round_eq_conclude, settle_of_awaited_eq_none h] at hidle ⊢
  cases hcheck : c.check now readings with
  | mk overloaded checked =>
    cases overloaded with
    | false => simp only [conclude_of_idle hcheck]
    | true => simp [conclude_of_overloaded hcheck] at hidle

/-- In the same surroundings a round of a later attempt says the same as one of an earlier attempt,
takes as many samples and draws as many random values, and none of its pauses is shorter.  Neither
pauses at all if they say that there is no overload and the last sample was not both over the limit
and no longer fresh. -/
theorem round_outlasts (hexact : c.precision = .exact) (hjitter : UnitJitter c.jitter) (hab : a ≤ b)
    (now : Nat) (readings : Readings) :
    (c.round (fun _ => readings) now b).Outlasts (c.round (fun _ => readings) now a) ∧
    ((c.round (fun _ => readings) now a).overloaded = false →
      (∀ sample, c.lastSample = some sample → ¬ (c.limits.cpuLimit < sample.load ∧
        c.limits.minRecheck.half.nanoseconds ≤ now - sample.takenAt)) →
      (c.round (fun _ => readings) now a).pauses = [] ∧
        (c.round (fun _ => readings) now b).pauses = []) := by
  have houtlasts : (c.round (fun _ => readings) now b).Outlasts
      (c.round (fun _ => readings) now a) := by
    cases hawaited : c.awaited now with
    | none => exact outlasts_of_unawaited hawaited hab
    | some sample => exact outlasts_of_awaited hawaited hexact hjitter hab
  refine ⟨houtlasts, fun hidle hcalm => ?_⟩
  have hawaited : c.awaited now = none := by
    cases hsome : c.awaited now with
    | none => rfl
    | some sample =>
      obtain ⟨-, hlast, hover, hstale⟩ := awaited_eq_some_iff.1 hsome
      exact absurd ⟨hover, hstale⟩ (hcalm sample hlast)
  exact ⟨pauses_of_idle hawaited hidle, pauses_of_idle hawaited (houtlasts.overloaded.trans hidle)⟩

/-- A controller whose last sample, three quarters with a limit of one half, was taken at the
start. -/
def heated : AdmissionController where
  limits := { cpuLimit := .finite false (mkRat 1 2) }
  samples := [⟨.finite false (mkRat 3 4), 0⟩]
  precision := .exact

/-- The first attempt against the last one there can be: while the load stays high both pause twice,
and when the sample is still fresh and the load has gone neither pauses. -/
theorem round_outlasts_heated :
    (heated.round (fun _ => ⟨.finite false (mkRat 3 4), 0, 0⟩) 1000000000 4294967295).Outlasts
        (heated.round (fun _ => ⟨.finite false (mkRat 3 4), 0, 0⟩) 1000000000 0) ∧
      (heated.round (fun _ => ⟨.finite false (mkRat 3 4), 0, 0⟩) 1000000000 0).pauses =
        [⟨187500000⟩, ⟨7500000000⟩] ∧
      (heated.round (fun _ => ⟨.finite false (mkRat 3 4), 0, 0⟩) 1000000000 4294967295).pauses =
        [⟨187500000 * 4294967295⟩, ⟨7500000000 * 4294967295⟩] ∧
      (heated.round (fun _ => ⟨.zero, 0, 0⟩) 0 0).overloaded = false ∧
      (heated.round (fun _ => ⟨.zero, 0, 0⟩) 0 0).pauses = [] ∧
      (heated.round (fun _ => ⟨.zero, 0, 0⟩) 0 4294967295).pauses = [] := by
  have hjitter : UnitJitter heated.jitter := fun _ => by
    show 0 ≤ mkRat 1 2 ∧ mkRat 1 2 < 1
    decide
  have hab : 0 ≤ 4294967295 := by decide
  have hidle : (heated.round (fun _ => ⟨.zero, 0, 0⟩) 0 0).overloaded = false := by decide +kernel
  have hfresh : ∀ sample, heated.lastSample = some sample →
      ¬ (heated.limits.cpuLimit < sample.load ∧
        heated.limits.minRecheck.half.nanoseconds ≤ 0 - sample.takenAt) := by
    rintro sample - ⟨-, hstale⟩
    rw [Nat.zero_sub] at hstale
    exact absurd hstale (by decide)
  have hhot := (round_outlasts (c := heated) rfl hjitter hab 1000000000
    ⟨.finite false (mkRat 3 4), 0, 0⟩).1
  have hcalm := (round_outlasts (c := heated) rfl hjitter hab 0 ⟨.zero, 0, 0⟩).2 hidle hfresh
  refine ⟨hhot, ?_, ?_, hidle, hcalm⟩
  · decide +kernel
  · decide +kernel

end AdmissionController

end TransferGateway
