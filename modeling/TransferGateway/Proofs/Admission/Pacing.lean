import Mathlib.Data.List.Chain
import Mathlib.Tactic.Common
import TransferGateway.Proofs.Admission.Turns

/-!
# The pace of load samples

However calls on one controller are interleaved, a sample within the limit is used for at least half
of the recheck interval before the next one is taken.  So the number of samples is bounded by the
time that has passed and the number of samples that were not within the limit.
-/

namespace TransferGateway

/-- How long a sample is used at least: not at all unless it is within the limit. -/
def AdmissionLimits.span (limits : AdmissionLimits) (sample : LoadSample) : Nat :=
  if sample.load ≤ limits.cpuLimit then limits.minRecheck.half.nanoseconds else 0

namespace AdmissionController

variable {limits : AdmissionLimits} {began now : Nat} {c : AdmissionController}

/-- The samples of a controller, the newest first, were taken between two instants, and each of them
was used for its span before the next one. -/
structure Paced (limits : AdmissionLimits) (began now : Nat) (c : AdmissionController) : Prop where
  limits_eq : c.limits = limits
  began_le : began ≤ now
  within : ∀ sample ∈ c.samples, began ≤ sample.takenAt ∧ sample.takenAt ≤ now
  spaced : c.samples.IsChain fun newer older =>
    older.takenAt + limits.span older ≤ newer.takenAt
  idle : limits.cpuCheck = false → c.samples = []

/-- A sample that is not used again has been used for its span. -/
theorem span_le_of_reuses {sample : LoadSample} (hstale : c.reuses now sample = false)
    (htaken : sample.takenAt ≤ now) : sample.takenAt + c.limits.span sample ≤ now := by
  unfold AdmissionLimits.span
  split
  next hload =>
    have hage : decide (now - sample.takenAt < c.baseDelay.nanoseconds) = false := by
      simpa [reuses, hload] using hstale
    have hpassed : c.limits.minRecheck.half.nanoseconds ≤ now - sample.takenAt :=
      Nat.not_lt.1 (of_decide_eq_false hage)
    omega
  next => omega

namespace Paced

/-- Pauses, draws and the passing of time take no sample. -/
theorem keep (h : Paced limits began now c) {after : AdmissionController} {later : Nat}
    (hlimits : after.limits = c.limits) (hsamples : after.samples = c.samples)
    (hlater : now ≤ later) : Paced limits began later after where
  limits_eq := hlimits.trans h.limits_eq
  began_le := Nat.le_trans h.began_le hlater
  within := by
    rw [hsamples]
    intro sample hsample
    have hbefore := h.within sample hsample
    omega
  spaced := hsamples ▸ h.spaced
  idle := hsamples ▸ h.idle

theorem check (h : Paced limits began now c) (readings : Readings) :
    Paced limits began now (c.check now readings).2 := by
  have hchecked := c.checked now readings
  generalize c.check now readings = outcome at hchecked ⊢
  cases hchecked with
  | unsampled _ => exact h
  | reused _ _ _ => exact h
  | sampled hcpu hstale =>
    refine ⟨h.limits_eq, h.began_le, ?_, ?_, ?_⟩
    · intro sample hsample
      rcases List.mem_cons.1 hsample with rfl | hold
      · exact ⟨h.began_le, Nat.le_refl now⟩
      · exact h.within sample hold
    · refine .cons h.spaced fun last hlast => ?_
      -- The last sample was not used again, so it was not within the limit or its time was over.
      have hunused : c.reuses now last = false := by
        simpa [reusesLast, lastSample, Option.mem_def.1 hlast] using hstale
      have htaken := (h.within last (List.mem_of_mem_head? hlast)).2
      rw [← h.limits_eq]
      exact span_le_of_reuses hunused htaken
    · intro hidle
      rw [h.limits_eq, hidle] at hcpu
      contradiction

theorem apart (h : Paced limits began now c) {newer older : List LoadSample}
    {next sample : LoadSample} (hsplit : c.samples = newer ++ next :: sample :: older)
    (hload : sample.load ≤ limits.cpuLimit) :
    sample.takenAt + limits.minRecheck.half.nanoseconds ≤ next.takenAt := by
  have hspan := List.isChain_iff_forall_rel_of_append_cons_cons.1 h.spaced hsplit
  rwa [AdmissionLimits.span, if_pos hload] at hspan

end Paced

/-- The spans of all samples but the newest have passed when that one is taken. -/
theorem countP_mul_le {newest : LoadSample} {older : List LoadSample}
    (hbegan : ∀ sample ∈ newest :: older, began ≤ sample.takenAt)
    (hspaced : (newest :: older).IsChain fun newer older =>
      older.takenAt + limits.span older ≤ newer.takenAt) :
    began + (older.countP fun sample => sample.load ≤ limits.cpuLimit) *
      limits.minRecheck.half.nanoseconds ≤ newest.takenAt := by
  induction older generalizing newest with
  | nil => simpa using hbegan newest List.mem_cons_self
  | cons sample rest ih =>
    obtain ⟨hspan, hrest⟩ := List.isChain_cons_cons.1 hspaced
    have hbefore := ih (fun old hold => hbegan old (List.mem_cons_of_mem _ hold)) hrest
    unfold AdmissionLimits.span at hspan
    rw [List.countP_cons]
    split at hspan
    next hload =>
      simp only [hload, decide_true, if_true, Nat.succ_mul]
      omega
    next hload =>
      simp only [hload, decide_false, Bool.false_eq_true, if_false, Nat.add_zero]
      omega

/-- There are as many samples as ones within the limit and other ones. -/
theorem length_eq_countP (limits : AdmissionLimits) (samples : List LoadSample) :
    samples.length = (samples.countP fun sample => sample.load ≤ limits.cpuLimit) +
      samples.countP fun sample => ¬ sample.load ≤ limits.cpuLimit := by
  have hsum := List.length_eq_countP_add_countP
    (fun sample : LoadSample => decide (sample.load ≤ limits.cpuLimit)) (l := samples)
  simpa using hsum

theorem Paced.length_le (h : Paced limits began now c)
    (hhalf : 0 < limits.minRecheck.half.nanoseconds) :
    c.samples.length ≤ 1 + (now - began) / limits.minRecheck.half.nanoseconds +
      c.samples.countP fun sample => ¬ sample.load ≤ limits.cpuLimit := by
  have hbegan : ∀ sample ∈ c.samples, began ≤ sample.takenAt := fun sample hsample =>
    (h.within sample hsample).1
  have hnow : ∀ sample ∈ c.samples, sample.takenAt ≤ now := fun sample hsample =>
    (h.within sample hsample).2
  have hspaced := h.spaced
  cases hsamples : c.samples with
  | nil => exact Nat.zero_le _
  | cons newest older =>
    rw [hsamples] at hbegan hnow hspaced
    have hpassed := countP_mul_le hbegan hspaced
    have hnewest := hnow newest List.mem_cons_self
    have hused : (older.countP fun sample => sample.load ≤ limits.cpuLimit) ≤
        (now - began) / limits.minRecheck.half.nanoseconds := by
      rw [Nat.le_div_iff_mul_le hhalf]
      omega
    have hsum := length_eq_countP limits (newest :: older)
    have hone : ((newest :: older).countP fun sample => sample.load ≤ limits.cpuLimit) ≤
        (older.countP fun sample => sample.load ≤ limits.cpuLimit) + 1 := by
      rw [List.countP_cons]
      split <;> omega
    omega

end AdmissionController

namespace Admission.Admissions

variable {ι : Type} [DecidableEq ι] {limits : AdmissionLimits} {began : Nat} {w : Admissions ι}

/-- Whatever happens next, the samples stay paced. -/
theorem paced_step {w' : Admissions ι} (h : w.controller.Paced limits began w.now)
    (hstep : Step w w') : w'.controller.Paced limits began w'.now := by
  cases hstep with
  | advance i =>
    have hprogress := (w.stages i).progress_turn w.controller w.now w.readings
    unfold advance
    generalize (w.stages i).turn w.controller w.now w.readings = turn at hprogress ⊢
    cases hprogress with
    | still _ hlimits hsamples => exact h.keep hlimits hsamples (Nat.le_refl _)
    | checks _ _ _ hlimits hsamples =>
      have hsame := w.controller.limits_check w.now w.readings
      exact (h.check w.readings).keep (hlimits.trans hsame.symm) hsamples (Nat.le_refl _)
  | pass hlater => exact h.keep rfl rfl hlater
  | change readings => exact h

theorem paced_of_reachable {jitter : Nat → Rat} {precision : Precision} {readings : Readings}
    {calls : ι → Call}
    (hreach : Reachable (start limits jitter precision began readings calls) w) :
    w.controller.Paced limits began w.now := by
  induction hreach with
  | refl => exact ⟨rfl, Nat.le_refl _, by simp [start], .nil, fun _ => rfl⟩
  | tail _ hstep ih => exact paced_step ih hstep

/-- In every interleaving of checks and rounds on one controller, with the clock and the
surroundings changing in any way in between: a sample within the limit is at least half of the
recheck interval older than the next one.  So if that is any time at all, there are no more samples
than the time since the start allows, one, and those that were not within the limit.  There is none
if the load is not checked. -/
theorem samples_paced {jitter : Nat → Rat} {precision : Precision} {readings : Readings}
    {calls : ι → Call}
    (hreach : Reachable (start limits jitter precision began readings calls) w) :
    (∀ newer next sample older, w.controller.samples = newer ++ next :: sample :: older →
      sample.load ≤ limits.cpuLimit →
      sample.takenAt + limits.minRecheck.half.nanoseconds ≤ next.takenAt) ∧
    (0 < limits.minRecheck.half.nanoseconds →
      w.controller.samples.length ≤
        1 + (w.now - began) / limits.minRecheck.half.nanoseconds +
          w.controller.samples.countP fun sample => ¬ sample.load ≤ limits.cpuLimit) ∧
    (limits.cpuCheck = false → w.controller.samples = []) := by
  have hpaced := paced_of_reachable hreach
  exact ⟨fun _ _ _ _ hsplit hload => hpaced.apart hsplit hload, hpaced.length_le, hpaced.idle⟩

/-- Half of the processors, and no limit of connections. -/
def loadOnly : AdmissionLimits := { cpuLimit := .finite false (mkRat 1 2) }

/-- The readings of a gateway that only its load matters for. -/
def quarters (n : Int) : Readings := ⟨.finite false (mkRat n 4), 0, 0⟩

/-- A gateway under little load, with a round of `2` and checks of all others. -/
def quiet : Admissions Nat :=
  start loadOnly (fun _ => mkRat 1 2) .exact 0 (quarters 1)
    fun i => if i = 2 then .round 0 else .check

/-- Samples at the start and, as soon as they may be taken, after half a second and after a second.
The load is too high for one moment in between, and so it is sampled twice in that moment. -/
def resampled : Admissions Nat :=
  let first := quiet.advance 0
  let later := { first with now := 500000000 }
  let peak := { later with readings := quarters 3 }.advance 1
  let calm := { peak with readings := quarters 1 }.advance 2
  { calm with now := 1000000000 }.advance 3

/-- Here the bound on the number of samples is reached. -/
theorem resampled_paced :
    Reachable quiet resampled ∧
      resampled.controller.samples = [⟨.finite false (mkRat 1 4), 1000000000⟩,
        ⟨.finite false (mkRat 1 4), 500000000⟩, ⟨.finite false (mkRat 3 4), 500000000⟩,
        ⟨.finite false (mkRat 1 4), 0⟩] ∧
      500000000 + loadOnly.minRecheck.half.nanoseconds ≤ 1000000000 ∧
      resampled.controller.samples.length ≤ 1 + (1000000000 - 0) / 500000000 +
        resampled.controller.samples.countP fun sample => ¬ sample.load ≤ loadOnly.cpuLimit := by
  have hreach : Reachable quiet resampled := by
    unfold resampled
    refine .tail ?_ (.advance _ _)
    refine .tail ?_ (.pass _ (by decide +kernel))
    refine .tail ?_ (.advance _ _)
    refine .tail ?_ (.change _ _)
    refine .tail ?_ (.advance _ _)
    refine .tail ?_ (.change _ _)
    refine .tail ?_ (.pass _ (by decide +kernel))
    exact .tail .refl (.advance _ _)
  have hsamples : resampled.controller.samples = [⟨.finite false (mkRat 1 4), 1000000000⟩,
      ⟨.finite false (mkRat 1 4), 500000000⟩, ⟨.finite false (mkRat 3 4), 500000000⟩,
      ⟨.finite false (mkRat 1 4), 0⟩] := by decide +kernel
  obtain ⟨hapart, hcount, -⟩ := samples_paced hreach
  exact ⟨hreach, hsamples, hapart [] _ _ _ hsamples (by decide +kernel),
    hcount (by decide +kernel)⟩

end Admission.Admissions

end TransferGateway
