import TransferGateway.Proofs.Admission.Turns

/-!
# Exact verdicts

However many calls share a controller and whatever happens between their turns, a check that says
"not overloaded" or "overloaded" is right about the instant at which it is made.  What carries this
is an account of the samples: those that the controller keeps are those that the checks took, in
order, and none of them lies in the future.
-/

namespace TransferGateway.Admission

namespace Verdict

variable {ι : Type}

/-- A verdict that is right about its instant.  Without an overload the last sample is within its
limit, and new or fresh, and both counts are within theirs; with an overload a sample taken for this
verdict or one of the counts is over its limit. -/
structure Exact (limits : AdmissionLimits) (v : Verdict ι) : Prop where
  sampled : v.taken = [] ∨ v.taken = [⟨v.readings.load, v.now⟩]
  kept : v.after.samples = v.taken ++ v.before.samples
  idle : v.overloaded = false → limits.cpuCheck = true →
    ∃ sample, v.after.lastSample = some sample ∧ ¬ limits.cpuLimit < sample.load ∧
      sample.takenAt ≤ v.now ∧
      (sample.takenAt = v.now ∨ v.now - sample.takenAt < limits.minRecheck.half.nanoseconds)
  uncrowded : v.overloaded = false → limits.connectionCheck = true →
    v.readings.network ≤ limits.connectionLimit ∧ v.readings.sessions ≤ limits.connectionLimit
  excess : v.overloaded = true →
    (limits.cpuCheck = true ∧ v.taken = [⟨v.readings.load, v.now⟩] ∧
      limits.cpuLimit < v.readings.load) ∨
    (limits.connectionCheck = true ∧ (limits.connectionLimit < v.readings.network ∨
      limits.connectionLimit < v.readings.sessions))

theorem taken_of_samples {v : Verdict ι} {added : List LoadSample}
    (h : v.after.samples = added ++ v.before.samples) : v.taken = added := by
  have hlength : (added ++ v.before.samples).length - v.before.samples.length = added.length := by
    rw [List.length_append, Nat.add_sub_cancel]
  rw [taken, h, hlength, List.take_left]

/-- A verdict that keeps the samples as they are, on a last sample that is good enough for it. -/
theorem exact_of_kept {limits : AdmissionLimits} {v : Verdict ι}
    (hkept : v.after.samples = v.before.samples)
    (hidle : limits.cpuCheck = true → ∃ sample, v.after.lastSample = some sample ∧
      ¬ limits.cpuLimit < sample.load ∧ sample.takenAt ≤ v.now ∧
      (sample.takenAt = v.now ∨ v.now - sample.takenAt < limits.minRecheck.half.nanoseconds))
    (hcrowd : v.overloaded = v.before.crowded v.readings) (hlimits : v.before.limits = limits) :
    v.Exact limits := by
  have htaken : v.taken = [] := taken_of_samples (by simpa using hkept)
  constructor
  · exact .inl htaken
  · rw [htaken, hkept, List.nil_append]
  · exact fun _ hcpu => hidle hcpu
  · intro hover hcheck
    rw [hcrowd, AdmissionController.crowded_eq_false_iff, hlimits] at hover
    exact hover hcheck
  · intro hover
    rw [hcrowd, AdmissionController.crowded_eq_true_iff, hlimits] at hover
    exact .inr hover

/-- The verdict of a check is exact, if no sample lies in the future. -/
theorem exact_of_check (caller : ι) {c after : AdmissionController} {now : Nat}
    {readings : Readings} (hpast : ∀ sample ∈ c.samples, sample.takenAt ≤ now)
    (hsamples : after.samples = (c.check now readings).2.samples) :
    Exact c.limits ⟨caller, now, readings, c, after, (c.check now readings).1⟩ := by
  have hchecked := c.checked now readings
  generalize c.check now readings = outcome at hsamples hchecked ⊢
  cases hchecked with
  | unsampled hcpu =>
    have hidle : c.limits.cpuCheck ≠ true := by simp [hcpu]
    exact exact_of_kept hsamples (fun h => absurd h hidle) rfl rfl
  | reused hcpu hlast hfresh =>
    rename_i sample
    have hreuse : now - sample.takenAt < c.baseDelay.nanoseconds ∧
        sample.load ≤ c.limits.cpuLimit := by
      simpa [AdmissionController.reuses] using hfresh
    have hafter : after.lastSample = some sample := by
      rw [AdmissionController.lastSample, hsamples]
      exact hlast
    have htaken : sample.takenAt ≤ now := hpast sample (List.mem_of_head? hlast)
    have hidle : c.limits.cpuCheck = true → ∃ sample, after.lastSample = some sample ∧
        ¬ c.limits.cpuLimit < sample.load ∧ sample.takenAt ≤ now ∧
        (sample.takenAt = now ∨ now - sample.takenAt < c.limits.minRecheck.half.nanoseconds) :=
      fun _ => ⟨sample, hafter, Binary64.not_lt_of_le hreuse.2, htaken, .inr hreuse.1⟩
    exact exact_of_kept hsamples hidle rfl rfl
  | sampled hcpu _ =>
    have htaken : taken (⟨caller, now, readings, c, after,
        decide (c.limits.cpuLimit < readings.load) || c.crowded readings⟩ : Verdict ι) =
          [⟨readings.load, now⟩] := taken_of_samples hsamples
    constructor
    · exact .inr htaken
    · rw [htaken]
      exact hsamples
    · intro hover _
      have hload : ¬ c.limits.cpuLimit < readings.load := by
        have hboth := Bool.or_eq_false_iff.1 hover
        simpa using hboth.1
      have hlast : after.lastSample = some ⟨readings.load, now⟩ := by
        rw [AdmissionController.lastSample, hsamples]
        rfl
      exact ⟨_, hlast, hload, Nat.le_refl now, .inl rfl⟩
    · intro hover hcheck
      have hboth := Bool.or_eq_false_iff.1 hover
      exact AdmissionController.crowded_eq_false_iff.1 hboth.2 hcheck
    · intro hover
      rcases Bool.or_eq_true_iff.1 hover with hload | hcrowd
      · exact .inl ⟨hcpu, htaken, of_decide_eq_true hload⟩
      · exact .inr (AdmissionController.crowded_eq_true_iff.1 hcrowd)

end Verdict

/-- The samples that some checks took, the oldest first. -/
def sampled {ι : Type} (verdicts : List (Verdict ι)) : List LoadSample :=
  verdicts.flatMap Verdict.taken

theorem sampled_concat {ι : Type} (verdicts : List (Verdict ι)) (v : Verdict ι) :
    sampled (verdicts ++ [v]) = sampled verdicts ++ v.taken := by
  rw [sampled, List.flatMap_append, List.flatMap_singleton, sampled]

theorem timely_append {samples added : List LoadSample} {load : Binary64} {now : Nat}
    (hordered : samples.Pairwise fun a b => a.takenAt ≤ b.takenAt)
    (hpast : ∀ sample ∈ samples, sample.takenAt ≤ now)
    (hadded : added = [] ∨ added = [⟨load, now⟩]) :
    ((samples ++ added).Pairwise fun a b => a.takenAt ≤ b.takenAt) ∧
      ∀ sample ∈ samples ++ added, sample.takenAt ≤ now := by
  rcases hadded with rfl | rfl
  · rw [List.append_nil]
    exact ⟨hordered, hpast⟩
  · constructor
    · rw [List.pairwise_append]
      refine ⟨hordered, List.pairwise_singleton _ _, ?_⟩
      intro old hold sample hsample
      obtain rfl := List.mem_singleton.1 hsample
      exact hpast old hold
    · intro sample hsample
      rcases List.mem_append.1 hsample with hold | hnew
      · exact hpast sample hold
      · obtain rfl := List.mem_singleton.1 hnew
        exact Nat.le_refl now

/-- Every one of these verdicts is exact, and the last sample after it is the last one taken up to
it. -/
def Faithful {ι : Type} (limits : AdmissionLimits) (verdicts : List (Verdict ι)) : Prop :=
  ∀ earlier v later, verdicts = earlier ++ v :: later →
    v.Exact limits ∧ v.after.lastSample = (sampled (earlier ++ [v])).getLast?

theorem Faithful.concat {ι : Type} {limits : AdmissionLimits} {verdicts : List (Verdict ι)}
    {v : Verdict ι} (h : Faithful limits verdicts) (hexact : v.Exact limits)
    (hlast : v.after.lastSample = (sampled (verdicts ++ [v])).getLast?) :
    Faithful limits (verdicts ++ [v]) := by
  intro earlier u later hsplit
  rcases List.eq_nil_or_concat later with rfl | ⟨rest, last, rfl⟩
  · obtain ⟨rfl, hv⟩ := List.append_inj' hsplit rfl
    obtain rfl : v = u := List.head_eq_of_cons_eq hv
    exact ⟨hexact, hlast⟩
  · rw [List.concat_eq_append, ← List.cons_append, ← List.append_assoc] at hsplit
    exact h earlier u rest (List.append_inj' hsplit rfl).1

namespace Admissions

variable {ι : Type} [DecidableEq ι] {limits : AdmissionLimits} {w : Admissions ι}

/-- What is true between any two turns. -/
structure Sound (limits : AdmissionLimits) (w : Admissions ι) : Prop where
  limits_eq : w.controller.limits = limits
  samples_eq : w.controller.samples = (sampled w.verdicts).reverse
  past : ∀ sample ∈ sampled w.verdicts, sample.takenAt ≤ w.now
  ordered : (sampled w.verdicts).Pairwise fun a b => a.takenAt ≤ b.takenAt
  faithful : Faithful limits w.verdicts
  told : ∀ i, w.toldTo i = (w.stages i).verdict?.toList

namespace Sound

theorem start (limits : AdmissionLimits) (jitter : Nat → Rat) (precision : Precision) (now : Nat)
    (readings : Readings) (calls : ι → Call) :
    Sound limits (Admissions.start limits jitter precision now readings calls) where
  limits_eq := rfl
  samples_eq := rfl
  past := fun _ h => absurd h List.not_mem_nil
  ordered := List.Pairwise.nil
  faithful := fun earlier v later h => absurd h.symm (by simp [Admissions.start])
  told := fun _ => rfl

/-- A turn that makes no check keeps the account. -/
theorem still (h : Sound limits w) {w' : Admissions ι}
    (hlimits : w'.controller.limits = w.controller.limits)
    (hsamples : w'.controller.samples = w.controller.samples) (hnow : w.now ≤ w'.now)
    (hverdicts : w'.verdicts = w.verdicts)
    (hstages : ∀ i, (w'.stages i).verdict? = (w.stages i).verdict?) : Sound limits w' where
  limits_eq := hlimits.trans h.limits_eq
  samples_eq := by rw [hsamples, hverdicts, h.samples_eq]
  past := by
    intro sample hsample
    rw [hverdicts] at hsample
    exact Nat.le_trans (h.past sample hsample) hnow
  ordered := hverdicts ▸ h.ordered
  faithful := hverdicts ▸ h.faithful
  told := by
    intro i
    rw [hstages, ← h.told, toldTo, toldTo, hverdicts]

/-- A check adds its verdict, which is exact, to the account. -/
theorem checks (h : Sound limits w) {i : ι} {next : Stage} {after : AdmissionController}
    {overloaded : Bool} (hunchecked : (w.stages i).verdict? = none)
    (hcheck : (w.controller.check w.now w.readings).1 = overloaded)
    (hstage : next.verdict? = some overloaded) (hlimits : after.limits = w.controller.limits)
    (hsamples : after.samples = (w.controller.check w.now w.readings).2.samples) :
    Sound limits
      { w with
        controller := after
        stages := fun j => if j = i then next else w.stages j
        verdicts := w.verdicts ++ [⟨i, w.now, w.readings, w.controller, after, overloaded⟩] } := by
  subst hcheck
  -- From here on only what is exact about the verdict is needed, and that its sample is taken now.
  generalize hv : (⟨i, w.now, w.readings, w.controller, after,
    (w.controller.check w.now w.readings).1⟩ : Verdict ι) = v
  have hpast : ∀ sample ∈ w.controller.samples, sample.takenAt ≤ w.now := by
    intro sample hsample
    rw [h.samples_eq, List.mem_reverse] at hsample
    exact h.past sample hsample
  have hexact : v.Exact limits := by
    rw [← hv, ← h.limits_eq]
    exact Verdict.exact_of_check i hpast hsamples
  have htaken : v.taken = [] ∨ v.taken = [⟨w.readings.load, w.now⟩] := by
    have h := hexact.sampled
    rwa [← hv] at h ⊢
  have htimely := timely_append h.ordered h.past htaken
  rw [← sampled_concat] at htimely
  have hafter : after.samples = (sampled (w.verdicts ++ [v])).reverse := by
    have hkept : after.samples = v.taken ++ w.controller.samples := by
      have h := hexact.kept
      rwa [← hv] at h ⊢
    rw [hkept, h.samples_eq, sampled_concat, List.reverse_append]
    rcases htaken with hnone | hone
    · rw [hnone, List.reverse_nil]
    · rw [hone, List.reverse_singleton]
  constructor
  · exact hlimits.trans h.limits_eq
  · exact hafter
  · exact htimely.2
  · exact htimely.1
  · refine h.faithful.concat hexact ?_
    have hlast : v.after.lastSample = after.samples.head? := by
      rw [← hv]
      rfl
    rw [hlast, hafter, List.head?_reverse]
  · intro j
    have hcaller : v.caller = i := by rw [← hv]
    have hover : v.overloaded = (w.controller.check w.now w.readings).1 := by rw [← hv]
    have htold := h.told j
    simp only [toldTo] at htold ⊢
    by_cases hj : j = i
    · subst hj
      rw [hunchecked] at htold
      simp [hcaller, hover, hstage, htold]
    · have hne : v.caller ≠ j := by
        rw [hcaller]
        exact fun h => hj h.symm
      simp [hne, hj, htold]

/-- Whatever happens next, the account stays sound. -/
theorem step {w' : Admissions ι} (h : Sound limits w) (hstep : Step w w') : Sound limits w' := by
  cases hstep with
  | advance i =>
    have hprogress := (w.stages i).progress_turn w.controller w.now w.readings
    unfold advance
    generalize (w.stages i).turn w.controller w.now w.readings = turn at hprogress ⊢
    cases hprogress with
    | still hstage hlimits hsamples =>
      refine h.still hlimits hsamples (Nat.le_refl _) (List.append_nil _) ?_
      intro j
      by_cases hj : j = i
      · subst hj
        simpa using hstage
      · simp [hj]
    | checks hunchecked hcheck hstage hlimits hsamples =>
      exact h.checks hunchecked hcheck hstage hlimits hsamples
  | pass hlater => exact h.still rfl rfl hlater rfl fun _ => rfl
  | change readings => exact h.still rfl rfl (Nat.le_refl _) rfl fun _ => rfl

theorem of_reachable {w' : Admissions ι} (h : Sound limits w) (hreach : Reachable w w') :
    Sound limits w' := by
  induction hreach with
  | refl => exact h
  | tail _ hstep ih => exact ih.step hstep

end Sound

/-- In every interleaving of checks and rounds on one controller, with the clock and the
surroundings changing in any way in between, every check that is made is exact.  A call is told what
its only check said, and the last sample is always the last one taken; none is older than those
before it or lies in the future. -/
theorem verdicts_exact {jitter : Nat → Rat} {precision : Precision} {now : Nat}
    {readings : Readings} {calls : ι → Call}
    (hreach : Reachable (Admissions.start limits jitter precision now readings calls) w) :
    (∀ earlier v later, w.verdicts = earlier ++ v :: later →
      v.Exact limits ∧ v.after.lastSample = (sampled (earlier ++ [v])).getLast?) ∧
    (∀ i, w.toldTo i = (w.stages i).verdict?.toList) ∧
    w.controller.lastSample = (sampled w.verdicts).getLast? ∧
    ((sampled w.verdicts).Pairwise fun a b => a.takenAt ≤ b.takenAt) ∧
    ∀ sample ∈ sampled w.verdicts, sample.takenAt ≤ w.now := by
  have hstart := Sound.start limits jitter precision now readings calls
  have h : Sound limits w := hstart.of_reachable hreach
  have hlast : w.controller.lastSample = (sampled w.verdicts).getLast? := by
    rw [AdmissionController.lastSample, h.samples_eq, List.head?_reverse]
  exact ⟨h.faithful, h.told, hlast, h.ordered, h.past⟩

/-- Half of the processors and ten connections. -/
def halfLoad : AdmissionLimits := { cpuLimit := .finite false (mkRat 1 2), connectionLimit := 10 }

/-- A busy gateway with two calls: a check of `false` and a round of `true`. -/
def busy : Admissions Bool :=
  Admissions.start halfLoad (fun _ => mkRat 1 2) .exact 0 ⟨.finite false (mkRat 3 4), 3, 0⟩
    fun i => if i then .round 0 else .check

/-- `false` makes its check while the gateway is busy.  Its sample is no longer fresh when the round
begins, so `true` pauses first; by the time of its check the load has fallen. -/
def calmed : Admissions Bool :=
  let checked := busy.advance false
  let paused := { checked with now := 600000000 }.advance true
  let idle := { paused with readings := ⟨.finite false (mkRat 1 4), 3, 0⟩ }
  { idle with now := 788000000 }.advance true

theorem calmed_exact :
    Reachable busy calmed ∧
      calmed.verdicts.map Verdict.overloaded = [true, false] ∧
      (∀ earlier v later, calmed.verdicts = earlier ++ v :: later →
        v.Exact halfLoad ∧ v.after.lastSample = (sampled (earlier ++ [v])).getLast?) ∧
      calmed.toldTo true = [false] ∧
      (sampled calmed.verdicts).getLast? = some ⟨.finite false (mkRat 1 4), 788000000⟩ := by
  have hreach : Reachable busy calmed := by
    unfold calmed
    refine .tail ?_ (.advance _ _)
    refine .tail ?_ (.pass _ (by decide +kernel))
    refine .tail ?_ (.change _ _)
    refine .tail ?_ (.advance _ _)
    refine .tail ?_ (.pass _ (by decide +kernel))
    exact .tail .refl (.advance _ _)
  obtain ⟨hfaithful, htold, hlast, -, -⟩ := verdicts_exact hreach
  refine ⟨hreach, by decide +kernel, hfaithful, ?_, ?_⟩
  · rw [htold]
    decide +kernel
  · rw [← hlast]
    decide +kernel

end Admissions

end TransferGateway.Admission
