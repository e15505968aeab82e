import Mathlib.Algebra.Order.Field.Basic
import TransferGateway.Deployment
import TransferGateway.Proofs.Admission.Latency

/-!
# Pauses that cannot be held

The pauses of a round grow with the spans of the limits and with the factor of the attempt, and
nothing bounds the spans.  With exact products the longest pause before a check comes as near as one
likes to the whole multiple of its span, and after rounding it reaches that; the longest pause after
an overload reaches its own.  So a round can be left without an answer exactly if one of the two
multiples that its limits can lead to is beyond what a duration holds.
-/

namespace TransferGateway

/-! ## The largest random value that matters -/

/-- A number below one that takes less than a half off the product with `n`. -/
def nearlyOne (n : Nat) : Rat := 1 - 1 / (4 * n + 1)

theorem nearlyOne_unit (n : Nat) : 0 ≤ nearlyOne n ∧ nearlyOne n < 1 := by
  have hpos : (0 : Rat) < 4 * n + 1 := by positivity
  have hle : (1 : Rat) / (4 * n + 1) ≤ 1 := by
    rw [div_le_one hpos]
    have hn : (0 : Rat) ≤ n := by positivity
    linarith
  have hlt : (0 : Rat) < 1 / (4 * n + 1) := by positivity
  unfold nearlyOne
  constructor <;> linarith

theorem nearest_mul_nearlyOne (n : Nat) : Number.nearest (n * nearlyOne n) = n := by
  have hpos : (0 : Rat) < 4 * n + 1 := by positivity
  have hnonneg : (0 : Rat) ≤ n * nearlyOne n := mul_nonneg (by positivity) (nearlyOne_unit n).1
  have hsplit : (n : Rat) * nearlyOne n = n - n / (4 * n + 1) := by
    rw [nearlyOne, mul_sub, mul_one, mul_one_div]
  have hlow : (0 : Rat) ≤ n / (4 * n + 1) := by positivity
  have hhigh : (n : Rat) / (4 * n + 1) ≤ 1 / 4 := by
    rw [div_le_div_iff₀ hpos (by norm_num)]
    linarith
  obtain ⟨hbelow, habove⟩ := Number.nearest_bounds hnonneg
  rw [hsplit] at hbelow habove ⊢
  have hle : (Number.nearest (n - n / (4 * n + 1)) : Rat) < n + 1 := by linarith
  have hge : (n : Rat) < Number.nearest (n - n / (4 * n + 1)) + 1 := by linarith
  have hle' : Number.nearest ((n : Rat) - n / (4 * n + 1)) < n + 1 := by exact_mod_cast hle
  have hge' : n < Number.nearest ((n : Rat) - n / (4 * n + 1)) + 1 := by exact_mod_cast hge
  omega

/-! ## What limits can lead to -/

theorem Binary64.inUnit_one : one.InUnit := inUnit_iff.2 ⟨by decide, by decide⟩

/-- What the surroundings of a gateway can say: a load between zero and one, and numbers of
connections and sessions that a word holds. -/
structure Readings.Possible (readings : Readings) : Prop where
  load : readings.load.InUnit
  network : readings.network < 2 ^ 64
  sessions : readings.sessions < 2 ^ 64

namespace AdmissionLimits

/-- Some readings are over one of the limits. -/
def CanOverload (limits : AdmissionLimits) : Prop :=
  limits.cpuCheck = true ∨
    limits.connectionCheck = true ∧ limits.connectionLimit + 1 < 2 ^ 64

/-- The multiples of the spans by a factor can be held, as far as there are pauses of that kind. -/
structure Bears (limits : AdmissionLimits) (factor : Nat) : Prop where
  settle : limits.cpuCheck = true →
    limits.minRecheck.half.nanoseconds * factor < Duration.capacity
  recover : limits.CanOverload →
    limits.connectionTimeout.half.nanoseconds * factor < Duration.capacity

/-- The longest span of which every factor of a pause can be held, a little over 136 years. -/
def longestSpan : Duration := .ofSeconds 4294967297

variable {limits : AdmissionLimits}

theorem Bears.mono {small large : Nat} (h : limits.Bears large) (hle : small ≤ large) :
    limits.Bears small where
  settle hcpu := (Nat.mul_le_mul_left _ hle).trans_lt (h.settle hcpu)
  recover hover := (Nat.mul_le_mul_left _ hle).trans_lt (h.recover hover)

theorem mul_maxFactor_lt_iff (n : Nat) :
    n * AdmissionController.maxFactor < Duration.capacity ↔ n ≤ longestSpan.nanoseconds := by
  have hcapacity : Duration.capacity = 18446744073709551616 * 1000000000 := rfl
  have hlongest : longestSpan.nanoseconds = 4294967297 * 1000000000 := rfl
  have hfactor : AdmissionController.maxFactor = 4294967295 := rfl
  rw [hcapacity, hlongest, hfactor]
  omega

theorem bears_maxFactor_iff :
    limits.Bears AdmissionController.maxFactor ↔
      (limits.cpuCheck = true →
        limits.minRecheck.half.nanoseconds ≤ longestSpan.nanoseconds) ∧
      (limits.CanOverload →
        limits.connectionTimeout.half.nanoseconds ≤ longestSpan.nanoseconds) := by
  rw [← mul_maxFactor_lt_iff, ← mul_maxFactor_lt_iff]
  exact ⟨fun h => ⟨h.settle, h.recover⟩, fun h => ⟨h.1, h.2⟩⟩

end AdmissionLimits

/-! ## Limits that bear their pauses -/

namespace AdmissionController

variable {limits : AdmissionLimits} {c : AdmissionController} {now attempt : Nat}
  {readings : Readings} {random : Rat} {pause : Duration}

/-- If the whole pause can be held, so can the random span that it is a multiple of. -/
theorem fits_spread (h : (c.overloadPause attempt random).Fits) :
    (c.limits.connectionTimeout.half.scale c.precision random).Fits := by
  have hfactor : 1 ≤ factor attempt := Nat.le_min.2 ⟨Nat.le_add_left 1 attempt, by decide⟩
  have hpause : (c.overloadPause attempt random).nanoseconds < Duration.capacity := h
  rw [nanoseconds_overloadPause] at hpause
  calc (c.limits.connectionTimeout.half.scale c.precision random).nanoseconds
      ≤ max (c.limits.connectionTimeout.half.scale c.precision random).nanoseconds
          Duration.perMilli := Nat.le_max_left _ _
    _ ≤ max (c.limits.connectionTimeout.half.scale c.precision random).nanoseconds
          Duration.perMilli * factor attempt := Nat.le_mul_of_pos_right _ hfactor
    _ < Duration.capacity := hpause

theorem canOverload_of_check (hreadings : readings.Possible)
    (hover : (c.check now readings).1 = true) : c.limits.CanOverload := by
  cases hcpu : c.limits.cpuCheck with
  | true => exact .inl hcpu
  | false =>
    rw [check_of_not_cpuCheck hcpu] at hover
    obtain ⟨hconnections, hcount⟩ := crowded_eq_true_iff.1 hover
    have hnetwork := hreadings.network
    have hsessions := hreadings.sessions
    refine .inr ⟨hconnections, ?_⟩
    omega

theorem fits_of_settle (h : c.Ideal limits) (hbears : limits.Bears (factor attempt))
    (hmem : pause ∈ (c.settle now attempt).pauses) : pause.Fits := by
  rcases settle_pauses h now attempt with hnone | ⟨first, hone, hcpu, hle⟩
  · rw [hnone] at hmem
    cases hmem
  · rw [hone] at hmem
    obtain rfl := List.mem_singleton.1 hmem
    exact hle.trans_lt (hbears.settle hcpu)

theorem fits_overloadPause (h : c.Ideal limits) (hover : limits.CanOverload)
    (hbears : limits.Bears (factor attempt)) (hrandom : 0 ≤ random ∧ random < 1) :
    (c.overloadPause attempt random).Fits := by
  have hle : (c.overloadPause attempt random).nanoseconds ≤
      c.limits.recoverSpan * factor attempt := overloadPause_le h.precision_eq hrandom
  -- The floor of a millisecond stays far below the capacity whatever the factor is.
  have hfloor : Duration.perMilli * factor attempt < Duration.capacity :=
    (Nat.mul_le_mul_left _ (factor_le_maxFactor attempt)).trans_lt (by decide)
  rw [h.limits_eq, AdmissionLimits.recoverSpan, ← Nat.mul_max_mul_right] at hle
  exact hle.trans_lt (Nat.max_lt.2 ⟨hbears.recover hover, hfloor⟩)

theorem mem_conclude {pauses : List Duration} (hmem : pause ∈ pauses) :
    pause ∈ (c.conclude readings now attempt pauses).pauses := by
  rcases c.conclude_cases readings now attempt pauses with hidle | ⟨last, later, -, hpaused⟩
  · rw [hidle]
    exact hmem
  · rw [hpaused]
    exact List.mem_append_left _ hmem

theorem fits_of_conclude (h : c.Ideal limits) (hreadings : readings.Possible)
    (hbears : limits.Bears (factor attempt)) {pauses : List Duration}
    (hpauses : ∀ earlier ∈ pauses, earlier.Fits)
    (hmem : pause ∈ (c.conclude readings now attempt pauses).pauses) : pause.Fits := by
  cases hcheck : c.check now readings with
  | mk overloaded checked =>
    cases overloaded with
    | false =>
      rw [conclude_of_idle hcheck] at hmem
      exact hpauses pause hmem
    | true =>
      have hover : c.limits.CanOverload := canOverload_of_check hreadings (by rw [hcheck])
      have hideal : checked.Ideal limits := by
        have hideal := h.check now readings
        rwa [hcheck] at hideal
      rw [h.limits_eq] at hover
      rw [conclude_of_overloaded hcheck] at hmem
      rcases List.mem_append.1 hmem with hearlier | hlast
      · exact hpauses pause hearlier
      · obtain rfl := List.mem_singleton.1 hlast
        exact fits_overloadPause hideal hover hbears (hideal.jitter_unit checked.drawn)

theorem held_of_bears {r : SharedRound} (h : r.Ideal limits) (hreadings : r.readings.Possible)
    (hbears : limits.Bears (factor r.attempt)) : r.outcome.Held := fun _ hmem =>
  fits_of_conclude h.resumed hreadings hbears
    (fun _ hearlier => fits_of_settle h.first hbears hearlier) hmem

theorem heldRound_eq_some_iff {surroundings : Surroundings} :
    c.heldRound surroundings now attempt = some (c.round surroundings now attempt) ↔
      (c.round surroundings now attempt).Held := by
  simp only [heldRound, Option.ite_none_right_eq_some, and_true]

/-! ## Rounds with the longest pauses -/

/-- A controller that draws one random value over and over. -/
def drawing (limits : AdmissionLimits) (samples : List LoadSample) (random : Rat) :
    AdmissionController where
  limits := limits
  samples := samples
  jitter _ := random
  precision := .exact

theorem ideal_drawing (samples : List LoadSample) (hrandom : 0 ≤ random ∧ random < 1) :
    (drawing limits samples random).Ideal limits :=
  ⟨rfl, rfl, fun _ => hrandom⟩

/-- Full load, and as many connections as a word counts. -/
def flooded : Readings := ⟨.one, 2 ^ 64 - 1, 0⟩

theorem possible_flooded : flooded.Possible where
  load := Binary64.inUnit_one
  network := by decide
  sessions := by decide

/-- The limits are all over when everything is flooded, if they can be at all. -/
theorem check_drawing_flooded (hover : limits.CanOverload) (random : Rat) (now : Nat) :
    ∃ checked, (drawing limits [] random).check now flooded = (true, checked) ∧
      checked.limits = limits ∧ checked.precision = .exact ∧
      checked.jitter = fun _ => random := by
  cases hcpu : limits.cpuCheck with
  | true =>
    have hfull : limits.cpuLimit < flooded.load := of_decide_eq_true (Bool.and_eq_true_iff.1 hcpu).2
    have hcheck : (drawing limits [] random).check now flooded =
        (decide (limits.cpuLimit < flooded.load) || (drawing limits [] random).crowded flooded,
          (drawing limits [] random).record ⟨flooded.load, now⟩) := check_of_stale hcpu rfl
    rw [decide_eq_true hfull, Bool.true_or] at hcheck
    exact ⟨_, hcheck, rfl, rfl, rfl⟩
  | false =>
    obtain ⟨hconnections, hlimit⟩ : limits.connectionCheck = true ∧
        limits.connectionLimit + 1 < 2 ^ 64 := hover.resolve_left (by rw [hcpu]; decide)
    have hnetwork : limits.connectionLimit < flooded.network := by
      show limits.connectionLimit < 2 ^ 64 - 1
      omega
    have hcrowded : (drawing limits [] random).crowded flooded = true :=
      crowded_eq_true_iff.2 ⟨hconnections, .inl hnetwork⟩
    have hcheck : (drawing limits [] random).check now flooded =
        ((drawing limits [] random).crowded flooded, drawing limits [] random) :=
      check_of_not_cpuCheck hcpu
    rw [hcrowded] at hcheck
    exact ⟨_, hcheck, rfl, rfl, rfl⟩

end AdmissionController

namespace AdmissionLimits

open AdmissionController (factor maxFactor drawing flooded)

/-- A command that is alone can be asked to pause for at least this long in a round. -/
def Reaches (limits : AdmissionLimits) (attempt nanoseconds : Nat) : Prop :=
  ∃ (c : AdmissionController) (surroundings : Surroundings) (now : Nat), c.Ideal limits ∧
    (∀ sample ∈ c.samples, sample.load.InUnit) ∧ (∀ instant, (surroundings instant).Possible) ∧
    ∃ pause ∈ (c.round surroundings now attempt).pauses, nanoseconds ≤ pause.nanoseconds

variable {limits : AdmissionLimits} {attempt : Nat}

/-- A sample of full load is awaited as soon as it is no longer fresh, and the pause for it can be
the whole multiple. -/
theorem reaches_settle (hcpu : limits.cpuCheck = true) (attempt : Nat) :
    limits.Reaches attempt (limits.minRecheck.half.nanoseconds * factor attempt) := by
  let longest := limits.minRecheck.half.nanoseconds * factor attempt
  let c := drawing limits [⟨.one, 0⟩] (nearlyOne longest)
  have hfull : limits.cpuLimit < .one := of_decide_eq_true (Bool.and_eq_true_iff.1 hcpu).2
  have hawaited : c.awaited limits.minRecheck.half.nanoseconds = some ⟨.one, 0⟩ :=
    AdmissionController.awaited_eq_some_iff.2 ⟨hcpu, rfl, hfull, Nat.le_refl _⟩
  have hone : Binary64.one.clampUnit = 1 := by decide
  have hproduct : (limits.minRecheck.half.nanoseconds : Rat) *
      (1 * (factor attempt : Rat) * nearlyOne longest) = longest * nearlyOne longest := by
    rw [one_mul, ← mul_assoc, ← Nat.cast_mul]
  have hpause : (c.recheckPause attempt .one (nearlyOne longest)).nanoseconds = longest := by
    rw [AdmissionController.recheckPause_eq rfl, hone, Duration.nanoseconds_scale]
    exact (congrArg Number.nearest hproduct).trans (nearest_mul_nearlyOne longest)
  refine ⟨c, fun _ => flooded, limits.minRecheck.half.nanoseconds,
    AdmissionController.ideal_drawing _ (nearlyOne_unit longest), ?_,
    fun _ => AdmissionController.possible_flooded,
    c.recheckPause attempt .one (nearlyOne longest), ?_, hpause.ge⟩
  · intro sample hsample
    obtain rfl := List.mem_singleton.1 hsample
    exact Binary64.inUnit_one
  · rw [AdmissionController.round_eq_conclude, AdmissionController.settle_of_awaited hawaited]
    exact AdmissionController.mem_conclude (List.mem_singleton.2 rfl)

/-- If there can be an overload at all, the pause after it can be the whole multiple. -/
theorem reaches_recover (hover : limits.CanOverload) (attempt : Nat) :
    limits.Reaches attempt (limits.connectionTimeout.half.nanoseconds * factor attempt) := by
  let longest := limits.connectionTimeout.half.nanoseconds
  let c := drawing limits [] (nearlyOne longest)
  obtain ⟨checked, hcheck, hlimits, hprecision, hjitter⟩ :=
    AdmissionController.check_drawing_flooded hover (nearlyOne longest) 0
  have hawaited : c.awaited 0 = none := by
    unfold AdmissionController.awaited
    split <;> rfl
  have hspread : (limits.connectionTimeout.half.scale .exact (nearlyOne longest)).nanoseconds =
      longest := by
    rw [Duration.nanoseconds_scale]
    exact nearest_mul_nearlyOne longest
  have hpause : longest * factor attempt ≤
      (checked.overloadPause attempt (nearlyOne longest)).nanoseconds := by
    rw [AdmissionController.nanoseconds_overloadPause, hlimits, hprecision, hspread]
    exact Nat.mul_le_mul_right _ (Nat.le_max_left _ _)
  refine ⟨c, fun _ => flooded, 0, AdmissionController.ideal_drawing _ (nearlyOne_unit longest),
    fun _ hsample => absurd hsample List.not_mem_nil,
    fun _ => AdmissionController.possible_flooded,
    checked.overloadPause attempt (nearlyOne longest), ?_, hpause⟩
  rw [AdmissionController.round_eq_conclude,
    AdmissionController.settle_of_awaited_eq_none hawaited,
    AdmissionController.conclude_of_overloaded hcheck, hjitter]
  exact List.mem_singleton.2 rfl

/-! ## Exactly the limits that bear their pauses -/

/-- Every round of an attempt has pauses that can be held, whatever others do with the controller
in between. -/
def HoldsShared (limits : AdmissionLimits) (attempt : Nat) : Prop :=
  ∀ r : SharedRound, r.attempt = attempt → r.Ideal limits → r.readings.Possible → r.outcome.Held

/-- Every round of an attempt that no other command comes in between has an answer. -/
def Answers (limits : AdmissionLimits) (attempt : Nat) : Prop :=
  ∀ (c : AdmissionController) (surroundings : Surroundings) (now : Nat), c.Ideal limits →
    (∀ sample ∈ c.samples, sample.load.InUnit) → (∀ instant, (surroundings instant).Possible) →
    c.heldRound surroundings now attempt = some (c.round surroundings now attempt)

theorem Bears.holdsShared (h : limits.Bears (factor attempt)) : limits.HoldsShared attempt := by
  rintro r rfl hideal hreadings
  exact AdmissionController.held_of_bears hideal hreadings h

theorem HoldsShared.answers (h : limits.HoldsShared attempt) : limits.Answers attempt := by
  intro c surroundings now hideal _ hpossible
  rw [AdmissionController.heldRound_eq_some_iff, ← SharedRound.outcome_alone]
  exact h _ rfl (SharedRound.ideal_alone hideal surroundings now attempt) (hpossible _)

theorem Answers.lt_capacity {nanoseconds : Nat} (h : limits.Answers attempt)
    (hreaches : limits.Reaches attempt nanoseconds) : nanoseconds < Duration.capacity := by
  obtain ⟨c, surroundings, now, hideal, hsamples, hpossible, pause, hmem, hle⟩ := hreaches
  have hheld : (c.round surroundings now attempt).Held :=
    AdmissionController.heldRound_eq_some_iff.1 (h c surroundings now hideal hsamples hpossible)
  exact hle.trans_lt (hheld pause hmem)

theorem Answers.bears (h : limits.Answers attempt) : limits.Bears (factor attempt) where
  settle hcpu := h.lt_capacity (reaches_settle hcpu attempt)
  recover hover := h.lt_capacity (reaches_recover hover attempt)

theorem answers_iff : limits.Answers attempt ↔ limits.Bears (factor attempt) :=
  ⟨Answers.bears, fun h => h.holdsShared.answers⟩

theorem holdsShared_iff : limits.HoldsShared attempt ↔ limits.Bears (factor attempt) :=
  ⟨fun h => h.answers.bears, Bears.holdsShared⟩

/-- The attempts that a word of 32 bits counts reach every factor there is. -/
theorem forall_bears_iff :
    (∀ attempt < 2 ^ 32, limits.Bears (factor attempt)) ↔ limits.Bears maxFactor :=
  ⟨fun h => h 4294967295 (by decide),
    fun h attempt _ => h.mono (AdmissionController.factor_le_maxFactor attempt)⟩

/-- With exact products and random values below one, the rounds of an attempt all have an answer
exactly if its factor times half of the one span, where the load is checked, and times half of the
other one, where there can be an overload, can be held; it makes no difference whether others use
the controller in between.  All attempts do exactly if neither half is longer than 4294967297
seconds.  The random span behind a pause after an overload can be held whenever the pause can. -/
theorem rounds_held_iff (limits : AdmissionLimits) :
    (∀ attempt, (limits.Answers attempt ↔ limits.Bears (factor attempt)) ∧
      (limits.HoldsShared attempt ↔ limits.Bears (factor attempt))) ∧
    ((∀ attempt < 2 ^ 32, limits.Answers attempt) ↔
      (limits.cpuCheck = true →
        limits.minRecheck.half.nanoseconds ≤ longestSpan.nanoseconds) ∧
      (limits.CanOverload →
        limits.connectionTimeout.half.nanoseconds ≤ longestSpan.nanoseconds)) ∧
    ∀ (c : AdmissionController) (attempt : Nat) (random : Rat),
      (c.overloadPause attempt random).Fits →
      (c.limits.connectionTimeout.half.scale c.precision random).Fits := by
  refine ⟨fun attempt => ⟨answers_iff, holdsShared_iff⟩, ?_,
    fun c attempt random h => AdmissionController.fits_spread h⟩
  rw [← bears_maxFactor_iff, ← forall_bears_iff]
  exact forall₂_congr fun attempt _ => answers_iff

end AdmissionLimits

namespace Deployment

/-- A gateway that turns away a second connection, with the longest timeout that a word of
nanoseconds holds. -/
def lingering : Manifest where
  apiVersion := Manifest.expectedVersion
  kind := Manifest.expectedKind
  metadata := { name := "edge" }
  spec :=
    { host := { id := "edge" }
      admission := { connectionLimit := 1, connectionTimeout := ⟨2 ^ 64 - 1⟩ } }

/-- The manifest passes its check, and the gateway has no answer for the last attempt there is when
a second connection is open, neither with rounded products nor with exact ones; it has for the
second attempt. -/
theorem lingering_unanswered :
    lingering.validate = .ok () ∧
      ∃ d, start {} lingering = .ok d ∧
        d.gateway.admission.heldRound (fun _ => ⟨.zero, 2, 0⟩) 0 4294967295 = none ∧
        { d.gateway.admission with precision := .exact }.heldRound
          (fun _ => ⟨.zero, 2, 0⟩) 0 4294967295 = none ∧
        (d.gateway.admission.heldRound (fun _ => ⟨.zero, 2, 0⟩) 0 1).isSome = true := by
  refine ⟨rfl, _, rfl, ?_, ?_, ?_⟩
  · decide +kernel
  · decide +kernel
  · decide +kernel

end Deployment

end TransferGateway
