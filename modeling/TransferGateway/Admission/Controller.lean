import TransferGateway.Admission.Limits
import TransferGateway.Duration.Scale

/-!
# Admission control

A check samples the load, unless the last sample is still good, and compares it and the numbers
of connections with the limits.  A round pauses first when the last sample was over the limit
and is no longer fresh, then checks, and pauses again when the check says overloaded.  A command
is admitted by its first round that is not overloaded.  A pause that is too long for a duration to
hold leaves a round without an answer.
-/

namespace TransferGateway

/-- A load sample and when it was taken. -/
structure LoadSample where
  load : Binary64
  takenAt : Nat
deriving DecidableEq, Repr, Inhabited

/-- The shared state of admission. -/
structure AdmissionController where
  limits : AdmissionLimits
  /-- The samples taken so far, the newest first. -/
  samples : List LoadSample := []
  /-- The random values between zero and one, by the order of drawing. -/
  jitter : Nat → Rat := fun _ => mkRat 1 2
  /-- The number of random values drawn. -/
  drawn : Nat := 0
  precision : Precision := .double

/-- The end of a round. -/
structure AdmissionRound where
  overloaded : Bool
  controller : AdmissionController
  /-- The pauses that were made, in order. -/
  pauses : List Duration
  /-- When the round ended. -/
  now : Nat

/-- All the pauses of a round are durations that can be held. -/
def AdmissionRound.Held (round : AdmissionRound) : Prop := ∀ pause ∈ round.pauses, pause.Fits

instance (round : AdmissionRound) : Decidable round.Held :=
  inferInstanceAs (Decidable (∀ pause ∈ round.pauses, pause.Fits))

/-- The shortest pause after an overload. -/
def minOverloadPause : Duration := .ofMillis 1

namespace AdmissionController

instance : Inhabited AdmissionController := ⟨{ limits := {} }⟩

/-- The sample that may be used again. -/
def lastSample (c : AdmissionController) : Option LoadSample := c.samples.head?

/-- The load of the last sample. -/
def lastLoad (c : AdmissionController) : Option Binary64 := c.lastSample.map LoadSample.load

/-- The age at which a sample is no longer fresh. -/
def baseDelay (c : AdmissionController) : Duration := c.limits.minRecheck.half

/-- Whether a sample is used again: it is fresh and within the limit. -/
def reuses (c : AdmissionController) (now : Nat) (sample : LoadSample) : Bool :=
  decide (now - sample.takenAt < c.baseDelay.nanoseconds) &&
    decide (sample.load ≤ c.limits.cpuLimit)

/-- Whether the last sample is used again. -/
def reusesLast (c : AdmissionController) (now : Nat) : Bool :=
  match c.lastSample with
  | none => false
  | some sample => c.reuses now sample

/-- Keep a new sample. -/
def record (c : AdmissionController) (sample : LoadSample) : AdmissionController :=
  { c with samples := sample :: c.samples }

/-- Compare the load with its limit. -/
def checkLoad (c : AdmissionController) (now : Nat) (load : Binary64) :
    Bool × AdmissionController :=
  if c.reusesLast now then (false, c)
  else (decide (c.limits.cpuLimit < load), c.record ⟨load, now⟩)

/-- Whether there are more connections or sessions than allowed. -/
def crowded (c : AdmissionController) (readings : Readings) : Bool :=
  c.limits.connectionCheck &&
    (decide (c.limits.connectionLimit < readings.network) ||
      decide (c.limits.connectionLimit < readings.sessions))

/-- Whether the gateway is overloaded at an instant. -/
def check (c : AdmissionController) (now : Nat) (readings : Readings) :
    Bool × AdmissionController :=
  if c.limits.cpuCheck then
    let (busy, sampled) := c.checkLoad now readings.load
    (busy || sampled.crowded readings, sampled)
  else (c.crowded readings, c)

/-- Draw the next random value. -/
def draw (c : AdmissionController) : Rat × AdmissionController :=
  (c.jitter c.drawn, { c with drawn := c.drawn + 1 })

/-- The largest factor of a pause. -/
def maxFactor : Nat := 4294967295

/-- The factor of the pauses of a round. -/
def factor (attempt : Nat) : Nat := min (attempt + 1) maxFactor

/-- The sample that a round waits for: over the limit and no longer fresh. -/
def awaited (c : AdmissionController) (now : Nat) : Option LoadSample :=
  if c.limits.cpuCheck then
    match c.lastSample with
    | none => none
    | some sample =>
      -- A fresh sample over the limit is not waited for: the check takes a new one.
      if c.limits.cpuLimit < sample.load ∧ c.baseDelay.nanoseconds ≤ now - sample.takenAt then
        some sample
      else none
  else none

/-- The pause before the check of a round, longer the higher the load was. -/
def recheckPause (c : AdmissionController) (attempt : Nat) (load : Binary64) (random : Rat) :
    Duration :=
  let p := c.precision
  c.baseDelay.scale p (p.product (p.product load.clampUnit (factor attempt : Rat)) random)

/-- The pause after a check that said overloaded. -/
def overloadPause (c : AdmissionController) (attempt : Nat) (random : Rat) : Duration :=
  let spread := c.limits.connectionTimeout.half.scale c.precision random
  (spread.longer minOverloadPause).times (factor attempt)

/-- The start of a round: the pause before its check, if any. -/
def settle (c : AdmissionController) (now attempt : Nat) : AdmissionRound :=
  match c.awaited now with
  | none => ⟨false, c, [], now⟩
  | some sample =>
    let (random, c) := c.draw
    let pause := c.recheckPause attempt sample.load random
    ⟨false, c, [pause], wakeUp now pause⟩

/-- One round of admission. -/
def round (c : AdmissionController) (surroundings : Surroundings) (now attempt : Nat) :
    AdmissionRound :=
  let settled := c.settle now attempt
  -- The surroundings are read after the pause, and only once.
  let (overloaded, checked) :=
    settled.controller.check settled.now (surroundings settled.now)
  if overloaded then
    let (random, drawn) := checked.draw
    let pause := drawn.overloadPause attempt random
    ⟨true, drawn, settled.pauses ++ [pause], wakeUp settled.now pause⟩
  else ⟨false, checked, settled.pauses, settled.now⟩

/-- One round of admission as it is run: it has no answer if one of its pauses cannot be held. -/
def heldRound (c : AdmissionController) (surroundings : Surroundings) (now attempt : Nat) :
    Option AdmissionRound :=
  let round := c.round surroundings now attempt
  if round.Held then some round else none

/-- Rounds from an attempt on, at most the given number, up to one that is not overloaded. -/
def roundsFrom (surroundings : Surroundings) (attempt : Nat) :
    Nat → AdmissionController → Nat → AdmissionRound
  | 0, c, now => ⟨true, c, [], now⟩
  | remaining + 1, c, now =>
    let first := c.round surroundings now attempt
    if first.overloaded then
      let others :=
        roundsFrom surroundings (attempt + 1) remaining first.controller first.now
      { others with pauses := first.pauses ++ others.pauses }
    else first

/-- Decide on a command; it is rejected when every round is overloaded. -/
def judge (c : AdmissionController) (surroundings : Surroundings) (now : Nat) : AdmissionRound :=
  roundsFrom surroundings 0 c.limits.rounds c now

/-- Rounds as they are run: they have no answer once one of them has none. -/
def heldRoundsFrom (surroundings : Surroundings) (attempt : Nat) :
    Nat → AdmissionController → Nat → Option AdmissionRound
  | 0, c, now => some ⟨true, c, [], now⟩
  | remaining + 1, c, now =>
    (c.heldRound surroundings now attempt).bind fun first =>
      if first.overloaded then
        (heldRoundsFrom surroundings (attempt + 1) remaining first.controller first.now).map
          fun others => { others with pauses := first.pauses ++ others.pauses }
      else some first

/-- Decide on a command as it is run. -/
def heldJudge (c : AdmissionController) (surroundings : Surroundings) (now : Nat) :
    Option AdmissionRound :=
  heldRoundsFrom surroundings 0 c.limits.rounds c now

end AdmissionController

end TransferGateway
