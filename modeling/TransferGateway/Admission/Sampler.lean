import TransferGateway.Admission.Limits

/-!
# Load samplers

What a sampler reports, and the handle through which an external monitor publishes readings.
Every reading lies in the unit interval.
-/

namespace TransferGateway

/-- A sampler whose readings this library decides; the load average of the operating system is
not one of them. -/
inductive LoadSampler where
  /-- The reading that was published last. -/
  | external (reading : Binary64)
  /-- Always idle. -/
  | idle
deriving DecidableEq, Repr, Inhabited

namespace LoadSampler

/-- The sampler of a kind at its start, if the library decides its readings. -/
def start? : SamplerKind → Option LoadSampler
  | .native => none
  | .external => some (.external .zero)
  | .none => some .idle

/-- Whether readings can be published. -/
def hasHandle : LoadSampler → Bool
  | .external _ => true
  | .idle => false

/-- Publish a reading: it is brought into the unit interval. -/
def publish (sampler : LoadSampler) (reading : Binary64) : LoadSampler :=
  match sampler with
  | .external _ => .external reading.toUnit
  | .idle => .idle

/-- The load reported now. -/
def load : LoadSampler → Binary64
  | .external reading => reading
  | .idle => .zero

end LoadSampler

end TransferGateway
