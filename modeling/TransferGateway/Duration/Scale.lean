import TransferGateway.Duration.Basic
import TransferGateway.Number.Binary64

/-!
# Fractions of durations

A duration times a number, in whole nanoseconds.  The steps of the product may be rounded: the
running gateway rounds each to a double-precision number, exact reckoning does not.  Either way
the result is the nearest nanosecond, ties to even.
-/

namespace TransferGateway

/-- How the intermediate results of a product are rounded. -/
structure Precision where
  /-- Applied to each intermediate result. -/
  round : Rat → Rat

namespace Precision

/-- No rounding. -/
def exact : Precision := ⟨fun q => q⟩

/-- Every intermediate result is a double-precision number. -/
def double : Precision := ⟨Number.roundBinary⟩

/-- A product of two numbers. -/
def product (p : Precision) (a b : Rat) : Rat := p.round (a * b)

end Precision

namespace Duration

/-- A span as a number of seconds. -/
def inSeconds (p : Precision) (d : Duration) : Rat :=
  let part := p.round ((d.subsecond : Rat) / (perSecond : Rat))
  p.round (p.round (d.seconds : Rat) + part)

/-- The span of the whole nanoseconds nearest to a number of seconds. -/
def ofRat (seconds : Rat) : Duration := ⟨Number.nearest (seconds * (perSecond : Rat))⟩

/-- A span times a nonnegative number. -/
def scale (p : Precision) (d : Duration) (factor : Rat) : Duration :=
  ofRat (p.product (d.inSeconds p) factor)

end Duration

end TransferGateway
