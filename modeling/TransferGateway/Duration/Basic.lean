import TransferGateway.Number.Integer

/-!
# Durations

Spans of time in whole nanoseconds, the text they have in messages, and the clock they are
waited on.  An instant is the number of nanoseconds since the clock started.  The clock moves in
whole milliseconds: a wait ends at the first one that is not before its exact deadline.
-/

namespace TransferGateway

/-- A span of time in nanoseconds. -/
structure Duration where
  nanoseconds : Nat
deriving DecidableEq, Repr, Inhabited

namespace Duration

/-- No time. -/
def zero : Duration := ⟨0⟩

/-- Nanoseconds in a second. -/
def perSecond : Nat := 1000000000

/-- Nanoseconds in a millisecond. -/
def perMilli : Nat := 1000000

/-- A span of whole seconds. -/
def ofSeconds (n : Nat) : Duration := ⟨n * perSecond⟩

/-- A span of whole milliseconds. -/
def ofMillis (n : Nat) : Duration := ⟨n * perMilli⟩

/-- The whole seconds of a span. -/
def seconds (d : Duration) : Nat := d.nanoseconds / perSecond

/-- The nanoseconds of a span past its whole seconds. -/
def subsecond (d : Duration) : Nat := d.nanoseconds % perSecond

/-- Half of a span; half a nanosecond is dropped. -/
def half (d : Duration) : Duration := ⟨d.nanoseconds / 2⟩

/-- The longer of two spans. -/
def longer (a b : Duration) : Duration := if a.nanoseconds < b.nanoseconds then b else a

/-- A whole multiple of a span. -/
def times (d : Duration) (n : Nat) : Duration := ⟨d.nanoseconds * n⟩

/-- The sum of two spans. -/
def plus (a b : Duration) : Duration := ⟨a.nanoseconds + b.nanoseconds⟩

/-- The limit of what a span can hold: `2 ^ 64` seconds. -/
def capacity : Nat := Nat.pow 2 64 * perSecond

/-- A span that can be held. -/
def Fits (d : Duration) : Prop := d.nanoseconds < capacity

instance (d : Duration) : Decidable d.Fits := inferInstanceAs (Decidable (d.nanoseconds < capacity))

/-- Drop the zeros at the end. -/
def dropTrailingZeros (digits : List Char) : List Char :=
  (digits.reverse.dropWhile (fun c => c == '0')).reverse

/-- A count of units with its exact decimal fraction, given as a number of `places` digits. -/
def unitText (whole part places : Nat) (unit : String) : String :=
  let fraction := dropTrailingZeros (Number.padded places part).toList
  let digits := String.ofList (Number.decimalDigits whole)
  if fraction.isEmpty then digits ++ unit
  else digits ++ "." ++ String.ofList fraction ++ unit

/-- The text of a span: its largest unit of `s`, `ms`, `µs`, `ns` that is not less than one,
with the exact fraction. -/
def text (d : Duration) : String :=
  let n := d.nanoseconds
  if perSecond ≤ n then unitText (n / perSecond) (n % perSecond) 9 "s"
  else if perMilli ≤ n then unitText (n / perMilli) (n % perMilli) 6 "ms"
  else if 1000 ≤ n then unitText (n / 1000) (n % 1000) 3 "µs"
  else unitText n 0 0 "ns"

end Duration

/-- The first whole millisecond that is not before an instant. -/
def wholeMilli (t : Nat) : Nat :=
  (t + Duration.perMilli - 1) / Duration.perMilli * Duration.perMilli

/-- When a wait that starts at `now` ends; waiting for no time takes none. -/
def wakeUp (now : Nat) (d : Duration) : Nat :=
  if d.nanoseconds = 0 then now else wholeMilli (now + d.nanoseconds)

theorem le_wholeMilli (t : Nat) : t ≤ wholeMilli t := by
  unfold wholeMilli Duration.perMilli
  omega

theorem wholeMilli_lt (t : Nat) : wholeMilli t < t + Duration.perMilli := by
  unfold wholeMilli Duration.perMilli
  omega

theorem wholeMilli_mono {s t : Nat} (h : s ≤ t) : wholeMilli s ≤ wholeMilli t := by
  unfold wholeMilli Duration.perMilli
  exact Nat.mul_le_mul_right _ (Nat.div_le_div_right (by omega))

theorem le_wakeUp (now : Nat) (d : Duration) : now + d.nanoseconds ≤ wakeUp now d := by
  unfold wakeUp
  split
  · omega
  · exact le_wholeMilli _

end TransferGateway
