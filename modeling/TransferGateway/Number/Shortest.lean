import TransferGateway.Number.Integer
import TransferGateway.Number.Binary64

/-!
# Shortest decimal digits

The fewest decimal digits that read back as a given double-precision number, and of those the
nearest.  On each decimal grid only the two neighbours of the value can lie in the interval of
rationals that round to it, so the first grid with a hit decides.
-/

namespace TransferGateway.Number

/-- A decimal number `digits * 10 ^ exponent`. -/
structure Decimal where
  digits : Nat
  exponent : Int
deriving DecidableEq, Repr

/-- Ten to an integer power. -/
def tenPow : Int → Rat
  | .ofNat n => (Nat.pow 10 n : Nat)
  | .negSucc n => mkRat 1 (Nat.pow 10 (n + 1))

/-- The exact value of a decimal number. -/
def Decimal.value (d : Decimal) : Rat := (d.digits : Rat) * tenPow d.exponent

/-- The rationals that round to one magnitude; the ends belong to it iff its significand is
even. -/
structure RoundingInterval where
  low : Rat
  high : Rat
  closed : Bool

/-- The interval of rationals that round to the magnitude `m * 2 ^ e`. -/
def RoundingInterval.around (m : Nat) (e : Int) : RoundingInterval where
  low :=
    -- Below a power of two the numbers lie twice as close.
    if m = Nat.pow 2 52 ∧ -1074 < e then ((4 * m - 1 : Nat) : Rat) * twoPow (e - 2)
    else ((2 * m - 1 : Nat) : Rat) * twoPow (e - 1)
  high := ((2 * m + 1 : Nat) : Rat) * twoPow (e - 1)
  closed := m % 2 == 0

/-- Membership in a rounding interval. -/
def RoundingInterval.holds (i : RoundingInterval) (q : Rat) : Bool :=
  if i.closed then i.low ≤ q ∧ q ≤ i.high else i.low < q ∧ q < i.high

/-- The number `k` of places before the point: `10 ^ (k - 1) ≤ q < 10 ^ k`, for positive `q`. -/
def placesBeforePoint (q : Rat) : Int :=
  let num := q.num.toNat
  if q.den ≤ num then ((decimalDigits (num / q.den)).length : Int)
  else
    let places := (decimalDigits (q.den / num)).length
    -- A power of ten has one place more than the numbers just below it.
    if num * Nat.pow 10 (places - 1) = q.den then 2 - (places : Int) else 1 - (places : Int)

/-- The neighbour of `q` on the grid of multiples of `10 ^ p` that lies in the interval, the
nearer one if both do. -/
def gridHit? (i : RoundingInterval) (q : Rat) (p : Int) : Option Decimal :=
  let scaled := q / tenPow p
  let below : Nat := scaled.num.toNat / scaled.den
  let lower : Decimal := ⟨below, p⟩
  let upper : Decimal := ⟨below + 1, p⟩
  match i.holds lower.value, i.holds upper.value with
  | false, false => none
  | true, false => some lower
  | false, true => some upper
  | true, true =>
    let left := q - lower.value
    let right := upper.value - q
    -- A tie goes to the even digit.
    if left < right then some lower
    else if right < left then some upper
    else if below % 2 = 0 then some lower else some upper

/-- Move trailing zeros of the digits into the exponent; the fuel bounds their number. -/
def dropZeros : Nat → Decimal → Decimal
  | 0, d => d
  | fuel + 1, d =>
    if d.digits % 10 = 0 ∧ d.digits ≠ 0 then dropZeros fuel ⟨d.digits / 10, d.exponent + 1⟩ else d

/-- The shortest decimal number that reads back as the positive magnitude `q`. -/
def shortest (q : Rat) : Decimal :=
  let (m, e) := Binary64.significand q
  let interval := RoundingInterval.around m e
  let places := placesBeforePoint q
  -- Seventeen digits always suffice.
  let hit? := (List.range 17).findSome? fun n => gridHit? interval q (places - (n + 1 : Nat))
  match hit? with
  | some d => dropZeros 20 d
  | none => ⟨nearest (q / tenPow (places - 17)), places - 17⟩

end TransferGateway.Number
