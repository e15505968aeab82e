/-!
# Double-precision numbers

A number of the IEEE 754 binary64 format: not a number, an infinity, or a sign with an exact
rational magnitude.  Arithmetic is done on the exact magnitude and then rounded to the nearest
representable one, ties to the even neighbour.
-/

namespace TransferGateway

/-- A double-precision number with its exact value. -/
inductive Binary64 where
  | nan
  | infinity (negative : Bool)
  | finite (negative : Bool) (magnitude : Rat)
deriving DecidableEq, Repr, Inhabited

namespace Number

/-- The quotient rounded to the nearest integer, a tie to the even one. -/
def roundDiv (num den : Nat) : Nat :=
  let q := num / den
  let r := num % den
  if 2 * r < den then q
  else if den < 2 * r then q + 1
  else if q % 2 = 0 then q else q + 1

/-- The nearest natural number to a nonnegative rational, a tie to the even one. -/
def nearest (q : Rat) : Nat := roundDiv q.num.toNat q.den

/-- Two to an integer power. -/
def twoPow : Int → Rat
  | .ofNat n => (Nat.pow 2 n : Nat)
  | .negSucc n => mkRat 1 (Nat.pow 2 (n + 1))

/-- The exponent `k` with `2 ^ k ≤ q < 2 ^ (k + 1)`, for positive `q`. -/
def floorLog2 (q : Rat) : Int :=
  let k : Int := (q.num.toNat.log2 : Int) - (q.den.log2 : Int)
  if q < twoPow k then k - 1 else k

/-- The exponent of the last place of a binary64 significand holding `q`. -/
def lastPlace (q : Rat) : Int :=
  if q = 0 then -1074 else max (floorLog2 q - 52) (-1074)

/-- A nonnegative rational rounded to 53 significant bits, or to the subnormal grid. -/
def roundBinary (q : Rat) : Rat :=
  let e := lastPlace q
  (nearest (q / twoPow e) : Rat) * twoPow e

end Number

namespace Binary64
open Number

/-- The number nearest to a signed rational, or an infinity when it is out of range. -/
def ofMagnitude (negative : Bool) (q : Rat) : Binary64 :=
  let r := roundBinary q
  if twoPow 1024 ≤ r then .infinity negative else .finite negative r

/-- Positive zero. -/
def zero : Binary64 := .finite false 0

/-- One. -/
def one : Binary64 := .finite false 1

/-- The signed value of a finite number; what is not finite counts as zero. -/
def value : Binary64 → Rat
  | .finite false q => q
  | .finite true q => -q
  | _ => 0

/-- The integer significand and the exponent of its last place. -/
def significand (magnitude : Rat) : Nat × Int :=
  let e := lastPlace magnitude
  (nearest (magnitude / twoPow e), e)

/-- The bit pattern; every number that is none has the one quiet pattern. -/
def toBits : Binary64 → Nat
  | .nan => 0x7ff8000000000000
  | .infinity negative => (if negative then Nat.pow 2 63 else 0) + 2047 * Nat.pow 2 52
  | .finite negative magnitude =>
    let (m, e) := significand magnitude
    let sign := if negative then Nat.pow 2 63 else 0
    if m < Nat.pow 2 52 then sign + m
    else sign + (e + 1075).toNat * Nat.pow 2 52 + (m - Nat.pow 2 52)

/-- Strict order of values; nothing is comparable with what is not a number. -/
def lt : Binary64 → Binary64 → Bool
  | .nan, _ => false
  | _, .nan => false
  | .infinity a, .infinity b => a && !b
  | .infinity a, .finite .. => a
  | .finite .., .infinity b => !b
  | x, y => x.value < y.value

/-- Order of values; nothing is comparable with what is not a number. -/
def le : Binary64 → Binary64 → Bool
  | .nan, _ => false
  | _, .nan => false
  | .infinity a, .infinity b => a || !b
  | .infinity a, .finite .. => a
  | .finite .., .infinity b => !b
  | x, y => x.value ≤ y.value

instance : LT Binary64 := ⟨fun x y => x.lt y = true⟩
instance : LE Binary64 := ⟨fun x y => x.le y = true⟩
instance (x y : Binary64) : Decidable (x < y) := inferInstanceAs (Decidable (x.lt y = true))
instance (x y : Binary64) : Decidable (x ≤ y) := inferInstanceAs (Decidable (x.le y = true))

theorem not_lt_of_le {x y : Binary64} (h : x ≤ y) : ¬ y < x := by
  intro g
  change x.le y = true at h
  change y.lt x = true at g
  cases x with
  | nan => simp [le] at h
  | infinity a =>
    cases y with
    | nan => simp [le] at h
    | infinity b => cases a <;> cases b <;> simp [le, lt] at h g
    | finite _ _ => simp_all [le, lt]
  | finite a p =>
    cases y with
    | nan => simp [le] at h
    | infinity b => simp_all [le, lt]
    | finite b q => exact Rat.not_lt.2 (of_decide_eq_true h) (of_decide_eq_true g)

/-- The value brought into the unit interval; what is not a number counts as zero. -/
def clampUnit : Binary64 → Rat
  | .nan => 0
  | .infinity negative => if negative then 0 else 1
  | .finite true _ => 0
  | .finite false q => if 1 < q then 1 else q

/-- The number brought into the unit interval, keeping the sign of zero; what is not a number
becomes zero. -/
def toUnit : Binary64 → Binary64
  | .nan => zero
  | .infinity negative => if negative then zero else one
  | .finite negative q =>
    if q = 0 then .finite negative 0
    else if negative then zero
    else if 1 < q then one
    else .finite false q

/-- A number between zero and one. -/
def InUnit : Binary64 → Prop
  | .finite negative q =>
    0 ≤ (finite negative q).value ∧ (finite negative q).value ≤ 1
  | _ => False

theorem inUnit_iff {x : Binary64} : x.InUnit ↔ zero ≤ x ∧ x ≤ one := by
  change x.InUnit ↔ zero.le x = true ∧ x.le one = true
  cases x with
  | nan => simp [InUnit, le, zero]
  | infinity negative => cases negative <;> simp [InUnit, le, zero, one]
  | finite negative q =>
    show 0 ≤ (finite negative q).value ∧ (finite negative q).value ≤ 1 ↔
      decide (0 ≤ (finite negative q).value) = true ∧ decide ((finite negative q).value ≤ 1) = true
    rw [decide_eq_true_eq, decide_eq_true_eq]

end Binary64

end TransferGateway
