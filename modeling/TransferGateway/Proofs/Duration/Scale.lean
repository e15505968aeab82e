import Mathlib.Algebra.Order.Ring.Rat
import Mathlib.Tactic.Linarith
import TransferGateway.Duration.Scale

/-!
# Exact fractions of durations

Without rounding of its intermediate results, a duration times a number is the whole number of
nanoseconds nearest to the product.  It grows with the number, and it is at most a whole multiple of
the duration if the number is at most the factor.
-/

namespace TransferGateway

namespace Number

/-- A rounded quotient is off by half at most. -/
theorem roundDiv_bounds (num : Nat) {den : Nat} (hden : 0 < den) :
    2 * (roundDiv num den * den) ≤ 2 * num + den ∧
      2 * num ≤ 2 * (roundDiv num den * den) + den := by
  have hsplit : den * (num / den) + num % den = num := Nat.div_add_mod num den
  have hrest : num % den < den := Nat.mod_lt num hden
  have hup : (num / den + 1) * den = den * (num / den) + den := by
    rw [Nat.add_mul, Nat.one_mul, Nat.mul_comm]
  have hdown : num / den * den = den * (num / den) := Nat.mul_comm _ _
  simp only [roundDiv]
  split
  · rw [hdown]
    omega
  · split
    · rw [hup]
      omega
    · split
      · rw [hdown]
        omega
      · rw [hup]
        omega

/-- The nearest whole number is off by half at most. -/
theorem nearest_bounds {q : Rat} (hq : 0 ≤ q) :
    2 * (nearest q : Rat) ≤ 2 * q + 1 ∧ 2 * q ≤ 2 * (nearest q : Rat) + 1 := by
  have hden : (0 : Rat) < q.den := by exact_mod_cast q.den_pos
  have hnum : (q.num.toNat : Rat) = q * q.den := by
    have hcast : ((q.num.toNat : Int) : Rat) = (q.num : Rat) := by
      rw [Int.toNat_of_nonneg (Rat.num_nonneg.2 hq)]
    rw [Rat.mul_den_eq_num, ← hcast, Int.cast_natCast]
  obtain ⟨hlow, hhigh⟩ := roundDiv_bounds q.num.toNat q.den_pos
  have hlow' : 2 * ((nearest q : Rat) * q.den) ≤ 2 * (q * q.den) + q.den := by
    rw [← hnum]
    exact_mod_cast hlow
  have hhigh' : 2 * (q * q.den) ≤ 2 * ((nearest q : Rat) * q.den) + q.den := by
    rw [← hnum]
    exact_mod_cast hhigh
  constructor
  · refine le_of_mul_le_mul_right ?_ hden
    linarith
  · refine le_of_mul_le_mul_right ?_ hden
    linarith

theorem nearest_mono {p q : Rat} (hp : 0 ≤ p) (h : p ≤ q) : nearest p ≤ nearest q := by
  by_contra hlt
  have hgap : (nearest q : Rat) + 1 ≤ nearest p := by exact_mod_cast Nat.not_le.1 hlt
  have hlow := (nearest_bounds hp).1
  have hhigh := (nearest_bounds (le_trans hp h)).2
  -- Two numbers that are rounded a whole apart lie apart, or in the middle both.
  have hsame : p = q := by linarith
  rw [hsame] at hlt
  exact hlt (Nat.le_refl _)

theorem nearest_natCast (n : Nat) : nearest (n : Rat) = n := by
  obtain ⟨hlow, hhigh⟩ := nearest_bounds (q := (n : Rat)) (by positivity)
  have hle : 2 * nearest (n : Rat) ≤ 2 * n + 1 := by exact_mod_cast hlow
  have hge : 2 * n ≤ 2 * nearest (n : Rat) + 1 := by exact_mod_cast hhigh
  omega

end Number

namespace Duration

theorem inSeconds_exact (d : Duration) :
    d.inSeconds .exact * (perSecond : Rat) = (d.nanoseconds : Rat) := by
  have hsecond : (perSecond : Rat) ≠ 0 := by decide
  have hsplit : d.seconds * perSecond + d.subsecond = d.nanoseconds :=
    Nat.div_add_mod' d.nanoseconds perSecond
  simp only [inSeconds, Precision.exact]
  rw [add_mul, div_mul_cancel₀ _ hsecond]
  exact_mod_cast hsplit

/-- The span is the whole number of nanoseconds nearest to the product. -/
theorem nanoseconds_scale (d : Duration) (factor : Rat) :
    (d.scale .exact factor).nanoseconds = Number.nearest (d.nanoseconds * factor) := by
  have hproduct : Precision.product .exact (d.inSeconds .exact) factor * (perSecond : Rat) =
      d.nanoseconds * factor := by
    rw [← d.inSeconds_exact]
    exact mul_right_comm _ _ _
  rw [scale, ofRat, hproduct]

theorem scale_mono (d : Duration) {p q : Rat} (hp : 0 ≤ p) (h : p ≤ q) :
    (d.scale .exact p).nanoseconds ≤ (d.scale .exact q).nanoseconds := by
  have hspan : (0 : Rat) ≤ d.nanoseconds := by positivity
  rw [nanoseconds_scale, nanoseconds_scale]
  exact Number.nearest_mono (mul_nonneg hspan hp) (mul_le_mul_of_nonneg_left h hspan)

/-- A span times a number that is at most a whole one is at most that multiple of it. -/
theorem scale_le_mul (d : Duration) {factor : Rat} {n : Nat} (hfactor : 0 ≤ factor)
    (h : factor ≤ n) : (d.scale .exact factor).nanoseconds ≤ d.nanoseconds * n := by
  calc (d.scale .exact factor).nanoseconds ≤ (d.scale .exact (n : Rat)).nanoseconds :=
        d.scale_mono hfactor h
    _ = Number.nearest ((d.nanoseconds * n : Nat) : Rat) := by
        rw [nanoseconds_scale, Nat.cast_mul]
    _ = d.nanoseconds * n := Number.nearest_natCast _

theorem nanoseconds_longer (a b : Duration) :
    (a.longer b).nanoseconds = max a.nanoseconds b.nanoseconds := by
  unfold longer
  split <;> omega

end Duration

end TransferGateway
