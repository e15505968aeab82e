import Mathlib.Data.Nat.Digits.Defs
import Mathlib.Tactic.Common
import TransferGateway.Number.Integer
import TransferGateway.Text.Blank

/-!
# Decimal numerals

A decimal numeral is a run of digits, perhaps behind a sign, and its value is that of its digits.
The readers of integers accept exactly the numerals of numbers that fit, and the digits that a
number is written with are a numeral of it.
-/

namespace TransferGateway.Number

/-- The value of one decimal digit. -/
def decimalDigit (c : Char) : Nat := c.toNat - '0'.toNat

/-- The value of a run of decimal digits, the last one counting least. -/
def decimalValue (digits : List Char) : Nat :=
  Nat.ofDigits 10 (digits.map decimalDigit).reverse

/-- A nonempty run of decimal digits. -/
def IsDecimal (digits : List Char) : Prop :=
  digits ≠ [] ∧ ∀ c ∈ digits, '0' ≤ c ∧ c ≤ '9'

/-- A text is a decimal numeral of the given number. -/
inductive Numeral : List Char → Int → Prop where
  | plain {digits : List Char} (h : IsDecimal digits) : Numeral digits (decimalValue digits)
  | plus {digits : List Char} (h : IsDecimal digits) : Numeral ('+' :: digits) (decimalValue digits)
  | minus {digits : List Char} (h : IsDecimal digits) :
      Numeral ('-' :: digits) (-(decimalValue digits : Int))

theorem decimalValue_cons (c : Char) (digits : List Char) :
    decimalValue (c :: digits) = decimalDigit c * 10 ^ digits.length + decimalValue digits := by
  simp only [decimalValue, List.map_cons, List.reverse_cons, Nat.ofDigits_append,
    Nat.ofDigits_singleton, List.length_reverse, List.length_map]
  ring

theorem digitValue?_ten_eq_some_iff {c : Char} {d : Nat} :
    digitValue? 10 c = some d ↔ ('0' ≤ c ∧ c ≤ '9') ∧ decimalDigit c = d := by
  have hnine : c ≤ '9' ↔ c.toNat ≤ 57 := Iff.rfl
  unfold digitValue? decimalDigit
  by_cases hdigit : '0' ≤ c ∧ c ≤ '9'
  · have hlt : c.toNat - '0'.toNat < 10 := by
      have hle := hnine.1 hdigit.2
      have hcode : '0'.toNat = 48 := rfl
      omega
    simp only [hdigit, and_self, if_true, hlt, Option.some.injEq, true_and]
  · by_cases hlower : 'a' ≤ c ∧ c ≤ 'z'
    · simp [hdigit, hlower]
    · by_cases hupper : 'A' ≤ c ∧ c ≤ 'Z'
      · simp [hdigit, hlower, hupper]
      · simp [hdigit, hlower, hupper]

/-- Digits are read onto a value that they push to the left. -/
theorem readDigits?_ten_eq_some_iff {value n : Nat} {digits : List Char} :
    readDigits? 10 value digits = some n ↔
      (∀ c ∈ digits, '0' ≤ c ∧ c ≤ '9') ∧
        value * 10 ^ digits.length + decimalValue digits = n := by
  induction digits generalizing value with
  | nil => simp [readDigits?, decimalValue]
  | cons c rest ih =>
    rw [readDigits?, decimalValue_cons]
    cases hdigit : digitValue? 10 c with
    | none =>
      have hc : ¬ ('0' ≤ c ∧ c ≤ '9') := by
        intro hc
        simp [digitValue?_ten_eq_some_iff.2 ⟨hc, rfl⟩] at hdigit
      simp [hc]
    | some d =>
      obtain ⟨hc, rfl⟩ := digitValue?_ten_eq_some_iff.1 hdigit
      have hvalue : (value * 10 + decimalDigit c) * 10 ^ rest.length + decimalValue rest =
          value * 10 ^ (rest.length + 1) +
            (decimalDigit c * 10 ^ rest.length + decimalValue rest) := by ring
      simp only [ih, hvalue, List.mem_cons, forall_eq_or_imp, hc, true_and, List.length_cons]

theorem ofDigits?_ten_eq_some_iff {n : Nat} {digits : List Char} :
    ofDigits? 10 digits = some n ↔ IsDecimal digits ∧ decimalValue digits = n := by
  cases digits with
  | nil => simp [ofDigits?, IsDecimal]
  | cons c rest => simp [ofDigits?, readDigits?_ten_eq_some_iff, IsDecimal]

/-- A sign is no digit. -/
theorem ne_sign_of_isDecimal {c : Char} {rest : List Char} (h : IsDecimal (c :: rest)) :
    c ≠ '-' ∧ c ≠ '+' := by
  have hc : '0' ≤ c := (h.2 c List.mem_cons_self).1
  constructor
  · rintro rfl
    exact absurd hc (by decide)
  · rintro rfl
    exact absurd hc (by decide)

/-- What is read as a signed number is exactly its numerals. -/
theorem signed?_ten_eq_some_iff {s : List Char} {n : Int} :
    signed? 10 s = some n ↔ Numeral s n := by
  constructor
  · intro h
    unfold signed? at h
    split at h
    · -- The negation is mapped over a value that was first lifted to the integers.
      obtain ⟨_, hlift, rfl⟩ := Option.map_eq_some_iff.1 h
      obtain ⟨value, hvalue, hpure⟩ := Option.bind_eq_some_iff.1 hlift
      obtain ⟨hdigits, rfl⟩ := ofDigits?_ten_eq_some_iff.1 hvalue
      cases hpure
      exact .minus hdigits
    · obtain ⟨value, hvalue, rfl⟩ := Option.map_eq_some_iff.1 h
      obtain ⟨hdigits, rfl⟩ := ofDigits?_ten_eq_some_iff.1 hvalue
      exact .plus hdigits
    · obtain ⟨value, hvalue, rfl⟩ := Option.map_eq_some_iff.1 h
      obtain ⟨hdigits, rfl⟩ := ofDigits?_ten_eq_some_iff.1 hvalue
      exact .plain hdigits
  · intro h
    cases h with
    | plain h =>
      have hread := ofDigits?_ten_eq_some_iff.2 ⟨h, rfl⟩
      cases s with
      | nil => exact absurd rfl h.1
      | cons c rest =>
        obtain ⟨hminus, hplus⟩ := ne_sign_of_isDecimal h
        simp [signed?, hread, hminus, hplus]
    | plus h => simp [signed?, ofDigits?_ten_eq_some_iff.2 ⟨h, rfl⟩]
    | minus h => simp [signed?, ofDigits?_ten_eq_some_iff.2 ⟨h, rfl⟩]

/-- A text is the numeral of at most one number. -/
theorem Numeral.unique {s : List Char} {m n : Int} (hm : Numeral s m) (hn : Numeral s n) :
    m = n :=
  Option.some.inj ((signed?_ten_eq_some_iff.2 hm).symm.trans (signed?_ten_eq_some_iff.2 hn))

/-- The number is one that a two's complement word of the given width holds. -/
def FitsWord (bits : Nat) (n : Int) : Prop := -(2 ^ (bits - 1) : Int) ≤ n ∧ n < 2 ^ (bits - 1)

theorem signedWithin?_ten_eq_some_iff {bits : Nat} {s : List Char} {n : Int} :
    signedWithin? bits 10 s = some n ↔ Numeral s n ∧ FitsWord bits n := by
  have hpow : (Nat.pow 2 (bits - 1) : Int) = 2 ^ (bits - 1) := by norm_cast
  unfold signedWithin? FitsWord
  rw [hpow]
  cases hread : signed? 10 s with
  | none =>
    have hno : ∀ m, ¬ Numeral s m := by
      intro m hm
      simp [signed?_ten_eq_some_iff.2 hm] at hread
    simp [hno]
  | some m =>
    have hm : Numeral s m := signed?_ten_eq_some_iff.1 hread
    constructor
    · intro h
      simp only [Option.ite_none_right_eq_some, Option.some.injEq] at h
      obtain ⟨hfits, rfl⟩ := h
      exact ⟨hm, hfits⟩
    · rintro ⟨hn, hfits⟩
      obtain rfl := hm.unique hn
      exact if_pos hfits

theorem signedWithin?_ten_eq_none {bits : Nat} {s : List Char} {n : Int} (hn : Numeral s n)
    (hfits : ¬ FitsWord bits n) : signedWithin? bits 10 s = none := by
  cases hread : signedWithin? bits 10 s with
  | none => rfl
  | some m =>
    obtain ⟨hm, hfitting⟩ := signedWithin?_ten_eq_some_iff.1 hread
    obtain rfl := hm.unique hn
    exact absurd hfitting hfits

/-! ## Numbers written in decimal -/

theorem isDecimal_decimalDigits (n : Nat) : IsDecimal (decimalDigits n) := by
  refine ⟨Nat.toDigits_ne_nil, ?_⟩
  intro c hc
  have hdigit : c.isDigit = true := Nat.isDigit_of_mem_toDigits (by decide) (by decide) hc
  obtain ⟨hlow, hhigh⟩ := Bool.and_eq_true_iff.1 hdigit
  exact ⟨of_decide_eq_true hlow, of_decide_eq_true hhigh⟩

theorem ofDigitChars_ten (digits : List Char) (value : Nat) :
    Nat.ofDigitChars 10 digits value = value * 10 ^ digits.length + decimalValue digits := by
  induction digits generalizing value with
  | nil => simp [decimalValue]
  | cons c rest ih =>
    rw [Nat.ofDigitChars_cons, ih, decimalValue_cons, List.length_cons, decimalDigit]
    ring

theorem numeral_decimalDigits (n : Nat) : Numeral (decimalDigits n) n := by
  have hvalue : decimalValue (decimalDigits n) = n := by
    have hread := ofDigitChars_ten (decimalDigits n) 0
    rw [Nat.zero_mul, Nat.zero_add] at hread
    rw [← hread]
    exact Nat.ofDigitChars_ten_toDigits
  have hnumeral := Numeral.plain (isDecimal_decimalDigits n)
  rwa [hvalue] at hnumeral

theorem isBlank_eq_false_of_digit {c : Char} (h : '0' ≤ c ∧ c ≤ '9') : Text.isBlank c = false := by
  have hlow : 48 ≤ c.toNat := h.1
  have hhigh : c.toNat ≤ 57 := h.2
  simp only [Text.isBlank, Bool.or_eq_false_iff, Bool.and_eq_false_iff, decide_eq_false_iff_not,
    beq_eq_false_iff_ne]
  omega

/-- A numeral is a word. -/
theorem Numeral.isWord {s : List Char} {n : Int} (h : Numeral s n) : Text.IsWord s := by
  have hdigits : ∀ {digits : List Char}, IsDecimal digits →
      ∀ c ∈ digits, Text.isBlank c = false :=
    fun h c hc => isBlank_eq_false_of_digit (h.2 c hc)
  cases h with
  | plain h => exact ⟨h.1, hdigits h⟩
  | plus h => exact ⟨List.cons_ne_nil _ _, List.forall_mem_cons.2 ⟨by decide, hdigits h⟩⟩
  | minus h => exact ⟨List.cons_ne_nil _ _, List.forall_mem_cons.2 ⟨by decide, hdigits h⟩⟩

end TransferGateway.Number
