import Mathlib
import TransferGateway.Proofs.Text.Trim

/-!
# Letters in either case

When a text spells a word: the word is written with its ASCII letters in either case, and blanks may
stand around it.  All spellings of a word have one canonical form, the trimmed text in capital
letters, and only they do.
-/

namespace TransferGateway.Text

/-- The small and the capital form of an ASCII letter. -/
structure IsLetter (small capital : Char) : Prop where
  lower : small.isLower = true
  apart : small.toNat = capital.toNat + 32

/-- One character, or both forms of one ASCII letter. -/
inductive SameLetter : Char → Char → Prop where
  | same (c : Char) : SameLetter c c
  | lowered {small capital : Char} (h : IsLetter small capital) : SameLetter small capital
  | raised {small capital : Char} (h : IsLetter small capital) : SameLetter capital small

/-- A text with the same letters as another one, each in either case. -/
def SameLetters (s t : List Char) : Prop := List.Forall₂ SameLetter s t

/-- A text that spells a word: the letters of the word between blanks. -/
inductive Spells : List Char → List Char → Prop where
  | mk {before core after word : List Char} (before_blank : ∀ c ∈ before, isBlank c = true)
      (letters : SameLetters core word) (after_blank : ∀ c ∈ after, isBlank c = true) :
      Spells (before ++ core ++ after) word

variable {s t w : List Char} {c d small capital : Char}

/-! ## Capital letters -/

theorem isLower_iff : c.isLower = true ↔ 97 ≤ c.toNat ∧ c.toNat ≤ 122 := by
  simp [Char.isLower, UInt32.le_iff_toNat_le]

theorem toNat_toUpper_of_isLower (h : c.isLower = true) : c.toUpper.toNat = c.toNat - 32 := by
  obtain ⟨hleast, hgreatest⟩ := isLower_iff.1 h
  have hvalid : (c.toNat - 32).isValidChar := by
    left
    omega
  rw [Char.toUpper_eq_of_isLower h, Char.toNat_ofNat, if_pos hvalid]

theorem isLetter_iff : IsLetter small capital ↔ small.isLower = true ∧ small.toUpper = capital := by
  constructor
  · rintro ⟨hlower, hapart⟩
    refine ⟨hlower, Char.toNat_inj.1 ?_⟩
    rw [toNat_toUpper_of_isLower hlower, hapart, Nat.add_sub_cancel]
  · rintro ⟨hlower, rfl⟩
    refine ⟨hlower, ?_⟩
    have hrange := isLower_iff.1 hlower
    rw [toNat_toUpper_of_isLower hlower]
    omega

/-- Two characters are one letter if they are the same in capitals. -/
theorem sameLetter_iff : SameLetter c d ↔ c.toUpper = d.toUpper := by
  constructor
  · intro h
    cases h with
    | same => rfl
    | lowered h =>
      obtain ⟨-, rfl⟩ := isLetter_iff.1 h
      rw [Char.toUpper_toUpper_eq_toUpper]
    | raised h =>
      obtain ⟨-, rfl⟩ := isLetter_iff.1 h
      rw [Char.toUpper_toUpper_eq_toUpper]
  · intro h
    by_cases hc : c.isLower = true <;> by_cases hd : d.isLower = true
    · have hnat := congrArg Char.toNat h
      rw [toNat_toUpper_of_isLower hc, toNat_toUpper_of_isLower hd] at hnat
      have hrange := isLower_iff.1 hc
      have hrange' := isLower_iff.1 hd
      have heq : c = d := Char.toNat_inj.1 (by omega)
      rw [heq]
      exact .same d
    · rw [Char.toUpper_eq_of_not_isLower hd] at h
      exact .lowered (isLetter_iff.2 ⟨hc, h⟩)
    · rw [Char.toUpper_eq_of_not_isLower hc] at h
      exact .raised (isLetter_iff.2 ⟨hd, h.symm⟩)
    · rw [Char.toUpper_eq_of_not_isLower hc, Char.toUpper_eq_of_not_isLower hd] at h
      rw [h]
      exact .same d

theorem sameLetters_iff : SameLetters s t ↔ s.map Char.toUpper = t.map Char.toUpper := by
  rw [← List.forall₂_eq_eq_eq, List.forall₂_map_left_iff, List.forall₂_map_right_iff]
  simp only [← sameLetter_iff]
  rfl

theorem isBlank_toUpper (c : Char) : isBlank c.toUpper = isBlank c := by
  by_cases hc : c.isLower = true
  · -- Letters are not blank, in either case.
    have hrange := isLower_iff.1 hc
    have hnat := toNat_toUpper_of_isLower hc
    simp only [isBlank, hnat]
    grind
  · rw [Char.toUpper_eq_of_not_isLower hc]

/-! ## Trimming a spelling -/

theorem trimStart_map_toUpper (s : List Char) :
    trimStart (s.map Char.toUpper) = (trimStart s).map Char.toUpper := by
  have hblank : isBlank ∘ Char.toUpper = isBlank := funext isBlank_toUpper
  rw [trimStart, List.dropWhile_map, hblank]
  rfl

theorem trimEnd_map_toUpper (s : List Char) :
    trimEnd (s.map Char.toUpper) = (trimEnd s).map Char.toUpper := by
  have hstart := trimStart_map_toUpper s.reverse
  rw [trimStart, List.map_reverse] at hstart
  rw [trimEnd, hstart, ← List.map_reverse]
  rfl

/-- Trimming and capital letters may come in either order. -/
theorem trim_map_toUpper (s : List Char) :
    trim (s.map Char.toUpper) = (trim s).map Char.toUpper := by
  rw [trim, trimStart_map_toUpper, trimEnd_map_toUpper, trim]

/-- All spellings of a word are the same in capital letters, once they are trimmed. -/
theorem Spells.capitals (h : Spells s w) :
    (trim s).map Char.toUpper = (trim w).map Char.toUpper := by
  cases h with
  | mk before_blank letters after_blank =>
    rw [trim_append_gap after_blank, trim_gap_append before_blank, ← trim_map_toUpper,
      sameLetters_iff.1 letters, trim_map_toUpper]

theorem spells_of_capitals (h : (trim s).map Char.toUpper = w.map Char.toUpper) : Spells s w := by
  obtain ⟨before, after, hbefore, hafter, hs⟩ := exists_trim s
  rw [hs]
  exact .mk hbefore (sameLetters_iff.2 h) hafter

/-- What stands in a spelling of letters are blanks and letters. -/
theorem Spells.blank_or_isAlpha (h : Spells s w) (hw : ∀ c ∈ w, c.isAlpha = true) :
    ∀ c ∈ s, isBlank c = true ∨ c.isAlpha = true := by
  cases h with
  | @mk before core after _ before_blank letters after_blank =>
    have hcore : ∀ c ∈ core, c.isAlpha = true := by
      intro c hc
      have hmem : c.toUpper ∈ w.map Char.toUpper := by
        rw [← sameLetters_iff.1 letters]
        exact List.mem_map_of_mem hc
      obtain ⟨d, hd, hsame⟩ := List.mem_map.1 hmem
      rw [← Char.isAlpha_toUpper_eq_isAlpha, ← hsame, Char.isAlpha_toUpper_eq_isAlpha]
      exact hw d hd
    simp only [List.forall_mem_append]
    exact ⟨⟨fun c hc => .inl (before_blank c hc), fun c hc => .inr (hcore c hc)⟩,
      fun c hc => .inl (after_blank c hc)⟩

end TransferGateway.Text
