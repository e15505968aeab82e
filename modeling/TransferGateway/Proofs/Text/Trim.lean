import Mathlib.Data.List.DropRight
import TransferGateway.Proofs.Text.Words
import TransferGateway.Text.Split

/-!
# Trimmed texts

Trimming leaves no blank at either end, and a text without such blanks as it is.  A trimmed text is
empty, or a word, or a word with a gap and another trimmed text behind it.
-/

namespace TransferGateway.Text

/-- A text without a blank at either end. -/
structure IsTrimmed (s : List Char) : Prop where
  first : ∀ c ∈ s.head?, isBlank c = false
  last : ∀ c ∈ s.getLast?, isBlank c = false

/-- A gap between words: blanks, one or more. -/
structure IsGap (s : List Char) : Prop where
  nonempty : s ≠ []
  blank : ∀ c ∈ s, isBlank c = true

theorem isGap_iff_all {s : List Char} : (!s.isEmpty && s.all isBlank) = true ↔ IsGap s := by
  rw [Bool.and_eq_true, List.all_eq_true]
  exact ⟨fun h => ⟨by simpa using h.1, h.2⟩, fun h => ⟨by simpa using h.nonempty, h.blank⟩⟩

instance (s : List Char) : Decidable (IsGap s) := decidable_of_decidable_of_iff isGap_iff_all

variable {s w gap rest : List Char}

theorem isGap_singleton {c : Char} (hc : isBlank c = true) : IsGap [c] where
  nonempty := List.cons_ne_nil c []
  blank := by simpa using hc

theorem IsWord.isTrimmed (h : IsWord w) : IsTrimmed w where
  first := fun c hc => h.2 c (List.mem_of_mem_head? hc)
  last := fun c hc => h.2 c (List.mem_of_mem_getLast? hc)

/-! ## Trimming -/

theorem trimStart_eq_self (h : ∀ c ∈ s.head?, isBlank c = false) : trimStart s = s := by
  cases s with
  | nil => rfl
  | cons c s =>
    have hc : isBlank c = false := h c (by simp)
    simp [trimStart, hc]

theorem trimEnd_eq_self (h : ∀ c ∈ s.getLast?, isBlank c = false) : trimEnd s = s := by
  refine List.rdropWhile_eq_self_iff.2 fun hne => ?_
  simp [h _ (List.getLast_mem_getLast? hne)]

theorem head?_trimStart (s : List Char) : ∀ c ∈ (trimStart s).head?, isBlank c = false := by
  intro c hc
  have hdrop := List.head?_dropWhile_not isBlank s
  rw [show List.dropWhile isBlank s = trimStart s from rfl, Option.mem_def.1 hc] at hdrop
  simpa using hdrop

theorem getLast?_trimEnd (s : List Char) : ∀ c ∈ (trimEnd s).getLast?, isBlank c = false := by
  intro c hc
  have hne : trimEnd s ≠ [] := by
    rintro hnil
    simp [hnil] at hc
  have hlast : (trimEnd s).getLast hne = c := by
    rw [List.getLast?_eq_some_getLast hne] at hc
    simpa using hc
  have hnot := List.rdropWhile_last_not isBlank s hne
  rw [show (List.rdropWhile isBlank s).getLast hne = c from hlast] at hnot
  simpa using hnot

theorem isTrimmed_trim (s : List Char) : IsTrimmed (trim s) where
  first := by
    intro c hc
    obtain ⟨rest, hrest⟩ : trim s <+: trimStart s := List.rdropWhile_prefix isBlank _
    refine head?_trimStart s c ?_
    rw [← hrest]
    simp [Option.mem_def.1 hc]
  last := getLast?_trimEnd (trimStart s)

theorem trim_eq_self (h : IsTrimmed s) : trim s = s := by
  rw [trim, trimStart_eq_self h.first, trimEnd_eq_self h.last]

theorem trim_gap_append (h : ∀ c ∈ gap, isBlank c = true) (s : List Char) :
    trim (gap ++ s) = trim s := by
  rw [trim, trimStart, List.dropWhile_append_of_pos h]
  rfl

theorem trimEnd_append_gap (h : ∀ c ∈ gap, isBlank c = true) (s : List Char) :
    trimEnd (s ++ gap) = trimEnd s := by
  have hreverse : ∀ c ∈ gap.reverse, isBlank c = true := fun c hc => h c (List.mem_reverse.1 hc)
  rw [trimEnd, List.reverse_append, List.dropWhile_append_of_pos hreverse]
  rfl

theorem trim_append_gap (h : ∀ c ∈ gap, isBlank c = true) (s : List Char) :
    trim (s ++ gap) = trim s := by
  cases hs : trimStart s with
  | nil =>
    -- The whole text is blank.
    have hblank : ∀ c ∈ s, isBlank c = true := List.dropWhile_eq_nil_iff.1 hs
    have hgap : trimStart gap = [] := List.dropWhile_eq_nil_iff.2 h
    rw [trim_gap_append hblank, trim, trim, hgap, hs]
  | cons d rest =>
    have hstart : trimStart (s ++ gap) = d :: rest ++ gap := by
      rw [trimStart] at hs
      rw [trimStart, List.dropWhile_append, hs]
      rfl
    rw [trim, trim, hstart, hs, trimEnd_append_gap h]

/-- Blanks stand around what is left of a text by trimming. -/
theorem exists_trim (s : List Char) :
    ∃ before after : List Char, (∀ c ∈ before, isBlank c = true) ∧
      (∀ c ∈ after, isBlank c = true) ∧ s = before ++ trim s ++ after := by
  have hstart : s.takeWhile isBlank ++ trimStart s = s := List.takeWhile_append_dropWhile
  have hend : trim s ++ (trimStart s).rtakeWhile isBlank = trimStart s :=
    List.rdropWhile_append_rtakeWhile
  refine ⟨s.takeWhile isBlank, (trimStart s).rtakeWhile isBlank, ?_, ?_, ?_⟩
  · exact fun c hc => List.mem_takeWhile_imp hc
  · exact fun c hc => List.mem_rtakeWhile_imp hc
  · rw [List.append_assoc, hend, hstart]

theorem isTrimmed_append (hw : IsTrimmed w) (hne : w ≠ []) (gap : List Char)
    (hrest : IsTrimmed rest) (hne' : rest ≠ []) : IsTrimmed (w ++ gap ++ rest) where
  first := by
    intro c hc
    rw [List.append_assoc, List.head?_append_of_ne_nil _ hne] at hc
    exact hw.first c hc
  last := by
    intro c hc
    rw [List.getLast?_append_of_ne_nil _ hne'] at hc
    exact hrest.last c hc

/-! ## The first word -/

/-- How a trimmed text begins. -/
inductive Shape : List Char → Prop where
  | empty : Shape []
  | word {w : List Char} (hw : IsWord w) : Shape w
  | more {w gap rest : List Char} (hw : IsWord w) (hgap : IsGap gap) (hrest : IsTrimmed rest)
      (hne : rest ≠ []) : Shape (w ++ gap ++ rest)

theorem IsTrimmed.shape (h : IsTrimmed s) : Shape s := by
  induction s using induction_of_separators isBlank with
  | piece w hw =>
    cases w with
    | nil => exact .empty
    | cons c w => exact .word ⟨by simp, hw⟩
  | append w c rest hw hc _ =>
    have hne : w ≠ [] := by
      rintro rfl
      have hfirst := h.first c (by simp)
      simp [hc] at hfirst
    have hsplit : rest.takeWhile isBlank ++ rest.dropWhile isBlank = rest :=
      List.takeWhile_append_dropWhile
    have hgap : IsGap (c :: rest.takeWhile isBlank) := by
      refine ⟨by simp, ?_⟩
      intro d hd
      rcases List.mem_cons.1 hd with rfl | hd
      · exact hc
      · exact List.mem_takeWhile_imp hd
    have htext : w ++ c :: rest =
        w ++ c :: rest.takeWhile isBlank ++ rest.dropWhile isBlank := by
      simp [hsplit]
    rw [htext] at h ⊢
    have hrest : rest.dropWhile isBlank ≠ [] := by
      -- Otherwise the text would end with the gap.
      intro hnil
      rw [hnil, List.append_nil] at h
      have hmem := List.getLast_mem hgap.nonempty
      have hlast := h.last _ (by rw [List.getLast?_append_of_ne_nil w hgap.nonempty,
        List.getLast?_eq_some_getLast hgap.nonempty, Option.mem_def])
      rw [hgap.blank _ hmem] at hlast
      contradiction
    refine .more ⟨hne, hw⟩ hgap ⟨head?_trimStart rest, ?_⟩ hrest
    intro d hd
    refine h.last d ?_
    rwa [List.getLast?_append_of_ne_nil _ hrest]

theorem splitAtBlank_of_isWord (h : IsWord w) : splitAtBlank w = (w, none) := by
  obtain ⟨-, hblank⟩ := h
  induction w with
  | nil => rfl
  | cons c w ih =>
    have hc : isBlank c = false := hblank c (by simp)
    simp [splitAtBlank, hc, ih fun d hd => hblank d (by simp [hd])]

/-- A text is split behind its first word. -/
theorem splitAtBlank_append (hw : IsWord w) {c : Char} (hc : isBlank c = true) (s : List Char) :
    splitAtBlank (w ++ c :: s) = (w, some s) := by
  obtain ⟨-, hblank⟩ := hw
  induction w with
  | nil => simp [splitAtBlank, hc]
  | cons d w ih =>
    have hd : isBlank d = false := hblank d (by simp)
    simp [splitAtBlank, hd, ih fun e he => hblank e (by simp [he])]

theorem splitAtBlank_gap (hw : IsWord w) (hgap : IsGap gap) (hrest : IsTrimmed rest) :
    ∃ tail, splitAtBlank (w ++ gap ++ rest) = (w, some tail) ∧ trim tail = rest := by
  cases gap with
  | nil => exact absurd rfl hgap.nonempty
  | cons c gap =>
    refine ⟨gap ++ rest, ?_, ?_⟩
    · simpa using splitAtBlank_append hw (hgap.blank c (by simp)) (gap ++ rest)
    · rw [trim_gap_append fun d hd => hgap.blank d (by simp [hd]), trim_eq_self hrest]

theorem words_gap_append (hgap : ∀ c ∈ gap, isBlank c = true) (s : List Char) :
    words (gap ++ s) = words s := by
  induction gap with
  | nil => rfl
  | cons c gap ih =>
    have hc : isBlank c = true := hgap c (by simp)
    simp [words, hc, ih fun d hd => hgap d (by simp [hd])]

theorem words_append_gap (hw : IsWord w) (hgap : IsGap gap) (rest : List Char) :
    words (w ++ gap ++ rest) = w :: words rest := by
  cases gap with
  | nil => exact absurd rfl hgap.nonempty
  | cons c gap =>
    rw [List.append_assoc, List.cons_append, words_append_blank (hgap.blank c (by simp)),
      words_of_isWord hw, words_gap_append fun d hd => hgap.blank d (by simp [hd])]
    rfl

theorem words_ne_nil (h : IsTrimmed s) (hne : s ≠ []) : words s ≠ [] := by
  cases s with
  | nil => exact absurd rfl hne
  | cons c s =>
    refine words_ne_nil_of_startsWord ?_
    simp [startsWord, h.first c (by simp)]

theorem ne_nil_of_words {more : List (List Char)} (h : words s = w :: more) : s ≠ [] := by
  rintro rfl
  simp [words] at h

/-- A trimmed text is a single word exactly when that is its only word. -/
theorem IsTrimmed.eq_iff_words (h : IsTrimmed s) (hw : IsWord w) : s = w ↔ words s = [w] := by
  refine ⟨fun hs => by rw [hs, words_of_isWord hw], fun hwords => ?_⟩
  cases h.shape with
  | empty => simp [words] at hwords
  | word hv =>
    rw [words_of_isWord hv] at hwords
    exact List.singleton_injective hwords
  | more hv hgap hrest hne =>
    rw [words_append_gap hv hgap] at hwords
    exact absurd (List.cons.inj hwords).2 (words_ne_nil hrest hne)

theorem IsTrimmed.eq_nil_iff_words (h : IsTrimmed s) : s = [] ↔ words s = [] := by
  refine ⟨fun hs => by rw [hs, words], fun hwords => ?_⟩
  by_contra hne
  exact words_ne_nil h hne hwords

end TransferGateway.Text
