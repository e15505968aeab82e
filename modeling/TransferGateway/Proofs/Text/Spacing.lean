import TransferGateway.Proofs.Text.Trim

/-!
# Spaced words

A text that is not blank is a first word and others behind gaps, with blanks at both ends, and its
words are these whatever the blanks are.
-/

namespace TransferGateway.Text

/-- Words, each behind the gap in front of it. -/
def behindGaps (rest : List (List Char × List Char)) : List Char :=
  rest.flatMap fun pair => pair.1 ++ pair.2

/-- Words with gaps between them and blanks at both ends. -/
structure Spacing where
  before : List Char
  first : List Char
  /-- Every further word, with the gap in front of it. -/
  rest : List (List Char × List Char)
  after : List Char
  blank_before : ∀ c ∈ before, isBlank c = true
  isWord_first : IsWord first
  spaced : ∀ pair ∈ rest, IsGap pair.1 ∧ IsWord pair.2
  blank_after : ∀ c ∈ after, isBlank c = true

namespace Spacing

/-- The text of a spacing. -/
def text (spacing : Spacing) : List Char :=
  spacing.before ++ spacing.first ++ behindGaps spacing.rest ++ spacing.after

/-- The words of a spacing. -/
def words (spacing : Spacing) : List (List Char) := spacing.first :: spacing.rest.map Prod.snd

/-- A single word, with blanks behind it. -/
def ofWord {w after : List Char} (hw : IsWord w) (hafter : ∀ c ∈ after, isBlank c = true) :
    Spacing where
  before := []
  first := w
  rest := []
  after := after
  blank_before := by simp
  isWord_first := hw
  spaced := by simp
  blank_after := hafter

/-- A word in front of a spacing, whose first blanks become the gap behind the word. -/
def push {w : List Char} (hw : IsWord w) {c : Char} (hc : isBlank c = true) (spacing : Spacing) :
    Spacing where
  before := []
  first := w
  rest := (c :: spacing.before, spacing.first) :: spacing.rest
  after := spacing.after
  blank_before := by simp
  isWord_first := hw
  spaced := by
    have hgap : IsGap (c :: spacing.before) :=
      ⟨List.cons_ne_nil c _, List.forall_mem_cons.2 ⟨hc, spacing.blank_before⟩⟩
    exact List.forall_mem_cons.2 ⟨⟨hgap, spacing.isWord_first⟩, spacing.spaced⟩
  blank_after := spacing.blank_after

variable {w after : List Char} {c : Char}

theorem text_ofWord (hw : IsWord w) (hafter : ∀ c ∈ after, isBlank c = true) :
    (ofWord hw hafter).text = w ++ after := by
  simp [ofWord, text, behindGaps]

theorem text_push (hw : IsWord w) (hc : isBlank c = true) (spacing : Spacing) :
    (push hw hc spacing).text = w ++ c :: spacing.text := by
  simp [push, text, behindGaps]

end Spacing

/-! ## From the words to the text and back -/

theorem words_append_of_blank {after : List Char} (h : ∀ c ∈ after, isBlank c = true)
    (s : List Char) : words (s ++ after) = words s := by
  cases after with
  | nil => rw [List.append_nil]
  | cons c after =>
    rw [List.forall_mem_cons] at h
    rw [words_append_blank h.1, words_eq_nil_of_blank h.2, List.append_nil]

theorem words_append_behindGaps {w after : List Char} (hw : IsWord w)
    {rest : List (List Char × List Char)} (hrest : ∀ pair ∈ rest, IsGap pair.1 ∧ IsWord pair.2)
    (hafter : ∀ c ∈ after, isBlank c = true) :
    words (w ++ behindGaps rest ++ after) = w :: rest.map Prod.snd := by
  induction rest generalizing w with
  | nil =>
    rw [behindGaps, List.flatMap_nil, List.append_nil, words_append_of_blank hafter,
      words_of_isWord hw, List.map_nil]
  | cons pair rest ih =>
    obtain ⟨⟨hgap, hword⟩, hrest⟩ := List.forall_mem_cons.1 hrest
    have htext : w ++ behindGaps (pair :: rest) ++ after =
        w ++ pair.1 ++ (pair.2 ++ behindGaps rest ++ after) := by
      simp [behindGaps]
    rw [htext, words_append_gap hw hgap, ih hword hrest, List.map_cons]

/-- The words of a spacing do not depend on its blanks. -/
theorem Spacing.words_text (spacing : Spacing) : Text.words spacing.text = spacing.words := by
  rw [text, List.append_assoc, List.append_assoc, words_gap_append spacing.blank_before,
    ← List.append_assoc]
  exact words_append_behindGaps spacing.isWord_first spacing.spaced spacing.blank_after

/-- Every text is blank, or words with gaps between them and blanks at both ends. -/
theorem blank_or_exists_spacing (s : List Char) :
    (∀ c ∈ s, isBlank c = true) ∨ ∃ spacing : Spacing, spacing.text = s := by
  induction s using induction_of_separators isBlank with
  | piece w hw =>
    cases w with
    | nil => exact .inl (by simp)
    | cons c w =>
      have hword : IsWord (c :: w) := ⟨List.cons_ne_nil c w, hw⟩
      have hnone : ∀ d ∈ ([] : List Char), isBlank d = true := by simp
      refine .inr ⟨.ofWord hword hnone, ?_⟩
      rw [Spacing.text_ofWord, List.append_nil]
  | append w c rest hw hc ih =>
    cases w with
    | nil =>
      -- The blank stands before the first word of the rest.
      rcases ih with hblank | ⟨spacing, rfl⟩
      · exact .inl (List.forall_mem_cons.2 ⟨hc, hblank⟩)
      · have hbefore : ∀ d ∈ c :: spacing.before, isBlank d = true :=
          List.forall_mem_cons.2 ⟨hc, spacing.blank_before⟩
        exact .inr ⟨{ spacing with before := c :: spacing.before, blank_before := hbefore }, rfl⟩
    | cons d w =>
      have hword : IsWord (d :: w) := ⟨List.cons_ne_nil d w, hw⟩
      rcases ih with hblank | ⟨spacing, rfl⟩
      · have hafter : ∀ d ∈ c :: rest, isBlank d = true := List.forall_mem_cons.2 ⟨hc, hblank⟩
        exact .inr ⟨.ofWord hword hafter, Spacing.text_ofWord hword hafter⟩
      · exact .inr ⟨.push hword hc spacing, Spacing.text_push hword hc spacing⟩

theorem words_eq_nil_iff {s : List Char} : words s = [] ↔ ∀ c ∈ s, isBlank c = true := by
  refine ⟨fun h => ?_, words_eq_nil_of_blank⟩
  rcases blank_or_exists_spacing s with hblank | ⟨spacing, rfl⟩
  · exact hblank
  · rw [spacing.words_text] at h
    exact absurd h (List.cons_ne_nil _ _)

end TransferGateway.Text
