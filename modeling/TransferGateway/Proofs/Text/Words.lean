import TransferGateway.Text.Blank

/-!
# Words of a text

A text without blanks is at most one word, and a blank stands between the words of its two sides.
So texts that are joined by single spaces keep their words.
-/

namespace TransferGateway.Text

theorem words_ne_nil_of_startsWord {s : List Char} (h : startsWord s = true) : words s ≠ [] := by
  cases s with
  | nil => simp [startsWord] at h
  | cons c rest =>
    have hc : isBlank c = false := by simpa [startsWord] using h
    unfold words
    rw [if_neg (by simp [hc])]
    split
    · cases words rest <;> simp [growFirst]
    · simp

theorem growFirst_append {ws : List (List Char)} (h : ws ≠ []) (c : Char)
    (vs : List (List Char)) : growFirst c (ws ++ vs) = growFirst c ws ++ vs := by
  cases ws with
  | nil => contradiction
  | cons w ws => rfl

/-- A blank stands between the words of its two sides. -/
theorem words_append_blank {c : Char} (hc : isBlank c = true) (s t : List Char) :
    words (s ++ c :: t) = words s ++ words t := by
  induction s with
  | nil => simp [words, hc]
  | cons d s ih =>
    have hstarts : startsWord (s ++ c :: t) = startsWord s := by
      cases s <;> simp [startsWord, hc]
    rw [List.cons_append, words, words, hstarts, ih]
    by_cases hd : isBlank d = true
    · rw [if_pos hd, if_pos hd]
    · rw [if_neg hd, if_neg hd]
      by_cases hs : startsWord s = true
      · rw [if_pos hs, if_pos hs, growFirst_append (words_ne_nil_of_startsWord hs)]
      · rw [if_neg hs, if_neg hs, List.cons_append]

/-- A word is the only word of its text. -/
theorem words_of_isWord {w : List Char} (h : IsWord w) : words w = [w] := by
  obtain ⟨hne, hblank⟩ := h
  induction w with
  | nil => contradiction
  | cons c w ih =>
    have hc : isBlank c = false := hblank c (by simp)
    have hrest : ∀ d ∈ w, isBlank d = false := fun d hd => hblank d (by simp [hd])
    rw [words, if_neg (by simp [hc])]
    cases w with
    | nil => simp [startsWord, words]
    | cons d w =>
      have hd : startsWord (d :: w) = true := by simp [startsWord, hrest d]
      rw [if_pos hd, ih (by simp) hrest, growFirst]

theorem words_unwords (texts : List (List Char)) :
    words (unwords texts) = texts.flatMap words := by
  induction texts with
  | nil => rfl
  | cons s rest ih =>
    cases rest with
    | nil => simp [unwords]
    | cons t rest =>
      have hspace : isBlank ' ' = true := by decide
      rw [unwords, words_append_blank hspace, ih]
      exact List.flatMap_cons.symm

end TransferGateway.Text

namespace TransferGateway

/-- Texts that are joined by single spaces keep their words. -/
theorem wordsOf_joinWords (texts : List String) :
    wordsOf (joinWords texts) = texts.flatMap wordsOf := by
  rw [wordsOf, joinWords, String.toList_ofList, Text.words_unwords, List.flatMap_map,
    List.map_flatMap]
  rfl

theorem wordsOf_eq_singleton {word : String} (h : Text.IsWord word.toList) :
    wordsOf word = [word] := by
  rw [wordsOf, Text.words_of_isWord h, List.map_singleton, String.ofList_toList]

/-- Words that are joined by single spaces are the words of the text. -/
theorem wordsOf_joinWords_eq_self {words : List String}
    (h : ∀ word ∈ words, Text.IsWord word.toList) : wordsOf (joinWords words) = words := by
  rw [wordsOf_joinWords]
  induction words with
  | nil => rfl
  | cons word rest ih =>
    have hrest : rest.flatMap wordsOf = rest :=
      ih fun other hother => h other (List.mem_cons_of_mem _ hother)
    rw [List.flatMap_cons, wordsOf_eq_singleton (h word List.mem_cons_self), hrest,
      List.singleton_append]

theorem isWord_of_mem_wordsOf {text word : String} (h : word ∈ wordsOf text) :
    Text.IsWord word.toList := by
  obtain ⟨chars, hchars, rfl⟩ := List.mem_map.1 h
  rw [String.toList_ofList]
  exact Text.isWord_of_mem_words hchars

end TransferGateway
