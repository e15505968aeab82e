/-!
# Blanks and words

A blank is a character with the Unicode White_Space property.  Texts are trimmed and split at
blanks.  Main statements: every word is nonempty and blank-free, and together the words are
the text less its blanks.
-/

namespace TransferGateway.Text

/-- A character with the Unicode White_Space property. -/
def isBlank (c : Char) : Bool :=
  let n := c.toNat
  (9 ≤ n && n ≤ 13) || n == 0x20 || n == 0x85 || n == 0xA0 || n == 0x1680 ||
    (0x2000 ≤ n && n ≤ 0x200A) || n == 0x2028 || n == 0x2029 || n == 0x202F || n == 0x205F ||
    n == 0x3000

theorem isBlank_of_isWhitespace {c : Char} (h : c.isWhitespace = true) : isBlank c = true := by
  simp only [Char.isWhitespace, Bool.or_eq_true, decide_eq_true_eq] at h
  rcases h with ((rfl | rfl) | rfl) | rfl <;> rfl

/-- Drop the blanks at the start. -/
def trimStart (s : List Char) : List Char := s.dropWhile isBlank

/-- Drop the blanks at the end. -/
def trimEnd (s : List Char) : List Char := (s.reverse.dropWhile isBlank).reverse

/-- Drop the blanks at both ends. -/
def trim (s : List Char) : List Char := trimEnd (trimStart s)

/-- Put a character in front of the first word. -/
def growFirst (c : Char) : List (List Char) → List (List Char)
  | [] => [[c]]
  | w :: ws => (c :: w) :: ws

/-- Whether a text begins with a character that is not blank. -/
def startsWord : List Char → Bool
  | [] => false
  | c :: _ => !isBlank c

/-- The maximal runs of characters that are not blank, in order. -/
def words : List Char → List (List Char)
  | [] => []
  | c :: rest =>
    if isBlank c then words rest
    else if startsWord rest then growFirst c (words rest)
    else [c] :: words rest

/-- Split at the first blank: what stands before it, and what stands after it if there is one. -/
def splitAtBlank : List Char → List Char × Option (List Char)
  | [] => ([], none)
  | c :: rest =>
    if isBlank c then ([], some rest)
    else
      let (head, tail) := splitAtBlank rest
      (c :: head, tail)

/-- A word: nonempty and free of blanks. -/
def IsWord (w : List Char) : Prop := w ≠ [] ∧ ∀ c ∈ w, isBlank c = false

theorem isWord_iff_all {w : List Char} :
    (!w.isEmpty && w.all fun c => !isBlank c) = true ↔ IsWord w := by
  simp [IsWord]

instance (w : List Char) : Decidable (IsWord w) := decidable_of_decidable_of_iff isWord_iff_all

theorem words_eq_nil_of_blank {s : List Char} (h : ∀ c ∈ s, isBlank c = true) : words s = [] := by
  induction s with
  | nil => rfl
  | cons c rest ih =>
    have hc : isBlank c = true := h c (by simp)
    simp [words, hc, ih (fun d hd => h d (by simp [hd]))]

theorem isWord_of_mem_words {s w : List Char} (h : w ∈ words s) : IsWord w := by
  induction s generalizing w with
  | nil => simp [words] at h
  | cons c rest ih =>
    unfold words at h
    split at h
    · exact ih h
    · rename_i hc
      have hc' : isBlank c = false := by simpa using hc
      split at h
      · cases hw : words rest with
        | nil =>
          rw [hw] at h
          simp only [growFirst, List.mem_singleton] at h
          subst h
          exact ⟨by simp, by simp [hc']⟩
        | cons v vs =>
          rw [hw] at h
          simp only [growFirst, List.mem_cons] at h
          rcases h with rfl | h
          · have hv := ih (w := v) (by simp [hw])
            refine ⟨by simp, ?_⟩
            intro d hd
            rcases List.mem_cons.1 hd with rfl | hd
            · exact hc'
            · exact hv.2 d hd
          · exact ih (by simp [hw, h])
      · rcases List.mem_cons.1 h with rfl | h
        · exact ⟨by simp, by simp [hc']⟩
        · exact ih h

theorem flatten_growFirst (c : Char) (ws : List (List Char)) :
    (growFirst c ws).flatten = c :: ws.flatten := by
  cases ws <;> simp [growFirst]

theorem flatten_words (s : List Char) : (words s).flatten = s.filter (fun c => !isBlank c) := by
  induction s with
  | nil => rfl
  | cons c rest ih =>
    unfold words
    by_cases hc : isBlank c = true
    · simp [hc, ih]
    · have hc' : isBlank c = false := by simpa using hc
      by_cases hs : startsWord rest = true
      · simp [hc', hs, flatten_growFirst, ih]
      · simp [hc', hs, ih]

/-- The words joined by single spaces. -/
def unwords : List (List Char) → List Char
  | [] => []
  | [w] => w
  | w :: v :: rest => w ++ ' ' :: unwords (v :: rest)

end TransferGateway.Text

namespace TransferGateway

/-- The text without the blanks at both ends. -/
def trimmed (s : String) : String := String.ofList (Text.trim s.toList)

/-- The words of a text. -/
def wordsOf (s : String) : List String := (Text.words s.toList).map String.ofList

/-- The words joined by single spaces. -/
def joinWords (ws : List String) : String := String.ofList (Text.unwords (ws.map String.toList))

end TransferGateway
