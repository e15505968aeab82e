/-!
# Splitting at a separator

A text cut at every place where a separator character stands; the pieces may be empty, and
there is always one more piece than separators.
-/

namespace TransferGateway.Text

/-- The pieces of a text between the characters that satisfy the test. -/
def splitWhere (isSeparator : Char → Bool) : List Char → List (List Char)
  | [] => [[]]
  | c :: rest =>
    if isSeparator c then [] :: splitWhere isSeparator rest
    else
      match splitWhere isSeparator rest with
      | [] => [[c]]
      | piece :: pieces => (c :: piece) :: pieces

/-- The pieces of a text between separators. -/
def splitAtChar (separator : Char) (s : List Char) : List (List Char) :=
  splitWhere (fun c => c == separator) s

/-- A text without the separator is one piece. -/
theorem splitAtChar_of_not_mem {separator : Char} {s : List Char} (h : separator ∉ s) :
    splitAtChar separator s = [s] := by
  induction s with
  | nil => rfl
  | cons c rest ih =>
    have hc : (c == separator) = false := by
      rw [beq_eq_false_iff_ne]
      rintro rfl
      exact h (by simp)
    have hrest : splitAtChar separator rest = [rest] := ih fun hmem => h (by simp [hmem])
    unfold splitAtChar at hrest ⊢
    simp [splitWhere, hc, hrest]

theorem splitAtChar_ne_nil (separator : Char) (s : List Char) : splitAtChar separator s ≠ [] := by
  cases s with
  | nil => simp [splitAtChar, splitWhere]
  | cons c rest =>
    unfold splitAtChar splitWhere
    split
    · simp
    · split <;> simp

/-- A separator stands between the pieces of its two sides. -/
theorem splitAtChar_append (separator : Char) (s rest : List Char) :
    splitAtChar separator (s ++ separator :: rest) =
      splitAtChar separator s ++ splitAtChar separator rest := by
  induction s with
  | nil => simp [splitAtChar, splitWhere]
  | cons c s ih =>
    have hne := splitAtChar_ne_nil separator s
    unfold splitAtChar at ih hne ⊢
    by_cases hc : (c == separator) = true
    · simp [splitWhere, hc, ih]
    · cases hpieces : splitWhere (fun c => c == separator) s with
      | nil => exact absurd hpieces hne
      | cons piece pieces => simp [splitWhere, hc, ih, hpieces]

/-- The first piece ends at the first separator. -/
theorem splitAtChar_append_cons {separator : Char} {piece : List Char} (h : separator ∉ piece)
    (rest : List Char) :
    splitAtChar separator (piece ++ separator :: rest) = piece :: splitAtChar separator rest := by
  rw [splitAtChar_append, splitAtChar_of_not_mem h, List.singleton_append]

/-- A text is one piece, or a piece, a separator and another text. -/
theorem induction_of_separators (isSeparator : Char → Bool) {motive : List Char → Prop}
    (piece : ∀ piece, (∀ c ∈ piece, isSeparator c = false) → motive piece)
    (append : ∀ piece c rest, (∀ d ∈ piece, isSeparator d = false) → isSeparator c = true →
      motive rest → motive (piece ++ c :: rest))
    (s : List Char) : motive s := by
  -- The induction carries the piece before the rest of the text.
  have hall : ∀ rest first : List Char, (∀ c ∈ first, isSeparator c = false) →
      motive (first ++ rest) := by
    intro rest
    induction rest with
    | nil =>
      intro first hfirst
      rw [List.append_nil]
      exact piece first hfirst
    | cons c rest ih =>
      intro first hfirst
      cases hc : isSeparator c with
      | true => exact append first c rest hfirst hc (ih [] (by simp))
      | false =>
        have hlonger : ∀ d ∈ first ++ [c], isSeparator d = false := by
          intro d hd
          rcases List.mem_append.1 hd with hd | hd
          · exact hfirst d hd
          · rwa [List.mem_singleton.1 hd]
        simpa using ih (first ++ [c]) hlonger
  exact hall s [] (by simp)

theorem induction_of_pieces (separator : Char) {motive : List Char → Prop}
    (piece : ∀ piece, separator ∉ piece → motive piece)
    (append : ∀ piece rest, separator ∉ piece → motive rest → motive (piece ++ separator :: rest))
    (s : List Char) : motive s := by
  have hnot : ∀ piece : List Char, (∀ c ∈ piece, (c == separator) = false) → separator ∉ piece := by
    intro piece hpiece hmem
    have hself := hpiece separator hmem
    rw [beq_self_eq_true] at hself
    contradiction
  induction s using induction_of_separators fun c => c == separator with
  | piece first hfirst => exact piece first (hnot first hfirst)
  | append first c rest hfirst hc ih =>
    rw [beq_iff_eq.1 hc]
    exact append first rest (hnot first hfirst) ih

/-- Split at the first separator, if there is one. -/
def splitOnce (separator : Char) : List Char → Option (List Char × List Char)
  | [] => none
  | c :: rest =>
    if c = separator then some ([], rest)
    else (splitOnce separator rest).map fun (head, tail) => (c :: head, tail)

end TransferGateway.Text
