import TransferGateway.Proofs.Template.Rounds
import TransferGateway.Proofs.Text.Words

/-!
# Expansion word by word

No marker has a blank, so the words of a template are expanded on their own: the words of the line
are the words that they give, in order.
-/

namespace TransferGateway.Template

variable {ctx : TransferContext}

theorem separates_of_isBlank {c : Char} (hc : Text.isBlank c = true) : Separates c := by
  have hmarkers : ∀ m ∈ Marker.all, m.chars.all (fun d => !Text.isBlank d) = true := by decide
  intro m hm hmem
  have hnot : (!Text.isBlank c) = true := List.all_eq_true.1 (hmarkers m hm) c hmem
  rw [hc] at hnot
  contradiction

/-- The words that a word of a template gives; none if its expansion never ends. -/
def expandedWords (ctx : TransferContext) (word : String) : List String :=
  match expand ctx word with
  | none => []
  | some text => wordsOf text

theorem expandedWords_of_expand {word text : String} (h : expand ctx word = some text) :
    expandedWords ctx word = wordsOf text := by
  simp only [expandedWords, h]

/-- Words without markers are kept. -/
theorem flatMap_expandedWords {words : List String}
    (h : ∀ word ∈ words, hasMarker word.toList = false) :
    words.flatMap (expandedWords ctx) = words.flatMap wordsOf := by
  rw [List.flatMap_def, List.flatMap_def, List.map_congr_left]
  intro word hword
  exact expandedWords_of_expand (expand_eq_some_iff.2 (.done (h word hword)))

theorem expandedWords_of_expands {w t : List Char} (h : Expands ctx w t) :
    expandedWords ctx (String.ofList w) = (Text.words t).map String.ofList := by
  have hexpand : expand ctx (String.ofList w) = some (String.ofList t) := by
    rw [expand_eq_some_iff, String.toList_ofList, String.toList_ofList]
    exact h
  rw [expandedWords_of_expand hexpand, wordsOf, String.toList_ofList]

theorem words_expands_of_blank_free {s u : List Char} (hs : ∀ c ∈ s, Text.isBlank c = false)
    (h : Expands ctx s u) :
    (Text.words u).map String.ofList =
      ((Text.words s).map String.ofList).flatMap (expandedWords ctx) := by
  by_cases hnil : s = []
  · subst hnil
    cases h with
    | done _ => rfl
    | next hmarker _ => exact absurd hmarker (by decide)
  · rw [Text.words_of_isWord ⟨hnil, hs⟩, List.map_singleton, List.flatMap_singleton,
      expandedWords_of_expands h]

theorem words_expands {s u : List Char} (h : Expands ctx s u) :
    (Text.words u).map String.ofList =
      ((Text.words s).map String.ofList).flatMap (expandedWords ctx) := by
  induction s using Text.induction_of_separators Text.isBlank generalizing u with
  | piece s hs => exact words_expands_of_blank_free hs h
  | append first c rest hfirst hc ih =>
    obtain ⟨first', rest', hleft, hright, rfl⟩ := h.separator (separates_of_isBlank hc)
    rw [Text.words_append_blank hc, Text.words_append_blank hc, List.map_append, List.map_append,
      List.flatMap_append, words_expands_of_blank_free hfirst hleft, ih hright]

/-- The words of a line are the words that the words of its template give. -/
theorem wordsOf_expand {template line : String} (h : expand ctx template = some line) :
    wordsOf line = (wordsOf template).flatMap (expandedWords ctx) :=
  words_expands (expand_eq_some_iff.1 h)

/-! ## Words that do not depend on the file -/

/-- A text is expanded without a round that meets the marker of the file. -/
inductive ExpandsApart (ctx : TransferContext) : List Char → List Char → Prop where
  | done {s : List Char} (h : hasMarker s = false) : ExpandsApart ctx s s
  | next {s t : List Char} (h : hasMarker s = true)
      (hfile : Text.holds Marker.file.chars
        ([Marker.user, .account, .basePath].foldl (substitute ctx) s) = false)
      (rest : ExpandsApart ctx (round ctx s) t) : ExpandsApart ctx s t

theorem round_withFile {s : List Char}
    (hfile : Text.holds Marker.file.chars
      ([Marker.user, .account, .basePath].foldl (substitute ctx) s) = false) (file : String) :
    round { ctx with file } s = round ctx s := by
  have hnot := Text.holds_eq_false_iff.1 hfile
  simp only [round, Marker.all, List.foldl_cons, List.foldl_nil, substitute,
    TransferContext.valueOf] at hnot ⊢
  rw [Text.replaceAll_eq_self (chars_ne_nil .file) hnot,
    Text.replaceAll_eq_self (chars_ne_nil .file) hnot]

/-- Such a text is expanded to the same text for every file. -/
theorem ExpandsApart.expands {s t : List Char} (h : ExpandsApart ctx s t) (file : String) :
    Expands { ctx with file } s t := by
  induction h with
  | done h => exact .done h
  | next h hfile _ ih =>
    refine .next h ?_
    rwa [round_withFile hfile]

end TransferGateway.Template
