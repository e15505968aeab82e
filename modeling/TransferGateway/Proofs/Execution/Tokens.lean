import TransferGateway.Execution.CommandLine
import TransferGateway.Proofs.Text.Spacing

/-!
# The words of a command line

A line is read as its words, the program first, however they are spaced.  So the words joined by
single spaces are a normal form of the line.
-/

namespace TransferGateway

namespace Text

/-- A spaced line. -/
def Spacing.line (spacing : Spacing) : String := String.ofList spacing.text

/-- The words of a spaced line: the program is the first one. -/
def Spacing.command (spacing : Spacing) : CommandLine :=
  ⟨String.ofList spacing.first, spacing.rest.map fun pair => String.ofList pair.2⟩

end Text

/-- The text without its blanks. -/
def unblanked (text : String) : String :=
  String.ofList (text.toList.filter fun c => !Text.isBlank c)

theorem join_wordsOf (text : String) : String.join (wordsOf text) = unblanked text := by
  rw [← String.toList_inj, unblanked, String.toList_ofList, String.toList_join, wordsOf,
    ← Text.flatten_words, List.flatMap_map]
  simp [List.flatMap_id']

namespace CommandLine

theorem ofList?_eq_some_iff {words : List String} {command : CommandLine} :
    ofList? words = some command ↔ words = command.toList := by
  cases words with
  | nil => simp [ofList?, toList]
  | cons program arguments =>
    cases command
    simp [ofList?, toList]

theorem tokenize_eq_some_iff {text : String} {command : CommandLine} :
    tokenize text = some command ↔ wordsOf text = command.toList := ofList?_eq_some_iff

theorem tokenize_line (spacing : Text.Spacing) : tokenize spacing.line = some spacing.command := by
  rw [tokenize_eq_some_iff, wordsOf, Text.Spacing.line, String.toList_ofList, spacing.words_text]
  simp [Text.Spacing.words, Text.Spacing.command, toList]

theorem tokenize_eq_none_iff_blank (text : String) :
    tokenize text = none ↔ ∀ c ∈ text.toList, Text.isBlank c = true := by
  rw [tokenize_eq_none_iff, wordsOf, List.map_eq_nil_iff, Text.words_eq_nil_iff]

/-- A spaced line is read as its words, the program first, and exactly the blank lines have none.
What a line is read as are the words of one of its spacings; together they are the line without its
blanks, and joined by single spaces they are read as the same command line. -/
theorem tokenize_normal :
    (∀ spacing : Text.Spacing, tokenize spacing.line = some spacing.command) ∧
    (∀ text : String, tokenize text = none ↔ ∀ c ∈ text.toList, Text.isBlank c = true) ∧
    ∀ (text : String) (command : CommandLine), tokenize text = some command →
      (∃ spacing : Text.Spacing, spacing.line = text ∧ spacing.command = command) ∧
      (∀ word ∈ command.toList, Text.IsWord word.toList) ∧
      String.join command.toList = unblanked text ∧
      tokenize (joinWords command.toList) = some command := by
  refine ⟨tokenize_line, tokenize_eq_none_iff_blank, fun text command h => ?_⟩
  have hwords : wordsOf text = command.toList := tokenize_eq_some_iff.1 h
  have hword : ∀ word ∈ command.toList, Text.IsWord word.toList := by
    intro word hmem
    rw [← hwords] at hmem
    exact isWord_of_mem_wordsOf hmem
  refine ⟨?_, hword, ?_, ?_⟩
  · rcases Text.blank_or_exists_spacing text.toList with hblank | ⟨spacing, hspacing⟩
    · rw [(tokenize_eq_none_iff_blank text).2 hblank] at h
      contradiction
    · have hline : spacing.line = text := by
        rw [Text.Spacing.line, hspacing, String.ofList_toList]
      have hsame := tokenize_line spacing
      rw [hline, h] at hsame
      exact ⟨spacing, hline, (Option.some.inj hsame).symm⟩
  · rw [← hwords, join_wordsOf]
  · rw [tokenize_eq_some_iff, wordsOf_joinWords_eq_self hword]

/-- A line with blanks of one, two and three octets, and with a quote, which keeps nothing
together. -/
def mixed : Text.Spacing where
  before := ['\u2003', '\t']
  first := "cp".toList
  rest := [(['\u00a0', ' '], "a.dat".toList), (['\u3000'], "'b".toList), ([' '], "c'".toList)]
  after := ['\u0085', '\n']
  blank_before := by simp [Text.isBlank]
  isWord_first := by decide
  spaced := by decide
  blank_after := by simp [Text.isBlank]

/-- The line is read as its four words, and so is its normal form. -/
theorem tokenize_normal_mixed :
    mixed.line = "\u2003\tcp\u00a0 a.dat\u3000'b c'\u0085\n" ∧
      tokenize mixed.line = some ⟨"cp", ["a.dat", "'b", "c'"]⟩ ∧
      tokenize "cp a.dat 'b c'" = some ⟨"cp", ["a.dat", "'b", "c'"]⟩ ∧
      unblanked mixed.line = "cpa.dat'bc'" ∧
      tokenize "\u2028\u205f" = none := by
  obtain ⟨hline, hnone, hback⟩ := tokenize_normal
  have hmixed : tokenize mixed.line = some ⟨"cp", ["a.dat", "'b", "c'"]⟩ := hline mixed
  obtain ⟨-, -, hjoin, hjoined⟩ := hback _ _ hmixed
  exact ⟨rfl, hmixed, hjoined, hjoin.symm, (hnone _).2 (by simp [Text.isBlank])⟩

end CommandLine

end TransferGateway
