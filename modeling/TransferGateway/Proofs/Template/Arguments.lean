import TransferGateway.Execution.CommandLine
import TransferGateway.Handoff.Request
import TransferGateway.Proofs.Template.Words

/-!
# Templates as lists of arguments

Values without blanks keep the words of a template apart: every word gives one word of the line, or
none if nothing is left of it.  So a client cannot add, join or move arguments by such values.
-/

namespace TransferGateway.Template

/-- A context none of whose facts has a blank. -/
structure Unspaced (ctx : TransferContext) : Prop where
  user : ∀ c ∈ ctx.user.toList, Text.isBlank c = false
  account : ∀ c ∈ ctx.account.toList, Text.isBlank c = false
  baseDirectory : ∀ c ∈ ctx.baseDirectory.toList, Text.isBlank c = false
  file : ∀ c ∈ ctx.file.toList, Text.isBlank c = false

variable {ctx : TransferContext} {template line : String}

theorem isBlank_code (operation : Operation) :
    ∀ c ∈ operation.code.toList, Text.isBlank c = false := by
  have hword : Text.IsWord operation.code.toList := by cases operation <;> decide
  exact hword.2

theorem Unspaced.valueOf (h : Unspaced ctx) (m : Marker) :
    ∀ c ∈ (ctx.valueOf m).toList, Text.isBlank c = false := by
  cases m with
  | user => exact h.user
  | account => exact h.account
  | basePath => exact h.baseDirectory
  | file => exact h.file
  | command => exact isBlank_code ctx.operation

/-! ## Whether expansion ends -/

theorem exists_expands_iff_of_blank_free {s : List Char} (hs : ∀ c ∈ s, Text.isBlank c = false) :
    (∃ t, Expands ctx s t) ↔ ∀ w ∈ Text.words s, ∃ t, Expands ctx w t := by
  by_cases hnil : s = []
  · subst hnil
    have hempty : Expands ctx [] [] := .done (by decide)
    exact ⟨fun _ w hw => absurd hw List.not_mem_nil, fun _ => ⟨[], hempty⟩⟩
  · rw [Text.words_of_isWord ⟨hnil, hs⟩]
    simp

/-- A text can be expanded if and only if each of its words can be. -/
theorem exists_expands_iff (s : List Char) :
    (∃ t, Expands ctx s t) ↔ ∀ w ∈ Text.words s, ∃ t, Expands ctx w t := by
  induction s using Text.induction_of_separators Text.isBlank with
  | piece s hs => exact exists_expands_iff_of_blank_free hs
  | append first c rest hfirst hc ih =>
    have hsides : (∃ u, Expands ctx (first ++ c :: rest) u) ↔
        (∃ t, Expands ctx first t) ∧ ∃ t, Expands ctx rest t := by
      simp only [expands_separator_iff (separates_of_isBlank hc)]
      constructor
      · rintro ⟨u, s', t', hs, ht, -⟩
        exact ⟨⟨s', hs⟩, t', ht⟩
      · rintro ⟨⟨s', hs⟩, t', ht⟩
        exact ⟨_, s', t', hs, ht, rfl⟩
    rw [hsides, exists_expands_iff_of_blank_free hfirst, ih, Text.words_append_blank hc,
      List.forall_mem_append]

theorem exists_expand_iff (word : String) :
    (∃ text, expand ctx word = some text) ↔ ∃ t, Expands ctx word.toList t := by
  constructor
  · rintro ⟨text, htext⟩
    exact ⟨text.toList, expand_eq_some_iff.1 htext⟩
  · rintro ⟨t, ht⟩
    refine ⟨String.ofList t, expand_eq_some_iff.2 ?_⟩
    rwa [String.toList_ofList]

/-! ## What the words give -/

theorem wordsOf_eq_filter {text : String} (h : ∀ c ∈ text.toList, Text.isBlank c = false) :
    wordsOf text = [text].filter fun text => text ≠ "" := by
  by_cases hempty : text = ""
  · subst hempty
    rfl
  · have hne : text.toList ≠ [] := by simpa using hempty
    rw [wordsOf, Text.words_of_isWord ⟨hne, h⟩]
    simp [hempty]

/-- A word without blanks gives one word or none. -/
theorem Unspaced.expandedWords (hctx : Unspaced ctx) {word text : String}
    (hword : ∀ c ∈ word.toList, Text.isBlank c = false) (htext : expand ctx word = some text) :
    expandedWords ctx word = [text].filter fun text => text ≠ "" := by
  have hblank := (expand_eq_some_iff.1 htext).forall_mem hctx.valueOf hword
  rw [expandedWords_of_expand htext, wordsOf_eq_filter hblank]

theorem Unspaced.flatMap_expandedWords (hctx : Unspaced ctx) {words : List String}
    (hwords : ∀ word ∈ words, ∀ c ∈ word.toList, Text.isBlank c = false)
    (hends : ∀ word ∈ words, ∃ text, expand ctx word = some text) :
    ∃ texts : List String, words.map (expand ctx) = texts.map some ∧
      words.flatMap (Template.expandedWords ctx) = texts.filter fun text => text ≠ "" := by
  induction words with
  | nil => exact ⟨[], rfl, rfl⟩
  | cons word words ih =>
    rw [List.forall_mem_cons] at hwords hends
    obtain ⟨text, htext⟩ := hends.1
    obtain ⟨texts, hmap, hflat⟩ := ih hwords.2 hends.2
    refine ⟨text :: texts, ?_, ?_⟩
    · rw [List.map_cons, List.map_cons, htext, hmap]
    · rw [List.flatMap_cons, hctx.expandedWords hwords.1 htext, hflat, ← List.filter_append,
        List.singleton_append]

/-- Values without blanks do not change how many arguments a template has, nor their order.  A
template can be expanded if and only if each of its words can be; then the words of the line, for a
command as for a hand-off, are what the words of the template give one by one, without those of
which nothing is left. -/
theorem expand_arguments (hctx : Unspaced ctx) :
    ((∃ line, expand ctx template = some line) ↔
      ∀ word ∈ wordsOf template, ∃ text, expand ctx word = some text) ∧
    ∀ line, expand ctx template = some line →
      ∃ texts : List String, (wordsOf template).map (expand ctx) = texts.map some ∧
        wordsOf line = texts.filter (fun text => text ≠ "") ∧
        CommandLine.tokenize line = CommandLine.ofList? (texts.filter fun text => text ≠ "") ∧
        ∀ size, Handoff.Request.parse line size =
          Handoff.Request.ofWords size (texts.filter fun text => text ≠ "") := by
  have hends : (∃ line, expand ctx template = some line) ↔
      ∀ word ∈ wordsOf template, ∃ text, expand ctx word = some text := by
    rw [exists_expand_iff, exists_expands_iff]
    simp only [wordsOf, List.forall_mem_map, exists_expand_iff, String.toList_ofList]
  refine ⟨hends, fun line hline => ?_⟩
  have hblank : ∀ word ∈ wordsOf template, ∀ c ∈ word.toList, Text.isBlank c = false := by
    intro word hword
    obtain ⟨w, hw, rfl⟩ := List.mem_map.1 hword
    rw [String.toList_ofList]
    exact (Text.isWord_of_mem_words hw).2
  obtain ⟨texts, hmap, hflat⟩ := hctx.flatMap_expandedWords hblank (hends.1 ⟨line, hline⟩)
  have hwords : wordsOf line = texts.filter fun text => text ≠ "" := by
    rw [wordsOf_expand hline, hflat]
  refine ⟨texts, hmap, hwords, ?_, fun size => ?_⟩
  · rw [CommandLine.tokenize, hwords]
  · rw [Handoff.Request.parse, hwords]

/-- A user that completes `#USER#COUNT#` to the marker of the account, which is empty. -/
def completing : TransferContext := ⟨"#AC", "", "/srv", "a.dat", .store⟩

theorem expand_arguments_vanishing :
    Unspaced completing ∧
      expand completing "run #USER#COUNT# #FILE#" = some "run  a.dat" ∧
      wordsOf "run  a.dat" = ["run", "", "a.dat"].filter (fun text => text ≠ "") := by
  have huser : Text.IsWord completing.user.toList := by decide
  have hdirectory : Text.IsWord completing.baseDirectory.toList := by decide
  have hfilename : Text.IsWord completing.file.toList := by decide
  have hctx : Unspaced completing := ⟨huser.2, by simp [completing], hdirectory.2, hfilename.2⟩
  have hline : expand completing "run #USER#COUNT# #FILE#" = some "run  a.dat" :=
    expand_eq_some_iff.2 (expands_of_round (.done (by decide)))
  have hrun : expand completing "run" = some "run" := expand_eq_some_iff.2 (.done (by decide))
  have hvanishing : expand completing "#USER#COUNT#" = some "" :=
    expand_eq_some_iff.2 (expands_of_round (.done (by decide)))
  have hfile : expand completing "#FILE#" = some "a.dat" :=
    expand_eq_some_iff.2 (expands_of_round (.done (by decide)))
  have htemplate : wordsOf "run #USER#COUNT# #FILE#" = ["run", "#USER#COUNT#", "#FILE#"] := by
    decide
  obtain ⟨texts, hmap, hwords, -⟩ := (expand_arguments hctx).2 _ hline
  have htexts : ["run", "", "a.dat"] = texts := by
    rw [htemplate, List.map_cons, List.map_cons, List.map_cons, List.map_nil, hrun, hvanishing,
      hfile] at hmap
    exact (List.map_inj_right fun _ _ => Option.some.inj).1 hmap
  exact ⟨hctx, hline, htexts ▸ hwords⟩

end TransferGateway.Template
