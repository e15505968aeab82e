import TransferGateway.Command
import TransferGateway.Proofs.Text.Case

/-!
# Which command a text is

Every command has one name, and a text is the command of a name exactly if it spells the name: in
either case, with blanks around it.  So eleven words decide which texts are never throttled and
which ones transfer a file, and characters beyond ASCII that look like theirs do not count.
-/

namespace TransferGateway

namespace Operation

theorem mem_all (operation : Operation) : operation ∈ all := by
  cases operation <;> decide

theorem code_of_ofCode? {word : String} {operation : Operation}
    (h : ofCode? word = some operation) : operation.code = word := by
  simpa using List.find?_some h

end Operation

namespace SpecialCommand

theorem mem_all (special : SpecialCommand) : special ∈ all := by
  cases special <;> decide

theorem code_of_ofCode? {word : String} {special : SpecialCommand}
    (h : ofCode? word = some special) : special.code = word := by
  simpa using List.find?_some h

end SpecialCommand

namespace Command

/-- The names of the commands that transfer a file. -/
def transferWords : List String := ["RETR", "STOR", "APPE", "STOU"]

/-- The names of the commands that are never throttled. -/
def specialWords : List String := ["QUIT", "ABOR", "NOOP", "STAT", "FEAT", "SYST", "HELP"]

/-- The names that no other command has. -/
def reservedWords : List String := transferWords ++ specialWords

/-- A text that spells a word: without the blanks around it the text is the word, with ASCII letters
in either case. -/
def Spells (text word : String) : Prop := Text.Spells text.toList word.toList

variable {text word name : String}

/-! ## Commands and their names -/

theorem name_ofName (name : String) : (ofName name).name = name := by
  unfold ofName
  split
  · exact Operation.code_of_ofCode? ‹_›
  · split
    · exact SpecialCommand.code_of_ofCode? ‹_›
    · rfl

theorem ofName_eq_transfer_iff {operation : Operation} :
    ofName name = .transfer operation ↔ operation.code = name := by
  constructor
  · intro h
    have hname := name_ofName name
    rw [h] at hname
    exact hname
  · rintro rfl
    cases operation <;> rfl

theorem ofName_eq_special_iff {special : SpecialCommand} :
    ofName name = .special special ↔ special.code = name := by
  constructor
  · intro h
    have hname := name_ofName name
    rw [h] at hname
    exact hname
  · rintro rfl
    cases special <;> rfl

theorem mem_transferWords_iff :
    word ∈ transferWords ↔ ∃ operation : Operation, operation.code = word := by
  have hwords : transferWords = Operation.all.map Operation.code := rfl
  simp [hwords, Operation.mem_all]

theorem mem_specialWords_iff :
    word ∈ specialWords ↔ ∃ special : SpecialCommand, special.code = word := by
  have hwords : specialWords = SpecialCommand.all.map SpecialCommand.code := rfl
  simp [hwords, SpecialCommand.mem_all]

theorem isSpecial_iff {command : Command} :
    command.isSpecial = true ↔ ∃ special, command = .special special := by
  cases command <;> simp [isSpecial]

theorem isSome_operation?_iff {command : Command} :
    command.operation?.isSome = true ↔ ∃ operation, command = .transfer operation := by
  cases command <;> simp [operation?]

theorem isSpecial_ofName_iff : (ofName name).isSpecial = true ↔ name ∈ specialWords := by
  simp only [isSpecial_iff, ofName_eq_special_iff, mem_specialWords_iff]

theorem isSome_operation?_ofName_iff :
    (ofName name).operation?.isSome = true ↔ name ∈ transferWords := by
  simp only [isSome_operation?_iff, ofName_eq_transfer_iff, mem_transferWords_iff]

theorem ofName_eq_other_iff : ofName name = .other name ↔ name ∉ reservedWords := by
  rw [reservedWords, List.mem_append, mem_transferWords_iff, mem_specialWords_iff]
  constructor
  · rintro h (⟨operation, hcode⟩ | ⟨special, hcode⟩)
    · rw [ofName_eq_transfer_iff.2 hcode] at h
      contradiction
    · rw [ofName_eq_special_iff.2 hcode] at h
      contradiction
  · intro h
    cases hcommand : ofName name with
    | transfer operation => exact absurd (.inl ⟨operation, ofName_eq_transfer_iff.1 hcommand⟩) h
    | special special => exact absurd (.inr ⟨special, ofName_eq_special_iff.1 hcommand⟩) h
    | other same =>
      have hname := name_ofName name
      rw [hcommand] at hname
      exact congrArg Command.other hname

/-! ## Texts and names -/

theorem toList_canonical (text : String) :
    (canonical text).toList = (Text.trim text.toList).map Char.toUpper := by
  rw [canonical, String.toList_ofList]

theorem name_parse (text : String) : (parse text).name = canonical text :=
  name_ofName (canonical text)

/-- All spellings of a word have one canonical name. -/
theorem canonical_of_spells (h : Spells text word) : canonical text = canonical word := by
  rw [canonical, canonical, h.capitals]

/-- Every text spells its canonical name. -/
theorem spells_canonical (text : String) : Spells text (canonical text) := by
  refine Text.spells_of_capitals ?_
  rw [toList_canonical, List.map_map]
  refine List.map_congr_left fun c _ => ?_
  exact (Char.toUpper_toUpper_eq_toUpper c).symm

theorem canonical_canonical (text : String) : canonical (canonical text) = canonical text :=
  (canonical_of_spells (spells_canonical text)).symm

theorem canonical_eq_self : ∀ word ∈ reservedWords, canonical word = word := by decide

theorem spells_iff (h : word ∈ reservedWords) : Spells text word ↔ canonical text = word := by
  constructor
  · intro hspells
    rw [canonical_of_spells hspells, canonical_eq_self word h]
  · rintro rfl
    exact spells_canonical text

theorem exists_spells_iff {words : List String} (h : ∀ word ∈ words, word ∈ reservedWords) :
    (∃ word ∈ words, Spells text word) ↔ canonical text ∈ words := by
  constructor
  · rintro ⟨word, hmem, hspells⟩
    rwa [(spells_iff (h word hmem)).1 hspells]
  · intro hmem
    exact ⟨canonical text, hmem, spells_canonical text⟩

theorem isAlpha_reservedWords : ∀ word ∈ reservedWords, word.toList.all Char.isAlpha = true := by
  decide

/-- The spellings of reserved names have blanks and ASCII letters only. -/
theorem blank_or_isAlpha (h : canonical text ∈ reservedWords) :
    ∀ c ∈ text.toList, Text.isBlank c = true ∨ c.isAlpha = true :=
  (spells_canonical text).blank_or_isAlpha (List.all_eq_true.1 (isAlpha_reservedWords _ h))

theorem isTrimmed_canonical (text : String) : Text.IsTrimmed (canonical text).toList := by
  rw [toList_canonical, ← Text.trim_map_toUpper]
  exact Text.isTrimmed_trim _

theorem isLower_canonical (text : String) : ∀ c ∈ (canonical text).toList, c.isLower = false := by
  intro c hc
  rw [toList_canonical] at hc
  obtain ⟨d, -, rfl⟩ := List.mem_map.1 hc
  exact Char.isLower_toUpper_eq_false d

theorem isSpecial_parse_iff :
    (parse text).isSpecial = true ↔ ∃ word ∈ specialWords, Spells text word := by
  rw [parse, isSpecial_ofName_iff, exists_spells_iff fun _ => List.mem_append_right _]

theorem isSome_operation?_parse_iff :
    (parse text).operation?.isSome = true ↔ ∃ word ∈ transferWords, Spells text word := by
  rw [parse, isSome_operation?_ofName_iff, exists_spells_iff fun _ => List.mem_append_left _]

/-- A command is read back from its name.  Texts that spell one word are the same command, and only
they are.  A command beside the eleven has a name that is not reserved, with no small letter and no
blank at either end.  A text is never throttled, or transfers a file, exactly if it spells one of
the names for that, and it is never both; a text with anything but blanks and ASCII letters is
neither. -/
theorem parse_classifies :
    (∀ text : String, parse (parse text).name = parse text) ∧
    (∀ text word : String, Spells text word → parse text = parse word) ∧
    (∀ text other : String, parse text = parse other →
      ∃ word : String, Spells text word ∧ Spells other word) ∧
    (∀ text name : String, parse text = .other name →
      name ∉ reservedWords ∧ (∀ c ∈ name.toList, c.isLower = false) ∧
        Text.IsTrimmed name.toList) ∧
    (∀ text : String,
      ((parse text).isSpecial = true ↔ ∃ word ∈ specialWords, Spells text word) ∧
      ((parse text).operation?.isSome = true ↔ ∃ word ∈ transferWords, Spells text word) ∧
      ¬ ((parse text).isSpecial = true ∧ (parse text).operation?.isSome = true)) ∧
    ∀ text : String, (∃ c ∈ text.toList, Text.isBlank c = false ∧ c.isAlpha = false) →
      parse text = .other (canonical text) := by
  refine ⟨?_, ?_, ?_, ?_, ?_, ?_⟩
  · intro text
    rw [name_parse, parse, canonical_canonical, parse]
  · intro text word h
    rw [parse, parse, canonical_of_spells h]
  · intro text other h
    have hname : canonical text = canonical other := by rw [← name_parse, ← name_parse, h]
    refine ⟨canonical text, spells_canonical text, ?_⟩
    rw [hname]
    exact spells_canonical other
  · intro text name h
    obtain rfl : canonical text = name := by rw [← name_parse, h, Command.name]
    exact ⟨ofName_eq_other_iff.1 h, isLower_canonical text, isTrimmed_canonical text⟩
  · intro text
    refine ⟨isSpecial_parse_iff, isSome_operation?_parse_iff, ?_⟩
    rintro ⟨hspecial, hsome⟩
    obtain ⟨special, hcommand⟩ := isSpecial_iff.1 hspecial
    rw [hcommand] at hsome
    contradiction
  · rintro text ⟨c, hc, hblank, halpha⟩
    refine ofName_eq_other_iff.2 fun hmem => ?_
    rcases blank_or_isAlpha hmem c hc with h | h
    · simp [h] at hblank
    · simp [h] at halpha

theorem spells_quit : Spells "\u00a0qUiT\u3000" "QUIT" := by
  have hbefore : ∀ c ∈ ['\u00a0'], Text.isBlank c = true := by simp [Text.isBlank]
  have hafter : ∀ c ∈ ['\u3000'], Text.isBlank c = true := by simp [Text.isBlank]
  have hletters : Text.SameLetters ['q', 'U', 'i', 'T'] ['Q', 'U', 'I', 'T'] :=
    .cons (.lowered ⟨rfl, rfl⟩) (.cons (.same 'U') (.cons (.lowered ⟨rfl, rfl⟩)
      (.cons (.same 'T') .nil)))
  exact .mk hbefore hletters hafter

/-- A spelling between blanks of two and three octets is the command; the long s, which Unicode
raises to a capital S, makes another one of it. -/
theorem parse_classifies_disguised :
    parse "\u00a0qUiT\u3000" = .special .quit ∧
      parse "\u017ftat" = .other "\u017fTAT" ∧ "\u017fTAT" ∉ reservedWords ∧
      ∃ word : String, Spells " stor\t" word ∧ Spells "STOR" word := by
  obtain ⟨-, hspells, hsame, hother, -, hbeyond⟩ := parse_classifies
  have hquit : parse "\u00a0qUiT\u3000" = .special .quit := by
    rw [hspells _ _ spells_quit]
    rfl
  have hlong : parse "\u017ftat" = .other "\u017fTAT" :=
    hbeyond "\u017ftat" ⟨'\u017f', by simp, by decide, by decide⟩
  exact ⟨hquit, hlong, (hother _ _ hlong).1, hsame _ _ rfl⟩

end Command

end TransferGateway
