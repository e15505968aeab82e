import TransferGateway.Policy.Basic
import TransferGateway.Proofs.Text.Trim

/-!
# The grammar of policy specifications

The words of a specification tell what its policy asks for.  A command template is a verbatim part
of the specification, and the canonical specification of a policy that was read gives it back.  The
specifications of both directions are read each by itself.
-/

namespace TransferGateway.Policy

open Text

/-! ## Readings -/

/-- The keyword that the template of a disposition stands behind. -/
inductive Takes : Disposition → String → Prop where
  | run : Takes .runCommand runKeyword
  | handOff : Takes .handOff handOffKeyword

theorem Takes.isWord {disposition : Disposition} {keyword : String} (h : Takes disposition keyword) :
    IsWord keyword.toList := by
  cases h <;> decide

/-- The answer to a specification without blanks around it. -/
inductive Reading (timeout : Duration) (direction : Direction) :
    List Char → Except SpecificationError Policy → Prop where
  | empty : Reading timeout direction [] (.ok noAction)
  | nothing : Reading timeout direction nothingKeyword.toList (.ok noAction)
  | refused {s : List Char} {more : List (List Char)} (hs : IsTrimmed s)
      (hwords : words s = refuseKeyword.toList :: more) : Reading timeout direction s (.ok refusal)
  /-- A keyword without its template. -/
  | lacking {disposition : Disposition} {keyword : String} (h : Takes disposition keyword) :
      Reading timeout direction keyword.toList (.error ⟨keyword, direction⟩)
  | given {disposition : Disposition} {keyword : String} {gap template : List Char}
      (h : Takes disposition keyword) (hgap : IsGap gap) (htemplate : IsTrimmed template)
      (hne : template ≠ []) :
      Reading timeout direction (keyword.toList ++ gap ++ template)
        (.ok ⟨disposition, String.ofList template, timeout⟩)
  /-- No keyword: the specification is a template. -/
  | whole {s w : List Char} {more : List (List Char)} (hs : IsTrimmed s)
      (hwords : words s = w :: more) (hrefuse : w ≠ refuseKeyword.toList)
      (htakes : ∀ disposition keyword, Takes disposition keyword → w ≠ keyword.toList)
      (hnothing : words s ≠ [nothingKeyword.toList]) :
      Reading timeout direction s (.ok ⟨.runCommand, String.ofList s, timeout⟩)

variable {spec : String} {timeout : Duration} {direction : Direction} {s w gap rest : List Char}
  {answer : Except SpecificationError Policy} {p : Policy}

theorem parse_word (hs : trim spec.toList = w) (hw : IsWord w) :
    parse spec timeout direction =
      if w = refuseKeyword.toList then .ok refusal
      else if w = nothingKeyword.toList then .ok noAction
      else if w = runKeyword.toList then .error ⟨runKeyword, direction⟩
      else if w = handOffKeyword.toList then .error ⟨handOffKeyword, direction⟩
      else .ok ⟨.runCommand, String.ofList w, timeout⟩ := by
  have hne : w.isEmpty = false := by simpa using hw.1
  have hrest : trim ((none : Option (List Char)).getD []) = [] := rfl
  simp only [parse, hs, hne, parseTrimmed, splitAtBlank_of_isWord hw, hrest, withTemplate]
  simp

theorem parse_more (hs : trim spec.toList = w ++ gap ++ rest) (hw : IsWord w) (hgap : IsGap gap)
    (hrest : IsTrimmed rest) (hne : rest ≠ []) :
    parse spec timeout direction =
      if w = refuseKeyword.toList then .ok refusal
      else if w = runKeyword.toList then .ok ⟨.runCommand, String.ofList rest, timeout⟩
      else if w = handOffKeyword.toList then .ok ⟨.handOff, String.ofList rest, timeout⟩
      else .ok ⟨.runCommand, String.ofList (w ++ gap ++ rest), timeout⟩ := by
  obtain ⟨tail, hsplit, htail⟩ := splitAtBlank_gap hw hgap hrest
  have hempty : (w ++ gap ++ rest).isEmpty = false := by simp [hne]
  simp only [parse, hs, hempty, parseTrimmed, hsplit, Option.getD_some, htail, withTemplate]
  simp [hne]

/-- A reading of the trimmed specification is the answer. -/
theorem parse_of_reading (h : Reading timeout direction (trim spec.toList) answer) :
    parse spec timeout direction = answer := by
  generalize hs : trim spec.toList = s at h
  cases h with
  | empty => simp [parse, hs]
  | nothing =>
    rw [parse_word hs (by decide)]
    rfl
  | refused htrimmed hwords =>
    cases htrimmed.shape with
    | empty => simp [words] at hwords
    | word hw =>
      rw [words_of_isWord hw] at hwords
      rw [parse_word hs hw, if_pos (List.cons.inj hwords).1]
    | more hw hgap hrest hne =>
      rw [words_append_gap hw hgap] at hwords
      rw [parse_more hs hw hgap hrest hne, if_pos (List.cons.inj hwords).1]
  | lacking h =>
    rw [parse_word hs h.isWord]
    cases h <;> rfl
  | given h hgap htemplate hne =>
    rw [parse_more hs h.isWord hgap htemplate hne]
    cases h <;> rfl
  | whole htrimmed hwords hrefuse htakes hnothing =>
    have hrun := htakes _ _ .run
    have hhandOff := htakes _ _ .handOff
    cases htrimmed.shape with
    | empty => simp [words] at hwords
    | word hw =>
      rw [words_of_isWord hw] at hwords hnothing
      obtain ⟨rfl, -⟩ := List.cons.inj hwords
      have hother : s ≠ nothingKeyword.toList := fun h => hnothing (by rw [h])
      rw [parse_word hs hw, if_neg hrefuse, if_neg hother, if_neg hrun, if_neg hhandOff]
    | more hw hgap hrest hne =>
      rw [words_append_gap hw hgap] at hwords
      obtain ⟨rfl, -⟩ := List.cons.inj hwords
      rw [parse_more hs hw hgap hrest hne, if_neg hrefuse, if_neg hrun, if_neg hhandOff]

/-- Every trimmed specification has a reading. -/
theorem exists_reading (timeout : Duration) (direction : Direction) (h : IsTrimmed s) :
    ∃ answer, Reading timeout direction s answer := by
  by_cases htakes : ∃ disposition keyword more,
      Takes disposition keyword ∧ words s = keyword.toList :: more
  · obtain ⟨disposition, keyword, more, htakes, hwords⟩ := htakes
    cases h.shape with
    | empty => simp [words] at hwords
    | word hw =>
      rw [words_of_isWord hw] at hwords
      obtain ⟨rfl, -⟩ := List.cons.inj hwords
      exact ⟨_, .lacking htakes⟩
    | more hw hgap hrest hne =>
      rw [words_append_gap hw hgap] at hwords
      obtain ⟨rfl, -⟩ := List.cons.inj hwords
      exact ⟨_, .given htakes hgap hrest hne⟩
  · by_cases hrefuse : ∃ more, words s = refuseKeyword.toList :: more
    · obtain ⟨more, hwords⟩ := hrefuse
      exact ⟨_, .refused h hwords⟩
    · by_cases hnothing : words s = [nothingKeyword.toList]
      · rw [(h.eq_iff_words (by decide)).2 hnothing]
        exact ⟨_, .nothing⟩
      · cases hwords : words s with
        | nil =>
          rw [h.eq_nil_iff_words.2 hwords]
          exact ⟨_, .empty⟩
        | cons w more =>
          refine ⟨_, .whole h hwords ?_ ?_ hnothing⟩
          · rintro rfl
            exact hrefuse ⟨more, hwords⟩
          · rintro disposition keyword hkeyword rfl
            exact htakes ⟨disposition, keyword, more, hkeyword, hwords⟩

theorem parse_eq_iff :
    parse spec timeout direction = answer ↔ Reading timeout direction (trim spec.toList) answer := by
  refine ⟨?_, parse_of_reading⟩
  rintro rfl
  obtain ⟨answer, hreading⟩ := exists_reading timeout direction (isTrimmed_trim spec.toList)
  rwa [parse_of_reading hreading]

/-! ## What the words ask for -/

/-- The answer is a policy of the disposition. -/
def Gives (answer : Except SpecificationError Policy) (disposition : Disposition) : Prop :=
  ∃ p, answer = .ok p ∧ p.disposition = disposition

@[simp] theorem gives_ok {disposition : Disposition} :
    Gives (.ok p) disposition ↔ p.disposition = disposition := by
  simp [Gives]

@[simp] theorem gives_error {e : SpecificationError} {disposition : Disposition} :
    ¬ Gives (.error e) disposition := by
  simp [Gives]

/-- The words of a specification sort the answers to it. -/
structure Sorts (direction : Direction) (ws : List (List Char))
    (answer : Except SpecificationError Policy) : Prop where
  lacking : (∃ e, answer = .error e) ↔ ws = [runKeyword.toList] ∨ ws = [handOffKeyword.toList]
  named : ∀ e, answer = .error e → ws.head? = some e.keyword.toList ∧ e.direction = direction
  refusal : Gives answer .refuse ↔ ws.head? = some refuseKeyword.toList
  nothing : Gives answer .nothing ↔ ws = [] ∨ ws = [nothingKeyword.toList]
  handOff : Gives answer .handOff ↔ ∃ v more, ws = handOffKeyword.toList :: v :: more
  runCommand : Gives answer .runCommand ↔
    ws ≠ [] ∧ ws ≠ [nothingKeyword.toList] ∧ ws ≠ [runKeyword.toList] ∧
      ws.head? ≠ some refuseKeyword.toList ∧ ws.head? ≠ some handOffKeyword.toList

theorem Reading.sorts (h : Reading timeout direction s answer) :
    Sorts direction (words s) answer := by
  cases h with
  | empty => constructor <;> simp [noAction, words]
  | nothing =>
    rw [words_of_isWord (w := nothingKeyword.toList) (by decide)]
    constructor <;> simp [noAction, refuseKeyword, runKeyword, handOffKeyword, nothingKeyword]
  | refused hs hwords =>
    rw [hwords]
    constructor <;> simp [Policy.refusal, refuseKeyword, runKeyword, handOffKeyword, nothingKeyword]
  | lacking h =>
    rw [words_of_isWord h.isWord]
    cases h <;> constructor <;> simp [refuseKeyword, runKeyword, handOffKeyword, nothingKeyword]
  | given h hgap htemplate hne =>
    rw [words_append_gap h.isWord hgap]
    cases hwords : words _ with
    | nil => exact absurd hwords (words_ne_nil htemplate hne)
    | cons v more =>
      cases h <;> constructor <;> simp [refuseKeyword, runKeyword, handOffKeyword, nothingKeyword]
  | whole hs hwords hrefuse htakes hnothing =>
    have hrun := htakes _ _ .run
    have hhandOff := htakes _ _ .handOff
    rw [hwords] at hnothing ⊢
    constructor <;> simp [hrefuse, hrun, hhandOff, hnothing]

/-! ## Templates -/

/-- The policy does nothing but let transfers pass or refuse them. -/
def IsIdle (p : Policy) : Prop := p.disposition = .refuse ∨ p.disposition = .nothing

/-- The template and the time limit of a policy that was read from a trimmed specification. -/
structure Carries (timeout : Duration) (s : List Char) (p : Policy) : Prop where
  idle : IsIdle p → p.template = "" ∧ p.timeout = .zero
  acting : ¬ IsIdle p → p.template ≠ "" ∧ IsTrimmed p.template.toList ∧
    p.template.toList <:+: s ∧ p.timeout = timeout
  whole : ¬ IsIdle p → (words s).head? ≠ some runKeyword.toList →
    (words s).head? ≠ some handOffKeyword.toList → p.template.toList = s
  behind : ¬ IsIdle p → ∀ keyword, keyword = runKeyword ∨ keyword = handOffKeyword →
    (words s).head? = some keyword.toList →
      ∃ gap, IsGap gap ∧ s = keyword.toList ++ gap ++ p.template.toList

/-- A policy without template and time limit carries nothing. -/
theorem carries_of_isIdle (h : IsIdle p) (htemplate : p.template = "" ∧ p.timeout = .zero) :
    Carries timeout s p where
  idle := fun _ => htemplate
  acting := fun hacting => absurd h hacting
  whole := fun hacting => absurd h hacting
  behind := fun hacting => absurd h hacting

theorem Reading.carries (h : Reading timeout direction s (.ok p)) : Carries timeout s p := by
  cases h with
  | empty => exact carries_of_isIdle (.inr rfl) ⟨rfl, rfl⟩
  | nothing => exact carries_of_isIdle (.inr rfl) ⟨rfl, rfl⟩
  | refused hs hwords => exact carries_of_isIdle (.inl rfl) ⟨rfl, rfl⟩
  | @given disposition keyword gap template h hgap htemplate hne =>
    have hhead : (words (keyword.toList ++ gap ++ template)).head? = some keyword.toList := by
      rw [words_append_gap h.isWord hgap, List.head?_cons]
    constructor
    · intro hidle
      cases h <;> simp [IsIdle] at hidle
    · intro _
      refine ⟨?_, ?_, ?_, rfl⟩
      · simpa using hne
      · rwa [String.toList_ofList]
      · rw [String.toList_ofList]
        exact (List.suffix_append _ _).isInfix
    · intro _ hrun hhandOff
      cases h with
      | run => exact absurd hhead hrun
      | handOff => exact absurd hhead hhandOff
    · intro _ other _ hother
      rw [hhead] at hother
      exact ⟨gap, hgap, by rw [String.toList_ofList, Option.some.inj hother]⟩
  | whole hs hwords hrefuse htakes hnothing =>
    have hne := ne_nil_of_words hwords
    constructor
    · intro hidle
      simp [IsIdle] at hidle
    · intro _
      refine ⟨?_, ?_, ?_, rfl⟩
      · simpa using hne
      · rwa [String.toList_ofList]
      · simp
    · intro _ _ _
      rw [String.toList_ofList]
    · rintro _ keyword hkeyword hhead
      rw [hwords, List.head?_cons, Option.some.injEq] at hhead
      rcases hkeyword with rfl | rfl
      · exact absurd hhead (htakes _ _ .run)
      · exact absurd hhead (htakes _ _ .handOff)

theorem trim_keyword {disposition : Disposition} {keyword template : String}
    (h : Takes disposition keyword) (htemplate : IsTrimmed template.toList) (hne : template ≠ "") :
    trim (keyword ++ " " ++ template).toList = keyword.toList ++ [' '] ++ template.toList := by
  have htext : (keyword ++ " " ++ template).toList = keyword.toList ++ [' '] ++ template.toList := by
    simp
  rw [htext]
  exact trim_eq_self (isTrimmed_append h.isWord.isTrimmed h.isWord.1 _ htemplate (by simpa using hne))

theorem parse_keyword {disposition : Disposition} {keyword template : String}
    (h : Takes disposition keyword) (htemplate : IsTrimmed template.toList) (hne : template ≠ "")
    (timeout : Duration) (direction : Direction) :
    parse (keyword ++ " " ++ template) timeout direction = .ok ⟨disposition, template, timeout⟩ := by
  have hread : Reading timeout direction (keyword.toList ++ [' '] ++ template.toList)
      (.ok ⟨disposition, String.ofList template.toList, timeout⟩) :=
    .given h (isGap_singleton rfl) htemplate (by simpa using hne)
  rw [← trim_keyword h htemplate hne, String.ofList_toList] at hread
  exact parse_of_reading hread

/-- The canonical specification of a policy that was read gives it back. -/
theorem parse_specification (h : parse spec timeout direction = .ok p) (direction' : Direction) :
    parse p.specification timeout direction' = .ok p := by
  have hreading := parse_eq_iff.1 h
  generalize trim spec.toList = s at hreading
  cases hreading with
  | empty => rfl
  | nothing => rfl
  | refused hs hwords => rfl
  | @given disposition keyword gap template htakes hgap htemplate hne =>
    have hparse : parse (keyword ++ " " ++ String.ofList template) timeout direction' =
        .ok ⟨disposition, String.ofList template, timeout⟩ :=
      parse_keyword htakes (by rwa [String.toList_ofList]) (by simpa using hne) timeout direction'
    cases htakes <;> exact hparse
  | whole hs hwords hrefuse htakes hnothing =>
    have hne := ne_nil_of_words hwords
    exact parse_keyword .run (by rwa [String.toList_ofList]) (by simpa using hne) timeout direction'

/-! ## The grammar -/

/-- A specification without blanks around it lacks its template exactly when it is a bare keyword
that needs one; its words tell what else it asks for; a template is a verbatim part of it; and the
policy that is read has a canonical specification that is read as the same policy. -/
theorem parse_exact (spec : String) (timeout : Duration) (direction : Direction) :
    let s := trim spec.toList
    let answer := parse spec timeout direction
    ((∃ e, answer = .error e) ↔ s = runKeyword.toList ∨ s = handOffKeyword.toList) ∧
    (∀ e, answer = .error e →
      (words s).head? = some e.keyword.toList ∧ e.direction = direction) ∧
    (Gives answer .refuse ↔ (words s).head? = some refuseKeyword.toList) ∧
    (Gives answer .nothing ↔ s = [] ∨ s = nothingKeyword.toList) ∧
    (Gives answer .handOff ↔ ∃ v more, words s = handOffKeyword.toList :: v :: more) ∧
    (Gives answer .runCommand ↔
      s ≠ [] ∧ s ≠ nothingKeyword.toList ∧ s ≠ runKeyword.toList ∧
        (words s).head? ≠ some refuseKeyword.toList ∧
        (words s).head? ≠ some handOffKeyword.toList) ∧
    ∀ p, answer = .ok p →
      Carries timeout s p ∧ ∀ direction', parse p.specification timeout direction' = .ok p := by
  intro s answer
  have hs : IsTrimmed s := isTrimmed_trim spec.toList
  have hreading : Reading timeout direction s answer := parse_eq_iff.1 rfl
  obtain ⟨hlacking, hnamed, hrefusal, hnothing, hhandOff, hrunCommand⟩ := hreading.sorts
  rw [← hs.eq_iff_words Takes.run.isWord, ← hs.eq_iff_words Takes.handOff.isWord] at hlacking
  rw [← hs.eq_nil_iff_words, ← hs.eq_iff_words (by decide)] at hnothing
  rw [ne_eq, ← hs.eq_nil_iff_words, ne_eq (words s), ← hs.eq_iff_words (by decide), ne_eq (words s),
    ← hs.eq_iff_words Takes.run.isWord] at hrunCommand
  refine ⟨hlacking, hnamed, hrefusal, hnothing, hhandOff, hrunCommand, ?_⟩
  intro p hp
  refine ⟨?_, parse_specification hp⟩
  rw [hp] at hreading
  exact hreading.carries

-- A template may begin with a keyword itself, and `NONE` is a template if more text follows.
example : parse "\u2003EXECUTE\t EXECUTE  a " .zero .store = .ok ⟨.runCommand, "EXECUTE  a", .zero⟩ ∧
    parse "NONE a" .zero .store = .ok ⟨.runCommand, "NONE a", .zero⟩ := by decide

end TransferGateway.Policy

/-! ## Both directions -/

namespace TransferGateway

/-- The specification of one direction with its time limit. -/
def PolicySpecs.get (specs : PolicySpecs) : Direction → String × Duration
  | .store => (specs.store, specs.storeTimeout)
  | .retrieve => (specs.retrieve, specs.retrieveTimeout)

/-- The policy that the specification of one direction gives. -/
def PolicySpecs.read (specs : PolicySpecs) (direction : Direction) :
    Except SpecificationError Policy :=
  Policy.parse (specs.get direction).1 (specs.get direction).2 direction

/-- The answer that the words of the specification of one direction ask for. -/
def PolicySpecs.Asks (specs : PolicySpecs) (direction : Direction)
    (answer : Except SpecificationError Policy) : Prop :=
  Policy.Reading (specs.get direction).2 direction
    (Text.trim (specs.get direction).1.toList) answer

theorem PolicySpecs.read_eq_iff {specs : PolicySpecs} {direction : Direction}
    {answer : Except SpecificationError Policy} :
    specs.read direction = answer ↔ specs.Asks direction answer :=
  Policy.parse_eq_iff

namespace PolicySet

variable {specs : PolicySpecs} {set : PolicySet} {e : SpecificationError}

/-- Both policies are read, each from its own specification. -/
theorem parse_eq_ok_iff :
    parse specs = .ok set ↔ ∀ direction, specs.read direction = .ok (set.get direction) := by
  have hboth : (∀ direction, specs.read direction = .ok (set.get direction)) ↔
      Policy.parse specs.store specs.storeTimeout .store = .ok set.store ∧
        Policy.parse specs.retrieve specs.retrieveTimeout .retrieve = .ok set.retrieve :=
    ⟨fun h => ⟨h .store, h .retrieve⟩, fun h direction => by cases direction; exacts [h.1, h.2]⟩
  rw [hboth]
  obtain ⟨store, retrieve⟩ := set
  simp only [parse]
  cases Policy.parse specs.store specs.storeTimeout .store with
  | error e => simp
  | ok p =>
    cases Policy.parse specs.retrieve specs.retrieveTimeout .retrieve with
    | error e => simp
    | ok q => simp

/-- One specification that cannot be read is enough to fail, and that of storing is reported
first. -/
theorem parse_eq_error_iff :
    parse specs = .error e ↔ specs.read .store = .error e ∨
      (∃ store, specs.read .store = .ok store) ∧ specs.read .retrieve = .error e := by
  simp only [parse, PolicySpecs.read, PolicySpecs.get]
  cases Policy.parse specs.store specs.storeTimeout .store with
  | error e => simp
  | ok p =>
    cases Policy.parse specs.retrieve specs.retrieveTimeout .retrieve with
    | error e => simp
    | ok q => simp

end PolicySet

end TransferGateway
