import TransferGateway.Proofs.Template.Openers
import TransferGateway.Proofs.Template.Rounds

/-!
# When expansion ends

That no value has a whole marker does not make expansion finite: values may have fragments that
join into new markers for ever.  What is missing is a bound on the hash signs that can open a
marker, or on those that can close one: with at most one in every value expansion ends, and no
weaker bounds suffice.
-/

namespace TransferGateway

/-- The text of a marker between its hash signs. -/
def Marker.label : Marker → List Char
  | .user => "USER".toList
  | .account => "ACCOUNT".toList
  | .basePath => "BASEPATH".toList
  | .file => "FILE".toList
  | .command => "COMMAND".toList

/-- The labels of all markers. -/
def Marker.labels : List (List Char) := Marker.all.map Marker.label

theorem Marker.marker_label (m : Marker) : Labels.marker m.label = m.chars := by
  cases m <;> rfl

theorem Marker.hash_not_mem_label (m : Marker) : '#' ∉ m.label := by
  cases m <;> decide

/-- The markers of a context as rules. -/
def TransferContext.rules (ctx : TransferContext) : List (List Char × List Char) :=
  Marker.all.map fun m => (m.label, (ctx.valueOf m).toList)

namespace Template

open Relation (ReflTransGen TransGen)

/-! ## Rounds as runs of single replacements -/

theorem sound_rules {ctx : TransferContext} (h : unsafeField? ctx = none) :
    Labels.Sound ctx.rules := by
  constructor
  · intro rule hrule
    obtain ⟨m, -, rfl⟩ := List.mem_map.1 hrule
    exact m.hash_not_mem_label
  · intro rule hrule other hother
    obtain ⟨m, -, rfl⟩ := List.mem_map.1 hrule
    obtain ⟨m', -, rfl⟩ := List.mem_map.1 hother
    rw [Marker.marker_label]
    exact hasMarker_eq_false_iff.1 (unsafeField?_eq_none_iff.1 h m) m'

theorem rewrites_of_replaces {ctx : TransferContext} {m : Marker} {s t : List Char}
    (h : Text.Replaces m.chars (ctx.valueOf m).toList s t) : Labels.Rewrites ctx.rules s t := by
  refine ⟨(m.label, (ctx.valueOf m).toList), List.mem_map.2 ⟨m, mem_all m, rfl⟩, ?_⟩
  rwa [Marker.marker_label]

theorem rewrites_substitute (ctx : TransferContext) (s : List Char) (m : Marker) :
    ReflTransGen (Labels.Rewrites ctx.rules) s (substitute ctx s m) :=
  ReflTransGen.mono (fun _ _ => rewrites_of_replaces) _ _
    (Text.reflTransGen_replaceAll (chars_ne_nil m) _ s)

theorem rewrites_foldl (ctx : TransferContext) (markers : List Marker) (s : List Char) :
    ReflTransGen (Labels.Rewrites ctx.rules) s (markers.foldl (substitute ctx) s) := by
  induction markers generalizing s with
  | nil => exact .refl
  | cons m markers ih => exact (rewrites_substitute ctx s m).trans (ih _)

/-- Replacing several markers one after the other replaces at least one place if one of them
stands somewhere. -/
theorem rewrites_foldl_of_mem {ctx : TransferContext} {markers : List Marker} {s : List Char}
    {m : Marker} (hmem : m ∈ markers) (h : m.chars <:+: s) :
    TransGen (Labels.Rewrites ctx.rules) s (markers.foldl (substitute ctx) s) := by
  induction markers with
  | nil => contradiction
  | cons first markers ih =>
    by_cases hfirst : first.chars <:+: s
    · have hsome : TransGen (Labels.Rewrites ctx.rules) s (substitute ctx s first) :=
        TransGen.mono (fun _ _ => rewrites_of_replaces) _ _
          (Text.transGen_replaceAll (chars_ne_nil first) _ hfirst)
      exact hsome.trans_left (rewrites_foldl ctx markers _)
    · have hne : m ≠ first := by
        rintro rfl
        exact hfirst h
      have hsame : substitute ctx s first = s :=
        Text.replaceAll_eq_self (chars_ne_nil first) hfirst _
      rw [List.foldl_cons, hsame]
      exact ih ((List.mem_cons.1 hmem).resolve_left hne)

theorem rewrites_round {ctx : TransferContext} {s : List Char} (h : hasMarker s = true) :
    TransGen (Labels.Rewrites ctx.rules) s (round ctx s) := by
  obtain ⟨m, hm⟩ := hasMarker_eq_true_iff.1 h
  exact rewrites_foldl_of_mem (mem_all m) hm

/-- Where single replacements always end, every expansion does. -/
theorem exists_expands {ctx : TransferContext}
    (hwf : WellFounded fun t s => Labels.Rewrites ctx.rules s t) (s : List Char) :
    ∃ t, Expands ctx s t := by
  have hrounds : WellFounded fun t s => TransGen (Labels.Rewrites ctx.rules) s t := by
    refine Subrelation.wf (fun {_ _} h => ?_) hwf.transGen
    exact Relation.transGen_swap.2 h
  induction s using hrounds.induction with
  | h s ih =>
    by_cases hs : hasMarker s = true
    · obtain ⟨t, ht⟩ := ih _ (rewrites_round hs)
      exact ⟨t, .next hs ht⟩
    · exact ⟨s, .done (by simpa using hs)⟩

/-! ## Expansions that never end -/

/-- A value with the ends of two markers, a slash, and the beginnings of two markers. -/
def fragments (opening closing m : Marker) : List Char :=
  (if m = closing then opening.label.drop 1 ++ '#' :: closing.label.drop 1 ++ ['#'] else []) ++
    '/' :: if m = opening then '#' :: opening.label.take 1 ++ '#' :: closing.label.take 1 else []

/-- The context of these values. -/
def fragmented (opening closing : Marker) : TransferContext where
  user := String.ofList (fragments opening closing .user)
  account := String.ofList (fragments opening closing .account)
  baseDirectory := String.ofList (fragments opening closing .basePath)
  file := String.ofList (fragments opening closing .file)
  operation := .retrieve

/-- Two texts that turn into one another between slashes. -/
def lastingPieces (opening closing : Marker) : List (List Char) :=
  ['#' :: opening.label ++ '#' :: closing.label.drop 1 ++ ['#'],
    '#' :: opening.label.take 1 ++ '#' :: closing.label ++ ['#']]

theorem valueOf_fragmented {opening closing m : Marker} (hm : m ≠ .command) :
    ((fragmented opening closing).valueOf m).toList = fragments opening closing m := by
  cases m with
  | command => contradiction
  | _ => simp [fragmented, TransferContext.valueOf]

theorem hasMarker_fragments (opening closing m : Marker) :
    hasMarker (fragments opening closing m) = false := by
  cases opening <;> cases closing <;> cases m <;> decide

theorem openers_fragments (opening closing m : Marker) :
    Labels.openers Marker.labels (fragments opening closing m) ≤
      if m = opening then 2 else 0 := by
  cases opening <;> cases closing <;> cases m <;> decide

theorem closers_fragments (opening closing m : Marker) :
    Labels.closers Marker.labels (fragments opening closing m) ≤
      if m = closing then 2 else 0 := by
  cases opening <;> cases closing <;> cases m <;> decide

theorem unsafeField?_fragmented (opening closing : Marker) :
    unsafeField? (fragmented opening closing) = none := by
  rw [unsafeField?_eq_none_iff]
  intro m
  by_cases hm : m = .command
  · rw [hm]
    exact hasMarker_code _
  · rw [valueOf_fragmented hm]
    exact hasMarker_fragments opening closing m

theorem hasMarker_lastingPieces {opening closing : Marker} :
    ∀ piece ∈ lastingPieces opening closing, hasMarker piece = true := by
  cases opening <;> cases closing <;> decide

theorem round_lastingPieces {opening closing : Marker} (hopening : opening ≠ .command)
    (hclosing : closing ≠ .command) :
    ∀ piece ∈ lastingPieces opening closing, ∃ next ∈ lastingPieces opening closing,
      next ∈ Text.splitAtChar '/' (round (fragmented opening closing) piece) := by
  cases opening <;> cases closing <;> first | contradiction | decide

/-- Some template is never expanded with such values. -/
theorem not_expands_fragmented {opening closing : Marker} (hopening : opening ≠ .command)
    (hclosing : closing ≠ .command) :
    ∃ s, ∀ t, ¬ Expands (fragmented opening closing) s t := by
  have hslash : Separates '/' := by decide
  let lasting (s : List Char) : Prop :=
    ∃ piece ∈ lastingPieces opening closing, piece ∈ Text.splitAtChar '/' s
  have hmarker : ∀ s, lasting s → hasMarker s = true := by
    rintro s ⟨piece, hpiece, hmem⟩
    exact hasMarker_of_mem_split hslash hmem (hasMarker_lastingPieces piece hpiece)
  have hround : ∀ s, lasting s → lasting (round (fragmented opening closing) s) := by
    rintro s ⟨piece, hpiece, hmem⟩
    obtain ⟨next, hnext, hin⟩ := round_lastingPieces hopening hclosing piece hpiece
    exact ⟨next, hnext, mem_split_round hslash hmem hin⟩
  have hstart : lasting ('#' :: opening.label ++ '#' :: closing.label.drop 1 ++ ['#']) := by
    refine ⟨_, List.mem_cons_self, ?_⟩
    rw [Text.splitAtChar_of_not_mem, List.mem_singleton]
    cases opening <;> cases closing <;> decide
  exact ⟨_, fun t => not_expands_of_lasting lasting hmarker hround hstart⟩

/-! ## The bounds -/

/-- The hash signs of every value that can open and that can close a marker are bounded. -/
structure Bounded (ctx : TransferContext) (openers closers : Marker → Nat) : Prop where
  openers : ∀ m, Labels.openers Marker.labels (ctx.valueOf m).toList ≤ openers m
  closers : ∀ m, Labels.closers Marker.labels (ctx.valueOf m).toList ≤ closers m

theorem labels_rules (ctx : TransferContext) : ctx.rules.map Prod.fst = Marker.labels := by
  simp [TransferContext.rules, Marker.labels, Function.comp_def]

theorem openers_code (operation : Operation) :
    Labels.openers Marker.labels operation.code.toList = 0 := by
  cases operation <;> decide

theorem closers_code (operation : Operation) :
    Labels.closers Marker.labels operation.code.toList = 0 := by
  cases operation <;> decide

/-- A count that is zero for every command code is at most one for every value if the bounds are. -/
theorem forall_rules_le_one {ctx : TransferContext} {count : List Char → Nat}
    {bounds : Marker → Nat} (hcode : ∀ operation : Operation, count operation.code.toList = 0)
    (hbounds : ∀ m, count (ctx.valueOf m).toList ≤ bounds m)
    (h : ∀ m, m ≠ .command → bounds m ≤ 1) : ∀ rule ∈ ctx.rules, count rule.2 ≤ 1 := by
  intro rule hrule
  obtain ⟨m, -, rfl⟩ := List.mem_map.1 hrule
  by_cases hm : m = .command
  · rw [hm]
    exact (hcode ctx.operation).le.trans (Nat.zero_le 1)
  · exact (hbounds m).trans (h m hm)

/-- Single replacements end if no value has a marker, and either none has two hash signs that can
open one or none has two that can close one. -/
theorem wellFounded_of_bounded {ctx : TransferContext} {openers closers : Marker → Nat}
    (hsafe : unsafeField? ctx = none) (hbounded : Bounded ctx openers closers)
    (h : (∀ m, m ≠ .command → openers m ≤ 1) ∨ (∀ m, m ≠ .command → closers m ≤ 1)) :
    WellFounded fun t s => Labels.Rewrites ctx.rules s t := by
  rcases h with hopeners | hclosers
  · refine Labels.wellFounded_of_openers (sound_rules hsafe) ?_
    rw [labels_rules]
    exact forall_rules_le_one openers_code hbounded.openers hopeners
  · refine Labels.wellFounded_of_closers (sound_rules hsafe) ?_
    rw [labels_rules]
    exact forall_rules_le_one closers_code hbounded.closers hclosers

/-- A count that fragments bring for one marker only is within bounds that allow it there. -/
theorem fragmented_le {opening closing special : Marker} {count : List Char → Nat}
    {bounds : Marker → Nat} (hcode : ∀ operation : Operation, count operation.code.toList = 0)
    (hfragments : ∀ m, count (fragments opening closing m) ≤ if m = special then 2 else 0)
    (h : 2 ≤ bounds special) (m : Marker) :
    count ((fragmented opening closing).valueOf m).toList ≤ bounds m := by
  by_cases hm : m = .command
  · rw [hm]
    exact (hcode _).le.trans (Nat.zero_le _)
  · rw [valueOf_fragmented hm]
    refine (hfragments m).trans ?_
    by_cases hspecial : m = special
    · rwa [if_pos hspecial, hspecial]
    · rw [if_neg hspecial]
      exact Nat.zero_le _

theorem bounded_fragmented {opening closing : Marker} {openers closers : Marker → Nat}
    (hopening : 2 ≤ openers opening) (hclosing : 2 ≤ closers closing) :
    Bounded (fragmented opening closing) openers closers where
  openers := fragmented_le openers_code (openers_fragments opening closing) hopening
  closers := fragmented_le closers_code (closers_fragments opening closing) hclosing

/-- Bounds on the hash signs that can open and that can close a marker make every expansion of
values without markers finite exactly when they allow no value two hash signs that open one, or no
value two that close one. -/
theorem expansion_finite_iff (openers closers : Marker → Nat) :
    (∀ ctx template, unsafeField? ctx = none → Bounded ctx openers closers →
        ∃ line, expand ctx template = some line ∧ hasMarker line.toList = false) ↔
      (∀ m, m ≠ .command → openers m ≤ 1) ∨ (∀ m, m ≠ .command → closers m ≤ 1) := by
  constructor
  · intro h
    by_contra hlarge
    simp only [not_or, not_forall, Nat.not_le] at hlarge
    obtain ⟨⟨opening, hopening, hopeners⟩, closing, hclosing, hclosers⟩ := hlarge
    obtain ⟨s, hs⟩ := not_expands_fragmented hopening hclosing
    obtain ⟨line, hline, -⟩ := h _ (String.ofList s) (unsafeField?_fragmented opening closing)
      (bounded_fragmented hopeners hclosers)
    rw [expand_eq_some_iff, String.toList_ofList] at hline
    exact hs _ hline
  · intro h ctx template hsafe hbounded
    obtain ⟨t, ht⟩ := exists_expands (wellFounded_of_bounded hsafe hbounded h) template.toList
    refine ⟨String.ofList t, expand_eq_some_iff.2 ?_, ?_⟩
    · rwa [String.toList_ofList]
    · rw [String.toList_ofList]
      exact ht.unmarked

/-- Two values without a marker, whose fragments turn a template into itself. -/
theorem expand_eq_none_of_fragments :
    unsafeField? ⟨"#US#ACC", "ER#OUNT#", "", "", .retrieve⟩ = none ∧
      expand ⟨"#US#ACC", "ER#OUNT#", "", "", .retrieve⟩ "#USER#OUNT#" = none := by
  refine ⟨by decide, expand_eq_none fun t => ?_⟩
  refine not_expands_of_lasting (fun s => s = "#USER#OUNT#".toList) ?_ ?_ rfl
  · rintro s rfl
    decide
  · rintro s rfl
    decide

end Template
end TransferGateway
