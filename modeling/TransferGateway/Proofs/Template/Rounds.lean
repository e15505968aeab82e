import TransferGateway.Proofs.Text.Replace
import TransferGateway.Text.Split

/-!
# Rounds of substitution

What a round does to a text, and what a whole expansion gives.  Rounds do not reach across a
character that no marker has, so the two sides of such a character are expanded on their own.
-/

namespace TransferGateway.Template

theorem mem_all (m : Marker) : m ∈ Marker.all := by cases m <;> decide

theorem chars_ne_nil (m : Marker) : m.chars ≠ [] := by cases m <;> decide

theorem hasMarker_eq_true_iff {s : List Char} :
    hasMarker s = true ↔ ∃ m : Marker, m.chars <:+: s := by
  rw [hasMarker, List.any_eq_true]
  constructor
  · rintro ⟨m, -, h⟩
    exact ⟨m, Text.holds_eq_true_iff.1 h⟩
  · rintro ⟨m, h⟩
    exact ⟨m, mem_all m, Text.holds_eq_true_iff.2 h⟩

theorem hasMarker_eq_false_iff {s : List Char} :
    hasMarker s = false ↔ ∀ m : Marker, ¬ m.chars <:+: s := by
  rw [← Bool.not_eq_true, hasMarker_eq_true_iff, not_exists]

theorem hasMarker_code (operation : Operation) : hasMarker operation.code.toList = false := by
  cases operation <;> decide

/-- No field of a context is unsafe exactly when no value has a marker. -/
theorem unsafeField?_eq_none_iff {ctx : TransferContext} :
    unsafeField? ctx = none ↔ ∀ m : Marker, hasMarker (ctx.valueOf m).toList = false := by
  have hcode := hasMarker_code ctx.operation
  constructor
  · intro h m
    simp only [unsafeField?, Option.map_eq_none_iff, List.find?_eq_none, List.mem_cons,
      List.not_mem_nil, or_false, forall_eq_or_imp, forall_eq, Bool.not_eq_true] at h
    obtain ⟨huser, haccount, hbase, hfile⟩ := h
    cases m with
    | user => exact huser
    | account => exact haccount
    | basePath => exact hbase
    | file => exact hfile
    | command => exact hcode
  · intro h
    have huser := h .user
    have haccount := h .account
    have hbase := h .basePath
    have hfile := h .file
    simp only [TransferContext.valueOf] at huser haccount hbase hfile
    simp [unsafeField?, huser, haccount, hbase, hfile]

/-! ## Characters that no marker has -/

/-- A character that no marker has. -/
def Separates (c : Char) : Prop := ∀ m ∈ Marker.all, c ∉ m.chars

instance (c : Char) : Decidable (Separates c) :=
  inferInstanceAs (Decidable (∀ m ∈ Marker.all, c ∉ m.chars))

variable {ctx : TransferContext} {c : Char}

theorem hasMarker_separator (hc : Separates c) (s t : List Char) :
    hasMarker (s ++ c :: t) = (hasMarker s || hasMarker t) := by
  rw [Bool.eq_iff_iff, Bool.or_eq_true]
  simp only [hasMarker_eq_true_iff]
  rw [← exists_or]
  exact exists_congr fun m => Text.infix_separator_iff (hc m (mem_all m)) (chars_ne_nil m)

theorem foldl_substitute_separator (hc : Separates c) (markers : List Marker) (s t : List Char) :
    markers.foldl (substitute ctx) (s ++ c :: t) =
      markers.foldl (substitute ctx) s ++ c :: markers.foldl (substitute ctx) t := by
  induction markers generalizing s t with
  | nil => rfl
  | cons m markers ih =>
    have hfirst : substitute ctx (s ++ c :: t) m = substitute ctx s m ++ c :: substitute ctx t m :=
      Text.replaceAll_separator (chars_ne_nil m) (hc m (mem_all m)) _ s t
    rw [List.foldl_cons, hfirst, ih, List.foldl_cons, List.foldl_cons]

/-- A round works on both sides of a separating character. -/
theorem round_separator (hc : Separates c) (s t : List Char) :
    round ctx (s ++ c :: t) = round ctx s ++ c :: round ctx t :=
  foldl_substitute_separator hc Marker.all s t

/-- What a piece of a text turns into is a piece of what the text turns into. -/
theorem mem_split_round (hc : Separates c) {s piece next : List Char}
    (hpiece : piece ∈ Text.splitAtChar c s) (hnext : next ∈ Text.splitAtChar c (round ctx piece)) :
    next ∈ Text.splitAtChar c (round ctx s) := by
  induction s using Text.induction_of_pieces c with
  | piece only honly =>
    rw [Text.splitAtChar_of_not_mem honly, List.mem_singleton] at hpiece
    rwa [← hpiece]
  | append first rest hfirst ih =>
    rw [Text.splitAtChar_append_cons hfirst, List.mem_cons] at hpiece
    rw [round_separator hc, Text.splitAtChar_append, List.mem_append]
    rcases hpiece with rfl | hpiece
    · exact .inl hnext
    · exact .inr (ih hpiece)

theorem hasMarker_of_mem_split (hc : Separates c) {s piece : List Char}
    (hpiece : piece ∈ Text.splitAtChar c s) (hmarker : hasMarker piece = true) :
    hasMarker s = true := by
  induction s using Text.induction_of_pieces c with
  | piece only honly =>
    rw [Text.splitAtChar_of_not_mem honly, List.mem_singleton] at hpiece
    rwa [← hpiece]
  | append first rest hfirst ih =>
    rw [Text.splitAtChar_append_cons hfirst, List.mem_cons] at hpiece
    rw [hasMarker_separator hc, Bool.or_eq_true]
    rcases hpiece with rfl | hpiece
    · exact .inl hmarker
    · exact .inr (ih hpiece)

theorem foldl_substitute_eq_self (markers : List Marker) {s : List Char}
    (h : hasMarker s = false) : markers.foldl (substitute ctx) s = s := by
  induction markers with
  | nil => rfl
  | cons m markers ih =>
    have hsame : substitute ctx s m = s :=
      Text.replaceAll_eq_self (chars_ne_nil m) (hasMarker_eq_false_iff.1 h m) _
    rw [List.foldl_cons, hsame, ih]

/-- A round leaves a text without markers alone. -/
theorem round_eq_self {s : List Char} (h : hasMarker s = false) : round ctx s = s :=
  foldl_substitute_eq_self Marker.all h

/-! ## Whole expansions -/

theorem expands_of_round {s t : List Char} (h : Expands ctx (round ctx s) t) :
    Expands ctx s t := by
  by_cases hs : hasMarker s = true
  · exact .next hs h
  · rwa [round_eq_self (by simpa using hs)] at h

/-- An expansion gives a text without markers. -/
theorem Expands.unmarked {s t : List Char} (h : Expands ctx s t) : hasMarker t = false := by
  induction h with
  | done h => exact h
  | next _ _ ih => exact ih

/-- The two sides of a separating character are expanded on their own. -/
theorem Expands.separator (hc : Separates c) {s t u : List Char}
    (h : Expands ctx (s ++ c :: t) u) :
    ∃ s' t', Expands ctx s s' ∧ Expands ctx t t' ∧ u = s' ++ c :: t' := by
  generalize hwhole : s ++ c :: t = whole at h
  induction h generalizing s t with
  | done h =>
    subst hwhole
    rw [hasMarker_separator hc, Bool.or_eq_false_iff] at h
    exact ⟨s, t, .done h.1, .done h.2, rfl⟩
  | next _ _ ih =>
    subst hwhole
    obtain ⟨s', t', hs, ht, hu⟩ := ih (round_separator hc s t).symm
    exact ⟨s', t', expands_of_round hs, expands_of_round ht, hu⟩

/-- A round does not change what a text is expanded to. -/
theorem Expands.round {s t : List Char} (h : Expands ctx s t) :
    Expands ctx (Template.round ctx s) t := by
  cases h with
  | done h =>
    rw [round_eq_self h]
    exact .done h
  | next _ rest => exact rest

/-- The expansions of the two sides of a separating character, which may take different numbers of
rounds, make up an expansion of the whole. -/
theorem Expands.join (hc : Separates c) {s s' t t' : List Char} (hs : Expands ctx s s')
    (ht : Expands ctx t t') : Expands ctx (s ++ c :: t) (s' ++ c :: t') := by
  induction hs generalizing t with
  | @done s h =>
    -- The left side stays as it is in the rounds that the right side still needs.
    induction ht with
    | done h' =>
      refine .done ?_
      rw [hasMarker_separator hc, h, h', Bool.or_false]
    | next _ _ ih =>
      refine expands_of_round ?_
      rw [round_separator hc, round_eq_self h]
      exact ih
  | next _ _ ih =>
    refine expands_of_round ?_
    rw [round_separator hc]
    exact ih ht.round

theorem expands_separator_iff (hc : Separates c) {s t u : List Char} :
    Expands ctx (s ++ c :: t) u ↔
      ∃ s' t', Expands ctx s s' ∧ Expands ctx t t' ∧ u = s' ++ c :: t' := by
  constructor
  · exact fun h => h.separator hc
  · rintro ⟨s', t', hs, ht, rfl⟩
    exact hs.join hc ht

theorem forall_mem_foldl_substitute {P : Char → Prop}
    (hvalues : ∀ m, ∀ d ∈ (ctx.valueOf m).toList, P d) (markers : List Marker) {s : List Char}
    (hs : ∀ d ∈ s, P d) : ∀ d ∈ markers.foldl (substitute ctx) s, P d := by
  induction markers generalizing s with
  | nil => exact hs
  | cons m markers ih =>
    exact ih (Text.forall_mem_replaceAll (chars_ne_nil m) (hvalues m) hs)

/-- An expansion has only characters of the text and of the values. -/
theorem Expands.forall_mem {P : Char → Prop} (hvalues : ∀ m, ∀ d ∈ (ctx.valueOf m).toList, P d)
    {s t : List Char} (h : Expands ctx s t) (hs : ∀ d ∈ s, P d) : ∀ d ∈ t, P d := by
  induction h with
  | done _ => exact hs
  | next _ _ ih => exact ih (forall_mem_foldl_substitute hvalues Marker.all hs)

/-- A family of texts that all have markers and that rounds do not leave is never expanded. -/
theorem not_expands_of_lasting (lasting : List Char → Prop)
    (hmarker : ∀ s, lasting s → hasMarker s = true)
    (hround : ∀ s, lasting s → lasting (round ctx s)) {s t : List Char} (hs : lasting s) :
    ¬ Expands ctx s t := by
  intro h
  induction h with
  | done h =>
    rw [hmarker _ hs] at h
    contradiction
  | next _ _ ih => exact ih (hround _ hs)

/-- A template that one round rids of its markers. -/
theorem expand_of_round {template line : String} (hmarker : hasMarker template.toList = true)
    (hround : round ctx template.toList = line.toList)
    (hline : hasMarker line.toList = false) : expand ctx template = some line := by
  refine expand_eq_some_iff.2 (.next hmarker ?_)
  rw [hround]
  exact .done hline

theorem expand_eq_none {template : String} (h : ∀ t, ¬ Expands ctx template.toList t) :
    expand ctx template = none := by
  rw [Option.eq_none_iff_forall_ne_some]
  intro line hline
  exact h _ (expand_eq_some_iff.1 hline)

end TransferGateway.Template
