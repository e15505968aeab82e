import TransferGateway.Proofs.Template.Finiteness

/-!
# Well-separated templates

A template of which every two markers are kept apart by a character that no label has.  No value
can then join with what stands around it: a single round puts the values in the places of their
markers, and they stay as they are.
-/

namespace TransferGateway.Template

/-- A template taken apart: the text before the first marker, and every marker with the text behind
it. -/
structure Layout where
  head : String
  parts : List (Marker × String)
deriving DecidableEq, Repr, Inhabited

namespace Layout

/-- Some text and the parts behind it, with something in the place of every marker. -/
def fillFrom (f : Marker → String) : String → List (Marker × String) → String
  | text, [] => text
  | text, (m, next) :: rest => text ++ f m ++ fillFrom f next rest

/-- The text of a layout with something in the place of every marker. -/
def fill (layout : Layout) (f : Marker → String) : String := fillFrom f layout.head layout.parts

/-- No text of a layout has a hash sign, and every text between two markers has a character that is
in no label. -/
structure Separated (layout : Layout) : Prop where
  head : '#' ∉ layout.head.toList
  plain : ∀ part ∈ layout.parts, '#' ∉ part.2.toList
  apart : ∀ part ∈ layout.parts.dropLast, ∃ c ∈ part.2.toList, ∀ m : Marker, c ∉ m.label

end Layout

variable {ctx : TransferContext} {layout : Layout}

/-! ## One marker between plain texts -/

theorem infix_between_iff {s t : List Char} (hs : '#' ∉ s) (ht : '#' ∉ t) (m : Marker)
    (w : List Char) : m.chars <:+: s ++ w ++ t ↔ m.chars <:+: w := by
  have hright : m.chars <:+: s ++ w ++ t ↔ m.chars <:+: s ++ w := by
    rw [← m.marker_label]
    exact Text.infix_append_right_iff ht (s ++ w)
  have hleft : m.chars <:+: s ++ w ↔ m.chars <:+: w := by
    rw [← m.marker_label]
    exact Text.infix_append_left_iff hs w
  exact hright.trans hleft

theorem hasMarker_between {s t : List Char} (hs : '#' ∉ s) (ht : '#' ∉ t) (w : List Char) :
    hasMarker (s ++ w ++ t) = hasMarker w := by
  rw [Bool.eq_iff_iff, hasMarker_eq_true_iff, hasMarker_eq_true_iff]
  exact exists_congr fun m => infix_between_iff hs ht m w

theorem hasMarker_plain {s : List Char} (hs : '#' ∉ s) : hasMarker s = false := by
  have hbetween := hasMarker_between hs (t := []) List.not_mem_nil []
  rw [List.append_nil, List.append_nil] at hbetween
  exact hbetween

theorem substitute_between {s t : List Char} (hs : '#' ∉ s) (ht : '#' ∉ t) (m : Marker) :
    substitute ctx (s ++ m.chars ++ t) m = s ++ (ctx.valueOf m).toList ++ t := by
  have hplain : ¬ m.chars <:+: t := hasMarker_eq_false_iff.1 (hasMarker_plain ht) m
  have hleft : substitute ctx (s ++ (m.chars ++ t)) m = s ++ substitute ctx (m.chars ++ t) m := by
    unfold substitute
    rw [← m.marker_label]
    exact Text.replaceAll_append_left hs _ _
  have hhere : substitute ctx (m.chars ++ t) m = (ctx.valueOf m).toList ++ t := by
    unfold substitute
    rw [Text.replaceAll_pattern (chars_ne_nil m), Text.replaceAll_eq_self (chars_ne_nil m) hplain]
  rw [List.append_assoc, hleft, hhere, List.append_assoc]

/-- A marker is replaced by its value where it stands, and other things are left alone. -/
theorem substitute_zone {f : Marker → String} {m : Marker} (hm : f m = m.text)
    (hothers : ∀ other, other ≠ m → ¬ m.chars <:+: (f other).toList) (here : Marker)
    {s t : List Char} (hs : '#' ∉ s) (ht : '#' ∉ t) :
    substitute ctx (s ++ (f here).toList ++ t) m =
      s ++ (Function.update f m (ctx.valueOf m) here).toList ++ t := by
  by_cases hhere : here = m
  · subst hhere
    rw [hm, Function.update_self]
    exact substitute_between hs ht here
  · have hnot : ¬ m.chars <:+: s ++ (f here).toList ++ t := by
      rw [infix_between_iff hs ht]
      exact hothers here hhere
    rw [Function.update_of_ne hhere]
    exact Text.replaceAll_eq_self (chars_ne_nil m) hnot _

/-! ## Whole layouts -/

theorem separates_of_label {c : Char} (hhash : c ≠ '#') (h : ∀ m : Marker, c ∉ m.label) :
    Separates c := by
  intro m _
  rw [← m.marker_label]
  simp [Labels.marker, hhash, h m]

/-- A separated layout is a plain text, or has one marker between plain texts, behind which it ends
or goes on after a character that no marker has. -/
theorem induction_of_zones {motive : ((Marker → String) → List Char) → Prop}
    (plain : ∀ s, '#' ∉ s → motive fun _ => s)
    (zone : ∀ s m t, '#' ∉ s → '#' ∉ t → motive fun f => s ++ (f m).toList ++ t)
    (apart : ∀ s m t c rest, '#' ∉ s → '#' ∉ t → Separates c → motive rest →
      motive fun f => s ++ (f m).toList ++ t ++ c :: rest f)
    (h : layout.Separated) : motive fun f => (layout.fill f).toList := by
  obtain ⟨head, parts⟩ := layout
  induction parts generalizing head with
  | nil => exact plain head.toList h.head
  | cons part parts ih =>
    obtain ⟨m, next⟩ := part
    have hnext : '#' ∉ next.toList := h.plain (m, next) List.mem_cons_self
    cases parts with
    | nil =>
      have hzone := zone head.toList m next.toList h.head hnext
      simpa only [Layout.fill, Layout.fillFrom, String.toList_append] using hzone
    | cons second rest =>
      obtain ⟨c, hc, hlabel⟩ := h.apart (m, next) List.mem_cons_self
      obtain ⟨before, behind, hsplit⟩ := List.append_of_mem hc
      rw [hsplit] at hnext
      have hhash : c ≠ '#' := by
        rintro rfl
        exact hnext (by simp)
      -- The text up to the character belongs to the first marker, the text behind it to the next.
      have hrest : Layout.Separated ⟨String.ofList behind, second :: rest⟩ := by
        refine ⟨?_, fun part hpart => h.plain part (List.mem_cons_of_mem _ hpart),
          fun part hpart => h.apart part (List.mem_cons_of_mem _ hpart)⟩
        rw [String.toList_ofList]
        exact fun hmem => hnext (by simp [hmem])
      have happart := apart head.toList m before c _ h.head (fun hmem => hnext (by simp [hmem]))
        (separates_of_label hhash hlabel) (ih _ hrest)
      have hfill : (fun f => (Layout.fill ⟨head, (m, next) :: second :: rest⟩ f).toList) = fun f =>
          head.toList ++ (f m).toList ++ before ++
            c :: (Layout.fill ⟨String.ofList behind, second :: rest⟩ f).toList := by
        funext f
        simp [Layout.fill, Layout.fillFrom, hsplit]
      rw [hfill]
      exact happart

theorem hasMarker_fill (h : layout.Separated) {f : Marker → String}
    (hf : ∀ m, hasMarker (f m).toList = false) : hasMarker (layout.fill f).toList = false := by
  refine induction_of_zones (motive := fun text => hasMarker (text f) = false) ?_ ?_ ?_ h
  · exact fun s hs => hasMarker_plain hs
  · intro s m t hs ht
    rw [hasMarker_between hs ht, hf]
  · intro s m t c rest hs ht hc ih
    rw [hasMarker_separator hc, hasMarker_between hs ht, hf, ih, Bool.or_false]

theorem substitute_fill (h : layout.Separated) {f : Marker → String} {m : Marker}
    (hm : f m = m.text) (hothers : ∀ other, other ≠ m → ¬ m.chars <:+: (f other).toList) :
    substitute ctx (layout.fill f).toList m =
      (layout.fill (Function.update f m (ctx.valueOf m))).toList := by
  refine induction_of_zones (motive := fun text =>
    substitute ctx (text f) m = text (Function.update f m (ctx.valueOf m))) ?_ ?_ ?_ h
  · intro s hs
    have hnot : ¬ m.chars <:+: s := hasMarker_eq_false_iff.1 (hasMarker_plain hs) m
    exact Text.replaceAll_eq_self (chars_ne_nil m) hnot _
  · intro s here t hs ht
    exact substitute_zone hm hothers here hs ht
  · intro s here t c rest hs ht hc ih
    have hsides : substitute ctx (s ++ (f here).toList ++ t ++ c :: rest f) m =
        substitute ctx (s ++ (f here).toList ++ t) m ++ c :: substitute ctx (rest f) m :=
      Text.replaceAll_separator (chars_ne_nil m) (hc m (mem_all m)) _ _ _
    rw [hsides, ih, substitute_zone hm hothers here hs ht]

/-! ## Expansion -/

/-- What stands in the place of a marker once some markers have been replaced. -/
def replaced (ctx : TransferContext) (done : List Marker) (m : Marker) : String :=
  if m ∈ done then ctx.valueOf m else m.text

theorem not_infix_chars {m other : Marker} (h : other ≠ m) : ¬ m.chars <:+: other.chars := by
  cases m <;> cases other <;> first | contradiction | decide

theorem not_infix_replaced (hsafe : unsafeField? ctx = none) {m other : Marker} (h : other ≠ m)
    (done : List Marker) : ¬ m.chars <:+: (replaced ctx done other).toList := by
  unfold replaced
  split
  · exact hasMarker_eq_false_iff.1 (unsafeField?_eq_none_iff.1 hsafe other) m
  · exact not_infix_chars h

theorem update_replaced (ctx : TransferContext) (done : List Marker) (m : Marker) :
    Function.update (replaced ctx done) m (ctx.valueOf m) = replaced ctx (done ++ [m]) := by
  funext other
  by_cases h : other = m
  · subst h
    simp [replaced]
  · simp [replaced, h]

/-- Markers that are replaced one after the other in a separated layout, each once, give way to
their values, and nothing else changes. -/
theorem foldl_substitute_fill (hsafe : unsafeField? ctx = none) (h : layout.Separated)
    {done : List Marker} (hdone : done.Nodup) :
    done.foldl (substitute ctx) (layout.fill Marker.text).toList =
      (layout.fill (replaced ctx done)).toList := by
  induction done using List.reverseRecOn with
  | nil =>
    have hnone : replaced ctx [] = Marker.text := by
      funext m
      simp [replaced]
    rw [hnone, List.foldl_nil]
  | append_singleton done m ih =>
    rw [List.nodup_append] at hdone
    have hnew : m ∉ done := fun hmem => hdone.2.2 m hmem m (by simp) rfl
    have hm : replaced ctx done m = m.text := if_neg hnew
    rw [List.foldl_append, ih hdone.1, List.foldl_cons, List.foldl_nil,
      substitute_fill h hm fun other hother => not_infix_replaced hsafe hother done,
      update_replaced]

/-- A separated template is expanded to its texts with the values between them.  At every moment
every place has its marker or its value: what was put in is not replaced again. -/
theorem expand_separated (hsafe : unsafeField? ctx = none) (h : layout.Separated) :
    expand ctx (layout.fill Marker.text) = some (layout.fill ctx.valueOf) ∧
    (∀ done, done <+: Marker.all → done.foldl (substitute ctx) (layout.fill Marker.text).toList =
      (layout.fill (replaced ctx done)).toList) ∧
    round ctx (layout.fill Marker.text).toList = (layout.fill ctx.valueOf).toList ∧
    hasMarker (layout.fill ctx.valueOf).toList = false := by
  have hall : Marker.all.Nodup := by decide
  have hprefix : ∀ done, done <+: Marker.all →
      done.foldl (substitute ctx) (layout.fill Marker.text).toList =
        (layout.fill (replaced ctx done)).toList :=
    fun done hdone => foldl_substitute_fill hsafe h (hall.sublist hdone.sublist)
  have hvalues : replaced ctx Marker.all = ctx.valueOf := by
    funext m
    exact if_pos (mem_all m)
  have hround : round ctx (layout.fill Marker.text).toList = (layout.fill ctx.valueOf).toList := by
    rw [← hvalues]
    exact hprefix Marker.all List.prefix_rfl
  have hunmarked : hasMarker (layout.fill ctx.valueOf).toList = false :=
    hasMarker_fill h (unsafeField?_eq_none_iff.1 hsafe)
  refine ⟨expand_eq_some_iff.2 (expands_of_round ?_), hprefix, hround, hunmarked⟩
  rw [hround]
  exact .done hunmarked

/-- Values that would join to a marker if they stood side by side. -/
theorem expand_separated_fragments :
    unsafeField? ⟨"#US", "ER#", "/srv", "#FILE", .store⟩ = none ∧
      expand ⟨"#US", "ER#", "/srv", "#FILE", .store⟩ "#USER#/#ACCOUNT# #FILE# #COMMAND#" =
        some "#US/ER# #FILE STOR" := by
  have hseparated : Layout.Separated
      ⟨"", [(.user, "/"), (.account, " "), (.file, " "), (.command, "")]⟩ := by
    refine ⟨by decide, by decide, fun part hpart => ?_⟩
    have hbetween : part ∈ [(Marker.user, "/"), (.account, " "), (.file, " ")] := hpart
    simp only [List.mem_cons, List.not_mem_nil, or_false] at hbetween
    rcases hbetween with rfl | rfl | rfl
    · exact ⟨'/', by decide, fun m => by cases m <;> decide⟩
    · exact ⟨' ', by decide, fun m => by cases m <;> decide⟩
    · exact ⟨' ', by decide, fun m => by cases m <;> decide⟩
  have hsafe : unsafeField? ⟨"#US", "ER#", "/srv", "#FILE", .store⟩ = none := by decide
  exact ⟨hsafe, (expand_separated hsafe hseparated).1⟩

end TransferGateway.Template
