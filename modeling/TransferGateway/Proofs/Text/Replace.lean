import Mathlib.Data.List.Infix
import Mathlib.Logic.Relation
import Mathlib.Tactic.Common
import TransferGateway.Template

/-!
# Replacing a pattern

What it means that a text holds a pattern, and what replacing the pattern everywhere does.  The
replacement is a run of single replacements, and it does not reach across a character that the
pattern does not have.
-/

namespace TransferGateway.Text

theorem holds_eq_true_iff {pattern s : List Char} : holds pattern s = true ↔ pattern <:+: s := by
  induction s with
  | nil => simp [holds]
  | cons c rest ih => simp [holds, List.infix_cons_iff, ih]

theorem holds_eq_false_iff {pattern s : List Char} :
    holds pattern s = false ↔ ¬ pattern <:+: s := by
  rw [← Bool.not_eq_true, holds_eq_true_iff]

/-- A pattern that begins before a character it does not have ends before it. -/
theorem prefix_of_prefix_separator {pattern s t : List Char} {c : Char} (hc : c ∉ pattern)
    (h : pattern <+: s ++ c :: t) : pattern <+: s := by
  rcases List.prefix_or_prefix_of_prefix h (List.prefix_append s (c :: t)) with hs | ⟨u, rfl⟩
  · exact hs
  · rw [List.prefix_append_right_inj] at h
    cases u with
    | nil => simp
    | cons d u =>
      have hd : d = c := (List.cons_prefix_cons.1 h).1
      exact absurd (by simp [hd]) hc

/-- A text holds a pattern on one of the sides of a character that the pattern does not have. -/
theorem infix_separator_iff {pattern s t : List Char} {c : Char} (hc : c ∉ pattern)
    (hne : pattern ≠ []) : pattern <:+: s ++ c :: t ↔ pattern <:+: s ∨ pattern <:+: t := by
  induction s with
  | nil =>
    have hnot : ¬ pattern <+: c :: t := by
      intro h
      exact hne (List.prefix_nil.1 (prefix_of_prefix_separator (s := []) hc h))
    simp [List.infix_cons_iff, hnot, hne]
  | cons d s ih =>
    have hbegins : pattern <+: d :: (s ++ c :: t) ↔ pattern <+: d :: s := by
      constructor
      · exact prefix_of_prefix_separator (s := d :: s) hc
      · intro h
        exact h.trans (List.prefix_append (d :: s) (c :: t))
    rw [List.cons_append, List.infix_cons_iff, hbegins, ih, List.infix_cons_iff, or_assoc]

/-- A pattern does not reach into a text before it that lacks its first character. -/
theorem infix_append_left_iff {c : Char} {pattern s : List Char} (hs : c ∉ s) (t : List Char) :
    c :: pattern <:+: s ++ t ↔ c :: pattern <:+: t := by
  induction s with
  | nil => rfl
  | cons d s ih =>
    have hd : c ≠ d := by
      rintro rfl
      exact hs List.mem_cons_self
    have hnot : ¬ c :: pattern <+: d :: (s ++ t) := fun h => hd (List.cons_prefix_cons.1 h).1
    have hrest : c ∉ s := fun h => hs (List.mem_cons_of_mem d h)
    rw [List.cons_append, List.infix_cons_iff, ih hrest, or_iff_right hnot]

/-- A pattern does not reach into a text behind it that lacks its last character. -/
theorem infix_append_right_iff {c : Char} {pattern t : List Char} (ht : c ∉ t) (s : List Char) :
    pattern ++ [c] <:+: s ++ t ↔ pattern ++ [c] <:+: s := by
  have hreverse : c :: pattern.reverse <:+: t.reverse ++ s.reverse ↔
      c :: pattern.reverse <:+: s.reverse :=
    infix_append_left_iff (fun h => ht (List.mem_reverse.1 h)) s.reverse
  rwa [← List.reverse_append, ← List.reverse_concat, List.reverse_infix,
    List.reverse_infix] at hreverse

/-! ## The places that are replaced -/

theorem replaceFrom_eq_replaceAll_drop (pattern replacement : List Char) (passing : Nat)
    (s : List Char) :
    replaceFrom pattern replacement passing s =
      replaceAll pattern replacement (s.drop passing) := by
  induction passing generalizing s with
  | zero => rfl
  | succ passing ih =>
    cases s with
    | nil => rfl
    | cons c rest => exact ih rest

@[simp] theorem replaceAll_nil (pattern replacement : List Char) :
    replaceAll pattern replacement [] = [] := rfl

theorem replaceAll_pattern {pattern : List Char} (hne : pattern ≠ []) (replacement s : List Char) :
    replaceAll pattern replacement (pattern ++ s) =
      replacement ++ replaceAll pattern replacement s := by
  cases pattern with
  | nil => contradiction
  | cons c pattern =>
    have hhit : List.isPrefixOf (c :: pattern) (c :: (pattern ++ s)) = true := by
      simp [List.isPrefixOf_iff_prefix]
    rw [List.cons_append, replaceAll, replaceFrom, if_pos hhit, replaceFrom_eq_replaceAll_drop]
    simp

theorem replaceAll_cons {pattern rest : List Char} {c : Char} (h : ¬ pattern <+: c :: rest)
    (replacement : List Char) :
    replaceAll pattern replacement (c :: rest) = c :: replaceAll pattern replacement rest := by
  have hmiss : ¬ List.isPrefixOf pattern (c :: rest) = true := by
    rwa [List.isPrefixOf_iff_prefix]
  rw [replaceAll, replaceFrom, if_neg hmiss, replaceAll]

/-- A text ends, or goes on with the pattern, or with a character at which the pattern does not
stand: the cases of a replacement from left to right. -/
theorem induction_of_pattern {pattern : List Char} (hne : pattern ≠ [])
    {motive : List Char → Prop} (nil : motive [])
    (hit : ∀ s, motive s → motive (pattern ++ s))
    (miss : ∀ c s, ¬ pattern <+: c :: s → motive s → motive (c :: s)) (s : List Char) :
    motive s := by
  induction hlength : s.length using Nat.strongRecOn generalizing s with
  | ind n ih =>
    cases s with
    | nil => exact nil
    | cons c rest =>
      by_cases h : pattern <+: c :: rest
      · obtain ⟨u, hu⟩ := h
        have hpos := List.length_pos_iff.2 hne
        have hlt : u.length < n := by
          have := congrArg List.length hu
          rw [List.length_append] at this
          omega
        rw [← hu]
        exact hit u (ih u.length hlt u rfl)
      · refine miss c rest h (ih rest.length ?_ rest rfl)
        simp [← hlength]

theorem replaceAll_eq_self {pattern : List Char} (hne : pattern ≠ []) {s : List Char}
    (h : ¬ pattern <:+: s) (replacement : List Char) :
    replaceAll pattern replacement s = s := by
  induction s using induction_of_pattern hne with
  | nil => rfl
  | hit s ih => exact absurd (List.prefix_append pattern s).isInfix h
  | miss c s hmiss ih =>
    rw [replaceAll_cons hmiss, ih fun hs => h (List.infix_cons hs)]

/-- Both sides of a character that the pattern does not have are replaced on their own. -/
theorem replaceAll_separator {pattern : List Char} (hne : pattern ≠ []) {c : Char}
    (hc : c ∉ pattern) (replacement s t : List Char) :
    replaceAll pattern replacement (s ++ c :: t) =
      replaceAll pattern replacement s ++ c :: replaceAll pattern replacement t := by
  induction s using induction_of_pattern hne with
  | nil =>
    have hnot : ¬ pattern <+: c :: t := fun h =>
      hne (List.prefix_nil.1 (prefix_of_prefix_separator (s := []) hc h))
    rw [List.nil_append, replaceAll_cons hnot, replaceAll_nil, List.nil_append]
  | hit s ih =>
    rw [List.append_assoc, replaceAll_pattern hne, replaceAll_pattern hne, ih, List.append_assoc]
  | miss d s hmiss ih =>
    have hnot : ¬ pattern <+: d :: (s ++ c :: t) := fun h =>
      hmiss (prefix_of_prefix_separator (s := d :: s) hc h)
    rw [List.cons_append, replaceAll_cons hnot, ih, replaceAll_cons hmiss, List.cons_append]

/-- What lacks the first character of a pattern is kept in front of a replacement. -/
theorem replaceAll_append_left {c : Char} {pattern s : List Char} (hs : c ∉ s)
    (replacement t : List Char) :
    replaceAll (c :: pattern) replacement (s ++ t) =
      s ++ replaceAll (c :: pattern) replacement t := by
  induction s with
  | nil => rfl
  | cons d s ih =>
    have hnot : ¬ c :: pattern <+: d :: (s ++ t) := by
      intro h
      obtain rfl := (List.cons_prefix_cons.1 h).1
      exact hs List.mem_cons_self
    have hrest : c ∉ s := fun h => hs (List.mem_cons_of_mem d h)
    rw [List.cons_append, replaceAll_cons hnot, ih hrest, List.cons_append]

/-- A replacement brings in no other characters than its own. -/
theorem forall_mem_replaceAll {P : Char → Prop} {pattern replacement s : List Char}
    (hne : pattern ≠ []) (hreplacement : ∀ c ∈ replacement, P c) (hs : ∀ c ∈ s, P c) :
    ∀ c ∈ replaceAll pattern replacement s, P c := by
  induction s using induction_of_pattern hne with
  | nil => exact hs
  | hit s ih =>
    rw [List.forall_mem_append] at hs
    rw [replaceAll_pattern hne, List.forall_mem_append]
    exact ⟨hreplacement, ih hs.2⟩
  | miss c s hmiss ih =>
    rw [List.forall_mem_cons] at hs
    rw [replaceAll_cons hmiss, List.forall_mem_cons]
    exact ⟨hs.1, ih hs.2⟩

/-! ## Single replacements -/

/-- One place where the pattern stands is replaced. -/
def Replaces (pattern replacement s t : List Char) : Prop :=
  ∃ l r, s = l ++ pattern ++ r ∧ t = l ++ replacement ++ r

theorem replaces_pattern (pattern replacement s : List Char) :
    Replaces pattern replacement (pattern ++ s) (replacement ++ s) :=
  ⟨[], s, by simp, by simp⟩

theorem Replaces.append_left {pattern replacement s t : List Char} (l : List Char)
    (h : Replaces pattern replacement s t) :
    Replaces pattern replacement (l ++ s) (l ++ t) := by
  obtain ⟨l', r, rfl, rfl⟩ := h
  exact ⟨l ++ l', r, by simp, by simp⟩

/-- Replacing everywhere is a run of single replacements. -/
theorem reflTransGen_replaceAll {pattern : List Char} (hne : pattern ≠ [])
    (replacement s : List Char) :
    Relation.ReflTransGen (Replaces pattern replacement) s (replaceAll pattern replacement s) := by
  induction s using induction_of_pattern hne with
  | nil => exact .refl
  | hit s ih =>
    rw [replaceAll_pattern hne]
    refine .head (replaces_pattern pattern replacement s) ?_
    exact ih.lift (replacement ++ ·) fun _ _ h => h.append_left replacement
  | miss c s hmiss ih =>
    rw [replaceAll_cons hmiss]
    exact ih.lift (c :: ·) fun _ _ h => h.append_left [c]

/-- The run has at least one replacement if the pattern stands somewhere. -/
theorem transGen_replaceAll {pattern : List Char} (hne : pattern ≠ []) (replacement : List Char)
    {s : List Char} (h : pattern <:+: s) :
    Relation.TransGen (Replaces pattern replacement) s (replaceAll pattern replacement s) := by
  induction s using induction_of_pattern hne with
  | nil => exact absurd (List.infix_nil.1 h) hne
  | hit s ih =>
    rw [replaceAll_pattern hne]
    refine .head' (replaces_pattern pattern replacement s) ?_
    exact (reflTransGen_replaceAll hne replacement s).lift (replacement ++ ·)
      fun _ _ h => h.append_left replacement
  | miss c s hmiss ih =>
    rw [replaceAll_cons hmiss]
    have hs : pattern <:+: s := (List.infix_cons_iff.1 h).resolve_left hmiss
    exact (ih hs).lift (c :: ·) fun _ _ h => h.append_left [c]

end TransferGateway.Text
