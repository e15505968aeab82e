import Mathlib.Logic.Function.Iterate
import TransferGateway.Proofs.Template.Finiteness

/-!
# How many rounds an expansion takes

A replaced place takes the two hash signs of its marker out of the text.  Where the values bring no
hash sign in, the hash signs of a template are used up by the rounds: there are at most half as many
rounds as hash signs, however the markers of the template overlap and whatever new markers the
values join its fragments into.
-/

namespace TransferGateway

/-- Nothing that is put in for a marker has a hash sign. -/
structure TransferContext.HashFree (ctx : TransferContext) : Prop where
  user : '#' ∉ ctx.user.toList
  account : '#' ∉ ctx.account.toList
  baseDirectory : '#' ∉ ctx.baseDirectory.toList
  file : '#' ∉ ctx.file.toList

theorem TransferContext.HashFree.valueOf {ctx : TransferContext} (h : ctx.HashFree) (m : Marker) :
    '#' ∉ (ctx.valueOf m).toList := by
  cases m with
  | user => exact h.user
  | account => exact h.account
  | basePath => exact h.baseDirectory
  | file => exact h.file
  | command =>
    show '#' ∉ ctx.operation.code.toList
    cases ctx.operation <;> decide

theorem Marker.count_hash_chars (m : Marker) : m.chars.count '#' = 2 := by
  cases m <;> decide

namespace Template

open Relation (TransGen)

variable {ctx : TransferContext} {s t : List Char}

/-- A marker is taken out of a text, and what comes in its place has no hash sign. -/
def Removes (s t : List Char) : Prop :=
  ∃ (m : Marker) (value : List Char), '#' ∉ value ∧ Text.Replaces m.chars value s t

theorem Removes.count_hash (h : Removes s t) : s.count '#' = t.count '#' + 2 := by
  obtain ⟨m, value, hvalue, l, r, rfl, rfl⟩ := h
  have hnone : value.count '#' = 0 := List.count_eq_zero.2 hvalue
  simp only [List.count_append, m.count_hash_chars, hnone]
  omega

/-- Every marker that is taken out takes two hash signs along. -/
theorem count_hash_of_transGen (h : TransGen Removes s t) :
    t.count '#' + 2 ≤ s.count '#' := by
  induction h with
  | single h => exact h.count_hash.ge
  | tail _ h ih =>
    have hlast := h.count_hash
    omega

theorem removes_of_rewrites (h : ctx.HashFree) (hrewrites : Labels.Rewrites ctx.rules s t) :
    Removes s t := by
  obtain ⟨rule, hrule, hreplaces⟩ := hrewrites
  obtain ⟨m, -, rfl⟩ := List.mem_map.1 hrule
  rw [Marker.marker_label] at hreplaces
  exact ⟨m, (ctx.valueOf m).toList, h.valueOf m, hreplaces⟩

/-- What a round does that is entered: it takes out markers, one at least, and puts in no hash
sign. -/
structure Clears (ctx : TransferContext) (s : List Char) : Prop where
  marked : hasMarker s = true
  removes : TransGen Removes s (round ctx s)
  count_hash : (round ctx s).count '#' + 2 ≤ s.count '#'

theorem clears_of_hasMarker (h : ctx.HashFree) (hs : hasMarker s = true) : Clears ctx s := by
  have hremoves : TransGen Removes s (round ctx s) :=
    TransGen.mono (fun _ _ => removes_of_rewrites h) _ _ (rewrites_round hs)
  exact ⟨hs, hremoves, count_hash_of_transGen hremoves⟩

/-- Rounds that are entered one after the other, up to a text without a marker, are an expansion. -/
theorem expands_iterate {n : Nat} (hmarked : ∀ i < n, hasMarker ((round ctx)^[i] s) = true)
    (hlast : hasMarker ((round ctx)^[n] s) = false) : Expands ctx s ((round ctx)^[n] s) := by
  induction n generalizing s with
  | zero => exact .done hlast
  | succ n ih =>
    rw [Function.iterate_succ_apply] at hlast ⊢
    refine .next (hmarked 0 n.succ_pos) (ih (fun i hi => ?_) hlast)
    rw [← Function.iterate_succ_apply]
    exact hmarked (i + 1) (Nat.succ_lt_succ hi)

theorem exists_rounds (h : ctx.HashFree) (s : List Char) :
    ∃ n, n ≤ s.count '#' / 2 ∧ hasMarker ((round ctx)^[n] s) = false ∧
      ∀ i < n, Clears ctx ((round ctx)^[i] s) := by
  -- On the number of hash signs, which every round that is entered lowers.
  induction hcount : s.count '#' using Nat.strongRecOn generalizing s with
  | ind k ih =>
    subst hcount
    cases hs : hasMarker s with
    | false => exact ⟨0, Nat.zero_le _, hs, fun i hi => absurd hi (Nat.not_lt_zero i)⟩
    | true =>
      have hfirst := clears_of_hasMarker h hs
      have hfewer := hfirst.count_hash
      obtain ⟨n, hn, hlast, hrounds⟩ := ih _ (by omega) (round ctx s) rfl
      refine ⟨n + 1, by omega, ?_, fun i hi => ?_⟩
      · rwa [Function.iterate_succ_apply]
      · cases i with
        | zero => exact hfirst
        | succ i =>
          rw [Function.iterate_succ_apply]
          exact hrounds i (Nat.lt_of_succ_lt_succ hi)

/-- Where no value has a hash sign every template is expanded, to a text without markers, in at most
half as many rounds as it has hash signs.  Every round that is entered takes markers out, one at
least, so two hash signs at least, and brings no hash sign in. -/
theorem expand_rounds_le (h : ctx.HashFree) (template : String) :
    ∃ n line, expand ctx template = some line ∧ n ≤ template.toList.count '#' / 2 ∧
      line.toList = (round ctx)^[n] template.toList ∧ hasMarker line.toList = false ∧
      ∀ i < n, Clears ctx ((round ctx)^[i] template.toList) := by
  obtain ⟨n, hn, hlast, hrounds⟩ := exists_rounds h template.toList
  have hexpands := expands_iterate (fun i hi => (hrounds i hi).marked) hlast
  refine ⟨n, String.ofList ((round ctx)^[n] template.toList), ?_, hn, ?_, ?_, hrounds⟩
  · rw [expand_eq_some_iff, String.toList_ofList]
    exact hexpands
  · exact String.toList_ofList
  · rwa [String.toList_ofList]

/-- A transfer without a user and without a file name. -/
def nameless : TransferContext := ⟨"", "acme", "/srv", "", .retrieve⟩

/-- The name of the file, missing, joins two fragments into a marker of the user: two rounds where
six hash signs would allow three. -/
theorem expand_rounds_le_joining :
    nameless.HashFree ∧ expand nameless "##US#FILE#ER##" = some "##" ∧
      ∃ n ≤ 3, (round nameless)^[n] "##US#FILE#ER##".toList = "##".toList ∧
        ∀ i < n, Clears nameless ((round nameless)^[i] "##US#FILE#ER##".toList) := by
  have hfree : nameless.HashFree := by
    constructor <;> decide
  have hline : expand nameless "##US#FILE#ER##" = some "##" :=
    expand_eq_some_iff.2 (.next (by decide) (.next (by decide) (.done (by decide))))
  obtain ⟨n, line, hsome, hn, hrounds, -, hclears⟩ := expand_rounds_le hfree "##US#FILE#ER##"
  obtain rfl : "##" = line := Option.some.inj (hline.symm.trans hsome)
  exact ⟨hfree, hline, n, hn, hrounds.symm, hclears⟩

/-- Markers of the user whose values, missing, join the next one from its two ends. -/
def nested (k : Nat) : List Char :=
  (List.replicate k "#US".toList).flatten ++ (List.replicate k "ER#".toList).flatten

theorem count_hash_nested (k : Nat) : (nested k).count '#' = 2 * k := by
  have hopening : "#US".toList.count '#' = 1 := by decide
  have hclosing : "ER#".toList.count '#' = 1 := by decide
  simp only [nested, List.count_append, List.count_flatten, List.map_replicate,
    List.sum_replicate_nat, hopening, hclosing]
  omega

theorem nested_subset (k : Nat) : nested k ⊆ "#USER".toList := by
  have hopening : "#US".toList ⊆ "#USER".toList := by decide
  have hclosing : "ER#".toList ⊆ "#USER".toList := by decide
  intro c h
  rw [nested, List.mem_append, List.mem_flatten, List.mem_flatten] at h
  rcases h with ⟨piece, hpiece, hc⟩ | ⟨piece, hpiece, hc⟩
  · rw [List.eq_of_mem_replicate hpiece] at hc
    exact hopening hc
  · rw [List.eq_of_mem_replicate hpiece] at hc
    exact hclosing hc

/-- Nested markers of the user have no room for any other marker. -/
theorem not_infix_nested {m : Marker} (hm : m ≠ .user) (k : Nat) : ¬ m.chars <:+: nested k := by
  intro h
  have hletters : m.chars ⊆ "#USER".toList := fun _ hc => nested_subset k (h.subset hc)
  cases m with
  | user => exact hm rfl
  | account => exact absurd hletters (by decide)
  | basePath => exact absurd hletters (by decide)
  | file => exact absurd hletters (by decide)
  | command => exact absurd hletters (by decide)

theorem nested_succ (k : Nat) :
    nested (k + 1) = (List.replicate k "#US".toList).flatten ++
      (Marker.user.chars ++ (List.replicate k "ER#".toList).flatten) := by
  rw [nested, List.replicate_succ', List.replicate_succ, List.flatten_append, List.flatten_cons,
    List.flatten_nil, List.append_nil, List.flatten_cons, List.append_assoc,
    ← List.append_assoc "#US".toList]
  rfl

theorem replaceAll_openings (k : Nat) (s : List Char) :
    Text.replaceAll Marker.user.chars []
        ((List.replicate k "#US".toList).flatten ++ (Marker.user.chars ++ s)) =
      (List.replicate k "#US".toList).flatten ++ Text.replaceAll Marker.user.chars [] s := by
  induction k with
  | zero => exact Text.replaceAll_pattern (chars_ne_nil .user) [] s
  | succ k ih =>
    -- An opening stands before another one or before the marker, so no marker begins in it.
    have hnext : ∃ u, (List.replicate k "#US".toList).flatten ++ (Marker.user.chars ++ s) =
        '#' :: u := by
      cases k with
      | zero => exact ⟨_, rfl⟩
      | succ k => exact ⟨_, rfl⟩
    have hmiss : ∀ u, Text.replaceAll Marker.user.chars [] ("#US".toList ++ '#' :: u) =
        "#US".toList ++ Text.replaceAll Marker.user.chars [] ('#' :: u) := by
      intro u
      have hfirst : ¬ Marker.user.chars <+: '#' :: 'U' :: 'S' :: '#' :: u := by
        simp [Marker.chars, Marker.text]
      have hsecond : ¬ Marker.user.chars <+: 'U' :: 'S' :: '#' :: u := by
        simp [Marker.chars, Marker.text]
      have hthird : ¬ Marker.user.chars <+: 'S' :: '#' :: u := by
        simp [Marker.chars, Marker.text]
      show Text.replaceAll Marker.user.chars [] ('#' :: 'U' :: 'S' :: '#' :: u) = _
      rw [Text.replaceAll_cons hfirst, Text.replaceAll_cons hsecond, Text.replaceAll_cons hthird]
      rfl
    obtain ⟨u, hu⟩ := hnext
    rw [List.replicate_succ, List.flatten_cons, List.append_assoc, List.append_assoc, ← ih, hu]
    exact hmiss u

/-- A round over nested markers takes out the innermost one and no other. -/
theorem round_nested (huser : ctx.user = "") (k : Nat) : round ctx (nested (k + 1)) = nested k := by
  have hclosings : ¬ Marker.user.chars <:+: (List.replicate k "ER#".toList).flatten := by
    intro h
    have hmem : 'U' ∈ (List.replicate k "ER#".toList).flatten := h.subset (by decide)
    obtain ⟨piece, hpiece, hc⟩ := List.mem_flatten.1 hmem
    rw [List.eq_of_mem_replicate hpiece] at hc
    exact absurd hc (by decide)
  have hvalue : (ctx.valueOf .user).toList = [] := by
    simp [TransferContext.valueOf, huser]
  have hfirst : substitute ctx (nested (k + 1)) .user = nested k := by
    rw [substitute, hvalue, nested_succ, replaceAll_openings,
      Text.replaceAll_eq_self (chars_ne_nil .user) hclosings]
    rfl
  have hothers : ∀ m : Marker, m ≠ .user → substitute ctx (nested k) m = nested k := fun m hm =>
    Text.replaceAll_eq_self (chars_ne_nil m) (not_infix_nested hm k) _
  simp only [round, Marker.all, List.foldl_cons, List.foldl_nil, hfirst,
    hothers .account (by decide), hothers .basePath (by decide), hothers .file (by decide),
    hothers .command (by decide)]

theorem hasMarker_nested (k : Nat) : hasMarker (nested (k + 1)) = true := by
  rw [hasMarker_eq_true_iff]
  exact ⟨.user, _, _, by rw [nested_succ, List.append_assoc]⟩

/-- No smaller number of rounds would do: nested markers are entered for every two hash signs. -/
theorem rounds_nested (huser : ctx.user = "") (k : Nat) :
    (nested k).count '#' / 2 = k ∧ (round ctx)^[k] (nested k) = [] ∧
      ∀ i < k, hasMarker ((round ctx)^[i] (nested k)) = true := by
  have hrounds : ∀ i ≤ k, (round ctx)^[i] (nested k) = nested (k - i) := by
    intro i hi
    induction i with
    | zero => rfl
    | succ i ih =>
      rw [Function.iterate_succ_apply', ih (by omega), show k - i = k - (i + 1) + 1 by omega,
        round_nested huser]
  refine ⟨by rw [count_hash_nested]; omega, ?_, fun i hi => ?_⟩
  · rw [hrounds k (Nat.le_refl k), Nat.sub_self]
    rfl
  · rw [hrounds i (Nat.le_of_lt hi), show k - i = k - i - 1 + 1 by omega]
    exact hasMarker_nested _

end Template

end TransferGateway
