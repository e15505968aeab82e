import Mathlib.Algebra.Order.BigOperators.Group.List
import Mathlib.Algebra.Order.Group.Nat
import Mathlib.Data.List.Infix
import Mathlib.Tactic.Common
import TransferGateway.Proofs.Text.Replace
import TransferGateway.Text.Split

/-!
# Hash signs that open a marker

Labels between hash signs are markers, and every marker may be replaced by the value of its label.
A hash sign in a value becomes the first sign of a marker only if what follows it can be completed
to a label, and the same holds for the last sign seen from the other side.  If no value has a
whole marker, and no value has two hash signs that can open one or no value has two that can close
one, then replacing markers, in whatever order, comes to an end.
-/

namespace TransferGateway.Labels

/-- The marker of a label. -/
def marker (label : List Char) : List Char := '#' :: label ++ ['#']

variable (labels : List (List Char))

/-- Whether a piece of text is the beginning of a label. -/
def begins (piece : List Char) : Bool := labels.any piece.isPrefixOf

/-- Whether a hash sign in front of a text can become the first one of a marker: every piece of the
text between hash signs is the beginning of a label. -/
def opens (s : List Char) : Bool := (Text.splitAtChar '#' s).all (begins labels)

/-- The number of hash signs in a text that can become the first one of a marker. -/
def openers : List Char → Nat
  | [] => 0
  | c :: rest => openers rest + if c = '#' ∧ opens labels rest = true then 1 else 0

/-- The number of hash signs in a text that can become the last one of a marker. -/
def closers (s : List Char) : Nat := openers (labels.map List.reverse) s.reverse

variable {labels}

theorem begins_of_mem {label : List Char} (h : label ∈ labels) : begins labels label = true := by
  rw [begins, List.any_eq_true]
  exact ⟨label, h, by simp [List.isPrefixOf_iff_prefix]⟩

theorem begins_mono {piece longer : List Char} (hpiece : piece <+: longer)
    (h : begins labels longer = true) : begins labels piece = true := by
  rw [begins, List.any_eq_true] at h ⊢
  obtain ⟨label, hlabel, hlonger⟩ := h
  rw [List.isPrefixOf_iff_prefix] at hlonger
  exact ⟨label, hlabel, by simpa [List.isPrefixOf_iff_prefix] using hpiece.trans hlonger⟩

theorem opens_of_not_mem {piece : List Char} (h : '#' ∉ piece) :
    opens labels piece = begins labels piece := by
  simp [opens, Text.splitAtChar_of_not_mem h]

theorem opens_append_cons {piece : List Char} (h : '#' ∉ piece) (rest : List Char) :
    opens labels (piece ++ '#' :: rest) = (begins labels piece && opens labels rest) := by
  simp [opens, Text.splitAtChar_append_cons h]

theorem openers_hash (rest : List Char) :
    openers labels ('#' :: rest) =
      openers labels rest + if opens labels rest = true then 1 else 0 := by
  simp [openers]

theorem openers_append {piece : List Char} (h : '#' ∉ piece) (rest : List Char) :
    openers labels (piece ++ rest) = openers labels rest := by
  induction piece with
  | nil => rfl
  | cons c piece ih =>
    have hc : c ≠ '#' := fun heq => h (by simp [heq])
    simp [openers, hc, ih fun hmem => h (by simp [hmem])]

/-- If all of a text can be completed, its first hash sign can open a marker. -/
theorem openers_pos {s : List Char} (hopens : opens labels s = true) (hmem : '#' ∈ s) :
    0 < openers labels s := by
  obtain ⟨piece, rest, rfl, hpiece⟩ := List.eq_append_cons_of_mem hmem
  rw [opens_append_cons hpiece, Bool.and_eq_true] at hopens
  rw [openers_append hpiece, openers_hash, if_pos hopens.2]
  omega

/-! ## The weight of a text -/

/-- What a text tells a hash sign in front of it: the piece up to the next hash sign, whether that
one may still open a marker, and what the hash signs weigh. -/
structure Outlook where
  piece : List Char
  live : Bool
  weight : Nat

variable (labels) (base : Nat)

/-- Whether a hash sign in front of a text may still open a marker. -/
def Outlook.opensAhead (o : Outlook) : Bool :=
  labels.contains o.piece || (begins labels o.piece && o.live)

/-- The outlook with one more character in front.  A hash sign that may still open a marker
multiplies its own weight and all that follow. -/
def Outlook.extend (c : Char) (o : Outlook) : Outlook :=
  if c = '#' then
    ⟨[], o.opensAhead labels, (if o.opensAhead labels then base else 1) * (o.weight + 1)⟩
  else { o with piece := c :: o.piece }

/-- The outlook on a text.  At its end anything may follow. -/
def outlook : List Char → Outlook
  | [] => ⟨[], true, 0⟩
  | c :: rest => (outlook rest).extend labels base c

variable {labels base}

theorem outlook_hash (rest : List Char) :
    outlook labels base ('#' :: rest) =
      ⟨[], (outlook labels base rest).opensAhead labels,
        (if (outlook labels base rest).opensAhead labels then base else 1) *
          ((outlook labels base rest).weight + 1)⟩ := by
  simp [outlook, Outlook.extend]

theorem outlook_append {piece : List Char} (h : '#' ∉ piece) (rest : List Char) :
    outlook labels base (piece ++ rest) =
      ⟨piece ++ (outlook labels base rest).piece, (outlook labels base rest).live,
        (outlook labels base rest).weight⟩ := by
  induction piece with
  | nil => rfl
  | cons c piece ih =>
    have hc : c ≠ '#' := fun heq => h (by simp [heq])
    have hpiece := ih fun hmem => h (by simp [hmem])
    simp [outlook, Outlook.extend, hc, hpiece]

theorem begins_of_opensAhead {o : Outlook} (h : o.opensAhead labels = true) :
    begins labels o.piece = true := by
  rw [Outlook.opensAhead, Bool.or_eq_true, Bool.and_eq_true] at h
  rcases h with h | h
  · exact begins_of_mem (List.contains_iff_mem.1 h)
  · exact h.1

/-- A hash sign in front of a value that has no marker may still open one only if all of the value
can be completed. -/
theorem opens_of_opensAhead {value : List Char}
    (hvalue : ∀ label ∈ labels, ¬ marker label <:+: '#' :: value) (rest : List Char)
    (h : (outlook labels base (value ++ rest)).opensAhead labels = true) :
    opens labels value = true := by
  induction value using Text.induction_of_pieces '#' with
  | piece piece hpiece =>
    have hbegins := begins_of_opensAhead h
    rw [outlook_append hpiece] at hbegins
    rw [opens_of_not_mem hpiece]
    exact begins_mono (List.prefix_append _ _) hbegins
  | append piece value hpiece ih =>
    rw [List.append_assoc, List.cons_append, outlook_append hpiece, outlook_hash,
      Outlook.opensAhead, Bool.or_eq_true, Bool.and_eq_true, List.append_nil] at h
    have hshorter : ∀ label ∈ labels, ¬ marker label <:+: '#' :: value := fun label hlabel hin =>
      hvalue label hlabel (hin.trans ⟨'#' :: piece, [], by simp⟩)
    rcases h with h | ⟨hbegins, hahead⟩
    · -- Then the piece is a whole label, and the value has its marker.
      refine absurd ?_ (hvalue piece (List.contains_iff_mem.1 h))
      exact ⟨[], value, by simp [marker]⟩
    · rw [opens_append_cons hpiece, hbegins, ih hshorter hahead, Bool.and_self]

theorem weight_append {piece : List Char} (h : '#' ∉ piece) (rest : List Char) :
    (outlook labels base (piece ++ rest)).weight = (outlook labels base rest).weight := by
  rw [outlook_append h]

/-- A hash sign weighs no more than one that opens a marker. -/
theorem weight_hash_le (hbase : 0 < base) (rest : List Char) :
    (outlook labels base ('#' :: rest)).weight ≤
      base * ((outlook labels base rest).weight + 1) := by
  rw [outlook_hash]
  refine Nat.mul_le_mul_right _ ?_
  split <;> omega

/-- A hash sign in front of a value that cannot be completed weighs one. -/
theorem weight_hash_of_not_opens {value : List Char}
    (hvalue : ∀ label ∈ labels, ¬ marker label <:+: '#' :: value) (rest : List Char)
    (h : opens labels value = false) :
    (outlook labels base ('#' :: (value ++ rest))).weight =
      (outlook labels base (value ++ rest)).weight + 1 := by
  have hdead : ¬ (outlook labels base (value ++ rest)).opensAhead labels = true := fun hahead => by
    simp [opens_of_opensAhead hvalue rest hahead] at h
  rw [outlook_hash, if_neg hdead, Nat.one_mul]

/-- The hash signs of a value with at most one that can open a marker weigh little. -/
theorem weight_value_le {value : List Char} (hbase : 0 < base)
    (hvalue : ∀ label ∈ labels, ¬ marker label <:+: value) (rest : List Char)
    (hopeners : openers labels value ≤ 1) :
    (outlook labels base (value ++ rest)).weight ≤
      value.count '#' +
        if openers labels value = 0 then (outlook labels base rest).weight
        else base * ((outlook labels base rest).weight + 1) := by
  induction value using Text.induction_of_pieces '#' with
  | piece piece hpiece =>
    have hzero : openers labels piece = 0 := by
      have hplain : openers labels (piece ++ []) = openers labels [] := openers_append hpiece []
      rwa [List.append_nil] at hplain
    rw [weight_append hpiece, if_pos hzero]
    omega
  | append piece value hpiece ih =>
    have hcount : (piece ++ '#' :: value).count '#' = value.count '#' + 1 := by
      rw [List.count_append, List.count_eq_zero_of_not_mem hpiece, List.count_cons_self]
      omega
    have hhash : ∀ label ∈ labels, ¬ marker label <:+: '#' :: value := fun label hlabel hin =>
      hvalue label hlabel (hin.trans (List.infix_append_right))
    have hshorter : ∀ label ∈ labels, ¬ marker label <:+: value := fun label hlabel hin =>
      hhash label hlabel (List.infix_cons hin)
    rw [List.append_assoc, List.cons_append, weight_append hpiece, hcount]
    rw [openers_append hpiece, openers_hash] at hopeners ⊢
    cases hopens : opens labels value with
    | true =>
      -- The sign is the only one that can open a marker, so no other sign follows in the value.
      rw [hopens, if_pos rfl] at hopeners
      have hplain : '#' ∉ value := fun hmem => by
        have := openers_pos hopens hmem
        omega
      have hle : (outlook labels base ('#' :: (value ++ rest))).weight ≤
          base * ((outlook labels base (value ++ rest)).weight + 1) :=
        weight_hash_le hbase (value ++ rest)
      rw [weight_append hplain] at hle
      rw [if_pos rfl, if_neg (Nat.succ_ne_zero _)]
      omega
    | false =>
      rw [hopens] at hopeners
      have hrest := ih hshorter (by simpa using hopeners)
      rw [weight_hash_of_not_opens hhash rest hopens]
      simp only [Bool.false_eq_true, if_false, Nat.add_zero]
      omega

/-! ## The weight sinks -/

/-- An outlook that no text in front can make weigh as much as the other one: it lets less happen,
and it weighs less. -/
structure Outlook.Below (after before : Outlook) : Prop where
  piece : before.piece <+: after.piece
  same_or_live : after.piece = before.piece ∨ before.live = true
  live : after.live = true → before.live = true
  weight : after.weight < before.weight

theorem Outlook.Below.opensAhead {after before : Outlook} (h : after.Below before)
    (hahead : after.opensAhead labels = true) : before.opensAhead labels = true := by
  have hbegins := begins_mono h.piece (begins_of_opensAhead hahead)
  rw [Outlook.opensAhead, Bool.or_eq_true, Bool.and_eq_true] at hahead ⊢
  rcases h.same_or_live with hsame | hlive
  · rw [hsame] at hahead
    exact hahead.imp_right fun hboth => ⟨hbegins, h.live hboth.2⟩
  · exact .inr ⟨hbegins, hlive⟩

theorem Outlook.Below.extend {after before : Outlook} (hbase : 0 < base) (h : after.Below before)
    (c : Char) : (after.extend labels base c).Below (before.extend labels base c) := by
  unfold Outlook.extend
  by_cases hc : c = '#'
  · rw [if_pos hc, if_pos hc]
    refine ⟨List.prefix_rfl, .inl rfl, h.opensAhead, ?_⟩
    have hfactor : (if after.opensAhead labels = true then base else 1) ≤
        if before.opensAhead labels = true then base else 1 := by
      by_cases hahead : after.opensAhead labels = true
      · rw [if_pos hahead, if_pos (h.opensAhead hahead)]
      · rw [if_neg hahead]
        split <;> omega
    have hpos : 0 < if before.opensAhead labels = true then base else 1 := by
      split <;> omega
    calc (if after.opensAhead labels = true then base else 1) * (after.weight + 1)
        ≤ (if before.opensAhead labels = true then base else 1) * (after.weight + 1) :=
          Nat.mul_le_mul_right _ hfactor
      _ < (if before.opensAhead labels = true then base else 1) * (before.weight + 1) :=
          Nat.mul_lt_mul_of_pos_left (Nat.succ_lt_succ h.weight) hpos
  · rw [if_neg hc, if_neg hc]
    refine ⟨List.cons_prefix_cons.2 ⟨rfl, h.piece⟩, ?_, h.live, h.weight⟩
    exact h.same_or_live.imp_left fun hsame => by rw [hsame]

theorem below_append {s t : List Char} (hbase : 0 < base)
    (h : (outlook labels base t).Below (outlook labels base s)) (l : List Char) :
    (outlook labels base (l ++ t)).Below (outlook labels base (l ++ s)) := by
  induction l with
  | nil => exact h
  | cons c l ih => exact ih.extend hbase c

/-- A value with at most one opener weighs less than the marker that it replaces. -/
theorem below_marker {label value : List Char} (hlabel : label ∈ labels) (hplain : '#' ∉ label)
    (hvalue : ∀ label ∈ labels, ¬ marker label <:+: value) (hopeners : openers labels value ≤ 1)
    (hbase : value.count '#' < base) (rest : List Char) :
    (outlook labels base (value ++ rest)).Below (outlook labels base (marker label ++ rest)) := by
  have hmarker : outlook labels base (marker label ++ rest) =
      ⟨[], true, base * ((outlook labels base ('#' :: rest)).weight + 1)⟩ := by
    have hahead : (outlook labels base (label ++ '#' :: rest)).opensAhead labels = true := by
      rw [outlook_append hplain, outlook_hash, Outlook.opensAhead, List.append_nil,
        List.contains_iff_mem.2 hlabel, Bool.true_or]
    rw [marker, List.cons_append, List.cons_append, List.append_assoc, List.singleton_append,
      outlook_hash, if_pos hahead, hahead, weight_append hplain]
  rw [hmarker]
  refine ⟨List.nil_prefix, .inr rfl, fun _ => rfl, ?_⟩
  have hpositive : 0 < base := by omega
  have hle := weight_value_le hpositive hvalue rest hopeners
  have hhash : (outlook labels base rest).weight + 1 ≤
      (outlook labels base ('#' :: rest)).weight := by
    rw [outlook_hash]
    exact Nat.le_mul_of_pos_left _ (by split <;> omega)
  have hpos : (outlook labels base rest).weight + 1 ≤
      base * ((outlook labels base rest).weight + 1) := Nat.le_mul_of_pos_left _ hpositive
  have hsum : (outlook labels base (value ++ rest)).weight ≤
      value.count '#' + base * ((outlook labels base rest).weight + 1) := by
    split at hle <;> omega
  calc (outlook labels base (value ++ rest)).weight
      < base * ((outlook labels base rest).weight + 1) + base := by omega
    _ = base * ((outlook labels base rest).weight + 1 + 1) := (Nat.mul_succ _ _).symm
    _ ≤ base * ((outlook labels base ('#' :: rest)).weight + 1) :=
        Nat.mul_le_mul_left _ (Nat.succ_le_succ hhash)

/-! ## Rules -/

/-- One marker is replaced by the value of its label. -/
def Rewrites (rules : List (List Char × List Char)) (s t : List Char) : Prop :=
  ∃ rule ∈ rules, Text.Replaces (marker rule.1) rule.2 s t

/-- Labels without hash sign, and values without marker. -/
structure Sound (rules : List (List Char × List Char)) : Prop where
  plain : ∀ rule ∈ rules, '#' ∉ rule.1
  unmarked : ∀ rule ∈ rules, ∀ other ∈ rules, ¬ marker other.1 <:+: rule.2

/-- Replacing markers ends if every value has at most one opener. -/
theorem wellFounded_of_openers {rules : List (List Char × List Char)} (hsound : Sound rules)
    (hopeners : ∀ rule ∈ rules, openers (rules.map Prod.fst) rule.2 ≤ 1) :
    WellFounded fun t s => Rewrites rules s t := by
  let base := (rules.map fun rule => rule.2.count '#').sum + 1
  have hbase : ∀ rule ∈ rules, rule.2.count '#' < base := fun rule hrule =>
    Nat.lt_succ_of_le (List.single_le_sum (fun _ _ => Nat.zero_le _) _
      (List.mem_map.2 ⟨rule, hrule, rfl⟩))
  refine Subrelation.wf ?_ (InvImage.wf
    (fun s => (outlook (rules.map Prod.fst) base s).weight) Nat.lt_wfRel.wf)
  rintro t s ⟨rule, hrule, l, r, rfl, rfl⟩
  have hbelow := below_marker (List.mem_map.2 ⟨rule, hrule, rfl⟩) (hsound.plain rule hrule)
    (fun label hlabel => ?_) (hopeners rule hrule) (hbase rule hrule) r
  · rw [List.append_assoc, List.append_assoc]
    exact (below_append (by omega) hbelow l).weight
  · obtain ⟨other, hother, rfl⟩ := List.mem_map.1 hlabel
    exact hsound.unmarked rule hrule other hother

/-- The rules read from the other side. -/
def mirror (rules : List (List Char × List Char)) : List (List Char × List Char) :=
  rules.map fun rule => (rule.1.reverse, rule.2.reverse)

theorem marker_reverse (label : List Char) : marker label.reverse = (marker label).reverse := by
  simp [marker]

theorem Rewrites.mirror {rules : List (List Char × List Char)} {s t : List Char}
    (h : Rewrites rules s t) : Rewrites (mirror rules) s.reverse t.reverse := by
  obtain ⟨rule, hrule, l, r, rfl, rfl⟩ := h
  refine ⟨(rule.1.reverse, rule.2.reverse), List.mem_map.2 ⟨rule, hrule, rfl⟩,
    r.reverse, l.reverse, ?_, ?_⟩
  · simp [marker_reverse]
  · simp

theorem Sound.mirror {rules : List (List Char × List Char)} (h : Sound rules) :
    Sound (mirror rules) := by
  constructor
  · intro mirrored hmirrored
    obtain ⟨rule, hrule, rfl⟩ := List.mem_map.1 hmirrored
    simpa using h.plain rule hrule
  · intro mirrored hmirrored mirroredOther hmirroredOther
    obtain ⟨rule, hrule, rfl⟩ := List.mem_map.1 hmirrored
    obtain ⟨other, hother, rfl⟩ := List.mem_map.1 hmirroredOther
    simpa [marker_reverse, List.reverse_infix] using h.unmarked rule hrule other hother

/-- Replacing markers ends if every value has at most one closer. -/
theorem wellFounded_of_closers {rules : List (List Char × List Char)} (hsound : Sound rules)
    (hclosers : ∀ rule ∈ rules, closers (rules.map Prod.fst) rule.2 ≤ 1) :
    WellFounded fun t s => Rewrites rules s t := by
  have hmirror : WellFounded fun t s => Rewrites (mirror rules) s t := by
    refine wellFounded_of_openers hsound.mirror fun mirrored hmirrored => ?_
    obtain ⟨rule, hrule, rfl⟩ := List.mem_map.1 hmirrored
    simpa [closers, mirror, Function.comp_def] using hclosers rule hrule
  exact Subrelation.wf (fun {_ _} h => Rewrites.mirror h) (InvImage.wf List.reverse hmirror)

end TransferGateway.Labels
