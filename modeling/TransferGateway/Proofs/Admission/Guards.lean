import Mathlib.Data.List.Induction
import Mathlib.Data.List.Nodup
import TransferGateway.Admission.Connections
import TransferGateway.Proofs.Admission.Pauses
import TransferGateway.Proofs.Admission.Turns
import TransferGateway.Table

/-!
# Guards and their counters

Which guards are live can be read off the calls alone: a guard is live from the call that takes it
to the one that releases it, in whatever order guards are released and whichever tasks do it.  The
counters are the numbers of live guards, neither of them ever counts down from zero, and admission
compares these numbers with its limit.
-/

namespace TransferGateway

namespace GuardCall

/-- Whether a call takes a guard. -/
def isEnter : GuardCall → Bool
  | .enter _ => true
  | .release _ => false

/-- The number of guards that are taken. -/
def taken (calls : List GuardCall) : Nat := calls.countP isEnter

/-- A guard was taken by the call that its number counts, and it has not been released since. -/
def LiveAfter (calls : List GuardCall) (number : Nat) (kind : GuardKind) : Prop :=
  ∃ before after, calls = before ++ .enter kind :: after ∧ taken before = number ∧
    .release number ∉ after

variable {calls : List GuardCall} {number other : Nat} {kind taking : GuardKind}

theorem not_liveAfter_nil : ¬ LiveAfter [] number kind := by
  rintro ⟨before, after, hsplit, -⟩
  simp at hsplit

theorem LiveAfter.lt_taken (h : LiveAfter calls number kind) : number < taken calls := by
  obtain ⟨before, after, rfl, rfl, -⟩ := h
  simp [taken, isEnter]

theorem liveAfter_concat_enter :
    LiveAfter (calls ++ [.enter taking]) number kind ↔
      LiveAfter calls number kind ∨ number = taken calls ∧ kind = taking := by
  constructor
  · rintro ⟨before, after, hsplit, hnumber, hkept⟩
    rcases List.eq_nil_or_concat after with rfl | ⟨between, last, rfl⟩
    · obtain ⟨rfl, hlast⟩ := List.append_inj' hsplit rfl
      cases hlast
      exact .inr ⟨hnumber.symm, rfl⟩
    · rw [List.concat_eq_append, ← List.cons_append, ← List.append_assoc] at hsplit
      obtain ⟨rfl, -⟩ := List.append_inj' hsplit rfl
      exact .inl ⟨before, between, rfl, hnumber, fun h => hkept (by simp [h])⟩
  · rintro (⟨before, after, rfl, hnumber, hkept⟩ | ⟨rfl, rfl⟩)
    · exact ⟨before, after ++ [.enter taking], by simp, hnumber, by simpa using hkept⟩
    · exact ⟨calls, [], rfl, rfl, List.not_mem_nil⟩

theorem liveAfter_concat_release :
    LiveAfter (calls ++ [.release other]) number kind ↔
      LiveAfter calls number kind ∧ number ≠ other := by
  constructor
  · rintro ⟨before, after, hsplit, hnumber, hkept⟩
    rcases List.eq_nil_or_concat after with rfl | ⟨between, last, rfl⟩
    · cases (List.append_inj' hsplit rfl).2
    · rw [List.concat_eq_append, ← List.cons_append, ← List.append_assoc] at hsplit
      obtain ⟨rfl, hlast⟩ := List.append_inj' hsplit rfl
      cases hlast
      refine ⟨⟨before, between, rfl, hnumber, fun h => hkept (by simp [h])⟩, ?_⟩
      rintro rfl
      exact hkept (by simp)
  · rintro ⟨⟨before, after, rfl, hnumber, hkept⟩, hne⟩
    exact ⟨before, after ++ [.release other], by simp, hnumber, by simp [hkept, hne]⟩

end GuardCall

namespace Connections

open GuardCall (LiveAfter taken)

variable {c : Connections} {calls : List GuardCall} {number : Nat} {kind other : GuardKind}

/-! ## One call -/

theorem held_enter (c : Connections) (kind other : GuardKind) :
    (c.enter kind).held other = c.held other + if kind = other then 1 else 0 := by
  simp [held, enter, List.countP_append, List.countP_singleton]

theorem counter_enter (c : Connections) (kind other : GuardKind) :
    (c.enter kind).counter other =
      if kind = other then c.counter other + 1 else c.counter other := by
  cases kind <;> cases other <;> rfl

/-- Without the entry of one number, a list of distinct numbers has one entry less. -/
theorem countP_filter_ne {entries : List (Nat × GuardKind)} {entry : Nat × GuardKind}
    (hdistinct : (entries.map Prod.fst).Nodup) (hmem : entry ∈ entries)
    (p : Nat × GuardKind → Bool) :
    entries.countP p =
      (entries.filter fun next => next.1 != entry.1).countP p + if p entry then 1 else 0 := by
  induction entries with
  | nil => cases hmem
  | cons first rest ih =>
    rw [List.map_cons, List.nodup_cons] at hdistinct
    rcases List.mem_cons.1 hmem with rfl | hrest
    · have hothers : rest.filter (fun next => next.1 != entry.1) = rest := by
        rw [List.filter_eq_self]
        intro next hnext
        rw [bne_iff_ne]
        intro heq
        exact hdistinct.1 (heq ▸ List.mem_map_of_mem hnext)
      rw [List.filter_cons_of_neg (by simp), hothers, List.countP_cons]
    · have hne : (first.1 != entry.1) = true := by
        rw [bne_iff_ne]
        intro heq
        exact hdistinct.1 (heq ▸ List.mem_map_of_mem hrest)
      rw [List.filter_cons_of_pos (by simpa using hne), List.countP_cons, List.countP_cons,
        ih hdistinct.2 hrest]
      omega

/-- Releasing a live guard counts it out and leaves the others. -/
theorem release_of_mem (hdistinct : (c.live.map Prod.fst).Nodup) (hlive : (number, kind) ∈ c.live) :
    c.release number =
      { c.countOut kind with live := c.live.filter fun entry => entry.1 != number } := by
  have hfound : c.live.find? (fun entry => entry.1 == number) = some (number, kind) :=
    Table.find?_of_mem hdistinct hlive
  rw [release, hfound]

/-- Releasing what is no live guard changes nothing. -/
theorem release_of_not_mem (hlive : ∀ kind, (number, kind) ∉ c.live) : c.release number = c := by
  have hmissing : c.live.find? (fun entry => entry.1 == number) = none := by
    rw [List.find?_eq_none]
    rintro ⟨found, kind⟩ hmem hnumber
    obtain rfl : found = number := by simpa using hnumber
    exact hlive kind hmem
  rw [release, hmissing]

theorem held_release (hdistinct : (c.live.map Prod.fst).Nodup) (hlive : (number, kind) ∈ c.live)
    (other : GuardKind) :
    c.held other = (c.release number).held other + if kind = other then 1 else 0 := by
  rw [release_of_mem hdistinct hlive, held, held, countP_filter_ne hdistinct hlive]
  simp

theorem counter_release (hdistinct : (c.live.map Prod.fst).Nodup)
    (hlive : (number, kind) ∈ c.live) (other : GuardKind) :
    (c.release number).counter other =
      if kind = other then c.counter other - 1 else c.counter other := by
  rw [release_of_mem hdistinct hlive]
  cases kind <;> cases other <;> rfl

/-! ## Any number of calls -/

/-- The counters and the live guards are what calls lead to.  The counters go round at the size of
a word. -/
structure Tracks (calls : List GuardCall) (c : Connections) : Prop where
  next : c.next = taken calls
  live : ∀ number kind, (number, kind) ∈ c.live ↔ LiveAfter calls number kind
  distinct : (c.live.map Prod.fst).Nodup
  counter : ∀ kind, (c.counter kind).toNat = c.held kind % 2 ^ 64

theorem Tracks.start : Tracks [] {} where
  next := rfl
  live _ _ := ⟨fun h => absurd h List.not_mem_nil, fun h => absurd h GuardCall.not_liveAfter_nil⟩
  distinct := List.nodup_nil
  counter kind := by cases kind <;> rfl

theorem Tracks.enter (h : Tracks calls c) (kind : GuardKind) :
    Tracks (calls ++ [.enter kind]) (c.enter kind) where
  next := by
    show c.next + 1 = taken (calls ++ [.enter kind])
    simp [h.next, taken, GuardCall.isEnter]
  live number other := by
    rw [GuardCall.liveAfter_concat_enter, ← h.live, ← h.next]
    simp [Connections.enter]
  distinct := by
    have hfresh : c.next ∉ c.live.map Prod.fst := by
      intro hmem
      obtain ⟨⟨number, other⟩, hentry, hnumber⟩ := List.mem_map.1 hmem
      have hlt := ((h.live number other).1 hentry).lt_taken
      rw [← h.next] at hlt
      exact absurd hnumber (Nat.ne_of_lt hlt)
    show ((c.live ++ [(c.next, kind)]).map Prod.fst).Nodup
    rw [List.map_append, List.map_singleton, ← List.concat_eq_append]
    exact h.distinct.concat hfresh
  counter other := by
    rw [counter_enter, held_enter]
    split
    · rw [UInt64.toNat_add, h.counter other, UInt64.toNat_one, Nat.mod_add_mod]
    · rw [h.counter other, Nat.add_zero]

theorem Tracks.release (h : Tracks calls c) (number : Nat) :
    Tracks (calls ++ [.release number]) (c.release number) := by
  have htaken : taken (calls ++ [.release number]) = taken calls := by
    simp [taken, GuardCall.isEnter]
  by_cases hlive : ∃ kind, (number, kind) ∈ c.live
  · obtain ⟨kind, hlive⟩ := hlive
    have hrelease := release_of_mem h.distinct hlive
    refine ⟨?_, fun other otherKind => ?_, ?_, fun otherKind => ?_⟩
    · rw [htaken, ← h.next, hrelease]
      cases kind <;> rfl
    · rw [GuardCall.liveAfter_concat_release, ← h.live, hrelease]
      simp
    · rw [hrelease]
      exact h.distinct.sublist (List.filter_sublist.map Prod.fst)
    · have hheld := held_release h.distinct hlive otherKind
      have hcounter := h.counter otherKind
      rw [counter_release h.distinct hlive]
      split
      · rename_i hkind
        rw [if_pos hkind] at hheld
        rw [UInt64.toNat_sub, hcounter, hheld, UInt64.toNat_one]
        omega
      · rename_i hkind
        rw [if_neg hkind, Nat.add_zero] at hheld
        rw [hcounter, hheld]
  · have hunknown : ∀ kind, (number, kind) ∉ c.live := fun kind hkind => hlive ⟨kind, hkind⟩
    rw [release_of_not_mem hunknown]
    refine ⟨h.next.trans htaken.symm, fun other kind => ?_, h.distinct, h.counter⟩
    rw [GuardCall.liveAfter_concat_release, ← h.live]
    constructor
    · intro hmem
      refine ⟨hmem, ?_⟩
      rintro rfl
      exact hunknown kind hmem
    · exact fun hmem => hmem.1

theorem run_concat (calls : List GuardCall) (call : GuardCall) :
    c.run (calls ++ [call]) = (c.run calls).answer call := by
  simp [run]

theorem tracks_run (calls : List GuardCall) : Tracks calls (({} : Connections).run calls) := by
  induction calls using List.reverseRecOn with
  | nil => exact .start
  | append_singleton calls call ih =>
    rw [run_concat]
    cases call with
    | enter kind => exact ih.enter kind
    | release number => exact ih.release number

/-! ## What admission sees -/

/-- Without a check of the load a round does not pause before it looks at the connections. -/
theorem overloaded_round_of_not_cpuCheck {a : AdmissionController}
    (hcpu : a.limits.cpuCheck = false) (surroundings : Surroundings) (now attempt : Nat) :
    (a.round surroundings now attempt).overloaded = a.crowded (surroundings now) := by
  have hawaited : a.awaited now = none := by
    simp only [AdmissionController.awaited, hcpu, Bool.false_eq_true, if_false]
  have hcheck : a.check now (surroundings now) = (a.crowded (surroundings now), a) :=
    AdmissionController.check_of_not_cpuCheck hcpu
  rw [AdmissionController.round_eq_conclude,
    AdmissionController.settle_of_awaited_eq_none hawaited]
  cases hcrowded : a.crowded (surroundings now) with
  | false =>
    rw [hcrowded] at hcheck
    rw [AdmissionController.conclude_of_idle hcheck]
  | true =>
    rw [hcrowded] at hcheck
    rw [AdmissionController.conclude_of_overloaded hcheck]

/-- What the counters tell after calls: which guards are live, how many of each kind, and that
counting one out takes one off its counter and nothing off the other. -/
structure Counts (calls : List GuardCall) (c : Connections) : Prop where
  live : ∀ number kind, (number, kind) ∈ c.live ↔ LiveAfter calls number kind
  distinct : (c.live.map Prod.fst).Nodup
  counter : ∀ kind, (c.counter kind).toNat = c.held kind
  release : ∀ number kind, (number, kind) ∈ c.live → ∀ other,
    ((c.release number).counter other).toNat + (if kind = other then 1 else 0) =
      (c.counter other).toNat

theorem Tracks.counts (h : Tracks calls c) (hfew : ∀ kind, c.held kind < 2 ^ 64) :
    Counts calls c := by
  have hcounter : ∀ kind, (c.counter kind).toNat = c.held kind := fun kind =>
    (h.counter kind).trans (Nat.mod_eq_of_lt (hfew kind))
  refine ⟨h.live, h.distinct, hcounter, fun number kind hlive other => ?_⟩
  have hheld := held_release h.distinct hlive other
  -- The guards that are left are no more than before, so their counter has not gone round either.
  have hleft : (c.release number).held other < 2 ^ 64 := by
    have hbefore := hfew other
    omega
  rw [(h.release number).counter other, Nat.mod_eq_of_lt hleft, hcounter other, hheld]

/-- As long as there are fewer guards of each kind than a word can count, the counters are at every
point the numbers of live guards, and no counter is counted down from zero.  Admission that does not
check the load says overloaded exactly if there is a limit and one of the two numbers is over it,
also when other calls take effect between its two looks at the counters. -/
theorem guards_counted {calls between : List GuardCall}
    (hfew : ∀ kind, (({} : Connections).run calls).held kind < 2 ^ 64)
    (hlater : ∀ kind, ((({} : Connections).run calls).run between).held kind < 2 ^ 64) :
    Counts calls (({} : Connections).run calls) ∧
    ∀ (a : AdmissionController) (load : Binary64) (now attempt : Nat),
      a.limits.cpuCheck = false →
      let first := ({} : Connections).run calls
      let second := first.run between
      let readings := { first.readings load with sessions := (second.readings load).sessions }
      ((a.check now readings).1 = true ↔ 0 < a.limits.connectionLimit ∧
        (a.limits.connectionLimit < first.held .network ∨
          a.limits.connectionLimit < second.held .session)) ∧
      (a.round (fun _ => readings) now attempt).overloaded = (a.check now readings).1 := by
  have hfirst := (tracks_run calls).counts hfew
  have hsecond : Counts (calls ++ between) ((({} : Connections).run calls).run between) := by
    have htracks := tracks_run (calls ++ between)
    rw [run, List.foldl_append] at htracks
    exact htracks.counts hlater
  refine ⟨hfirst, fun a load now attempt hcpu => ⟨?_, ?_⟩⟩
  · rw [AdmissionController.check_of_not_cpuCheck hcpu, AdmissionController.crowded_eq_true_iff,
      AdmissionLimits.connectionCheck, decide_eq_true_eq, ← hfirst.counter .network,
      ← hsecond.counter .session]
    rfl
  · rw [overloaded_round_of_not_cpuCheck hcpu, AdmissionController.check_of_not_cpuCheck hcpu]

/-- Two connections and two sessions of which the first of each go first. -/
def turnover : List GuardCall :=
  [.enter .network, .enter .session, .enter .network, .release 0, .enter .session, .release 1,
    .release 0]

/-- With a limit of one the guards that are left are let through, until two more sessions open
between the two looks at the counters. -/
theorem guards_counted_turnover :
    (({} : Connections).run turnover).live = [(2, .network), (3, .session)] ∧
      (({} : Connections).run turnover).network = 1 ∧
      Counts turnover (({} : Connections).run turnover) ∧
      (({ limits := { connectionLimit := 1 } } : AdmissionController).check 0
        ((({} : Connections).run turnover).readings .zero)).1 = false ∧
      (({ limits := { connectionLimit := 1 } } : AdmissionController).check 0
        { (({} : Connections).run turnover).readings .zero with sessions := 3 }).1 = true := by
  have hfew : ∀ kind, (({} : Connections).run turnover).held kind < 2 ^ 64 := by
    intro kind
    cases kind <;> decide
  have hlater : ∀ kind, ((({} : Connections).run turnover).run
      [.enter .session, .enter .session]).held kind < 2 ^ 64 := by
    intro kind
    cases kind <;> decide
  have hsoon : ∀ kind, ((({} : Connections).run turnover).run []).held kind < 2 ^ 64 := hfew
  obtain ⟨hcounts, hsame⟩ := guards_counted hfew hsoon
  obtain ⟨-, hmore⟩ := guards_counted hfew hlater
  refine ⟨by decide, by decide, hcounts, ?_, ?_⟩
  · rw [← Bool.not_eq_true]
    intro hover
    have hcrowded := (hsame { limits := { connectionLimit := 1 } } .zero 0 0 rfl).1.1 hover
    exact absurd hcrowded (by decide)
  · exact (hmore { limits := { connectionLimit := 1 } } .zero 0 0 rfl).1.2 (by decide)

end Connections

end TransferGateway
