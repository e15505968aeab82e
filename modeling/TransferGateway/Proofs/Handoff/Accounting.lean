import Mathlib.Data.List.Nodup
import Mathlib.Data.List.Range
import Mathlib.Tactic.Common
import TransferGateway.Handoff.Interleaving

/-!
# Accounting of interleaved hand-offs

However hand-offs on one store are interleaved and whichever of their calls fail, every row of the
queue belongs to the one hand-off that created it.  A row is up for submission exactly when its
hand-off succeeded, and a row is left undefined only while its hand-off is at work on it or when
both marking and deleting it failed.
-/

namespace TransferGateway.Handoff

/-- The ids that deeds handed out, in order. -/
def ticketsOf (deeds : List Deed) : List Int := deeds.filterMap Deed.ticket?

@[simp] theorem ticketsOf_append (earlier later : List Deed) :
    ticketsOf (earlier ++ later) = ticketsOf earlier ++ ticketsOf later :=
  List.filterMap_append

/-- Everything that one step of a hand-off can do, on a given store. -/
inductive Outcome (store : Store) : Stage → Stage → Store → List Deed → Prop where
  | unruled (settings : Settings) (request : Request) (e : HandoffError)
      (found : Except StoreError (Option TransferRule)) :
      Outcome store (.lookup settings request) (.ended (.error e) false) store
        [.lookup request.rule found]
  | ruled (settings : Settings) (request : Request) (rule : TransferRule)
      (found : Except StoreError (Option TransferRule)) :
      Outcome store (.lookup settings request) (.create (settings.descriptor request rule store.clock)) store
        [.lookup request.rule found]
  | uncreated (descriptor : Descriptor) (cause : StoreError) :
      Outcome store (.create descriptor) (.ended (.error (.persistence cause)) false) store
        [.create (.error cause)]
  | created (descriptor : Descriptor) :
      Outcome store (.create descriptor) (.mark descriptor store.queue.next)
        { store with queue := (store.queue.create descriptor).2 } [.create (.ok store.queue.next)]
  | unmarked (descriptor : Descriptor) (id : Int) (cause : StoreError) :
      Outcome store (.mark descriptor id) (.delete id cause) store
        [.mark id .toSubmit (.error cause)]
  | marked (descriptor : Descriptor) (id : Int) :
      Outcome store (.mark descriptor id) (.ended (.ok { descriptor with id := some id }) false)
        { store with queue := store.queue.setState id .toSubmit } [.mark id .toSubmit (.ok ())]
  | undeleted (id : Int) (cause secondCause : StoreError) :
      Outcome store (.delete id cause) (.ended (.error (.persistence cause)) false) store
        [.delete id (.error secondCause)]
  | deleted (id : Int) (cause : StoreError) :
      Outcome store (.delete id cause) (.ended (.error (.persistence cause)) false)
        { store with queue := store.queue.delete id } [.delete id (.ok ())]
  | returned (result : Except HandoffError Descriptor) (returned : Bool) :
      Outcome store (.ended result returned) (.ended result true) store []

theorem step_outcome (stage : Stage) (store : Store) :
    Outcome store stage (stage.step store).1 (stage.step store).2.1 (stage.step store).2.2 := by
  cases stage with
  | lookup settings request =>
    simp only [Stage.step]
    cases store.lookup request.rule with
    | error cause => exact .unruled settings request _ _
    | ok rule? =>
      cases rule? with
      | none => exact .unruled settings request _ _
      | some rule => exact .ruled settings request rule _
  | create descriptor =>
    rcases store.create_cases descriptor with ⟨cause, h⟩ | h
    · simpa only [Stage.step, h] using .uncreated descriptor cause
    · simpa only [Stage.step, h] using .created descriptor
  | mark descriptor id =>
    rcases store.mark_cases id .toSubmit with ⟨cause, h⟩ | ⟨row, -, h⟩
    · simpa only [Stage.step, h] using .unmarked descriptor id cause
    · simpa only [Stage.step, h] using .marked descriptor id
  | delete id cause =>
    rcases store.delete_cases id with ⟨secondCause, h⟩ | h
    · simpa only [Stage.step, h] using .undeleted id cause secondCause
    · simpa only [Stage.step, h] using .deleted id cause
  | ended result returned => exact .returned result returned

/-- A step hands out the next id of the queue or none. -/
theorem Outcome.tickets {store store' : Store} {stage stage' : Stage} {new : List Deed}
    (h : Outcome store stage stage' store' new) :
    (ticketsOf new = [] ∧ store'.queue.next = store.queue.next) ∨
      (ticketsOf new = [store.queue.next] ∧ store'.queue.next = store.queue.next + 1) := by
  cases h with
  | created descriptor => exact .inr ⟨rfl, rfl⟩
  | _ => exact .inl ⟨rfl, rfl⟩

/-! ## A hand-off that is never interrupted -/

/-- What a hand-off leads to from a stage on, if no other one gets its turn. -/
def Stage.rest : Stage → Store → Prepared
  | .lookup settings request, store => fulfil settings request store
  | .create descriptor, store => enqueue descriptor store
  | .mark descriptor id, store => submit descriptor id store
  | .delete id cause, store => ⟨.error (.persistence cause), (store.delete id).2, [.delete id]⟩
  | .ended result _, store => ⟨result, store, []⟩

/-- The most steps that a hand-off has still to make. -/
def Stage.left : Stage → Nat
  | .lookup .. => 5
  | .create _ => 4
  | .mark .. => 3
  | .delete .. => 2
  | .ended _ returned => if returned then 0 else 1

/-- One step of a hand-off that is alone, with the calls made so far. -/
def Stage.alone : Stage × Store × List StoreCall → Stage × Store × List StoreCall
  | (stage, store, calls) =>
    ((stage.step store).1, (stage.step store).2.1, calls ++ (stage.step store).2.2.map Deed.call)

theorem rest_start (settings : Settings) (line : String) (store : Store) :
    (Stage.start settings line).rest store = prepare settings line store := by
  unfold Stage.start prepare
  cases Request.parse line settings.defaultBlockSize <;> rfl

theorem rest_step (stage : Stage) (store : Store) :
    stage.rest store =
      { (stage.step store).1.rest (stage.step store).2.1 with
        calls := (stage.step store).2.2.map Deed.call ++
          ((stage.step store).1.rest (stage.step store).2.1).calls } := by
  cases stage with
  | lookup settings request =>
    simp only [Stage.rest, Stage.step, fulfil]
    cases store.lookup request.rule with
    | error cause => rfl
    | ok rule? => cases rule? <;> rfl
  | create descriptor =>
    simp only [Stage.rest, Stage.step, enqueue]
    rcases store.create_cases descriptor with ⟨cause, h⟩ | h <;> rw [h] <;> rfl
  | mark descriptor id =>
    simp only [Stage.rest, Stage.step, submit]
    rcases store.mark_cases id .toSubmit with ⟨cause, h⟩ | ⟨row, -, h⟩ <;> rw [h] <;> rfl
  | delete id cause => rfl
  | ended result returned => rfl

theorem left_step {stage : Stage} {store : Store} {n : Nat} (h : stage.left ≤ n + 1) :
    (stage.step store).1.left ≤ n := by
  have hout := step_outcome stage store
  generalize stage.step store = next at hout ⊢
  obtain ⟨stage', store', new⟩ := next
  replace hout : Outcome store stage stage' store' new := hout
  cases hout <;> simp [Stage.left] at h ⊢ <;> omega

/-- A hand-off that is alone ends with the answer, the store and the calls of its rest. -/
theorem alone_iterate {n : Nat} {stage : Stage} (h : stage.left ≤ n) (store : Store)
    (calls : List StoreCall) :
    Stage.alone^[n] (stage, store, calls) =
      (.ended (stage.rest store).result true, (stage.rest store).store,
        calls ++ (stage.rest store).calls) := by
  induction n generalizing stage store calls with
  | zero =>
    cases stage with
    | ended result returned =>
      have hreturned : returned = true := by simpa [Stage.left] using h
      simp [Stage.rest, hreturned]
    | _ => simp [Stage.left] at h
  | succ n ih =>
    rw [Function.iterate_succ_apply, Stage.alone, ih (left_step h), rest_step stage store,
      List.append_assoc]

/-- Five steps of a hand-off that is alone are one call of `prepare`. -/
theorem alone_iterate_start (settings : Settings) (line : String) (store : Store) :
    Stage.alone^[5] (.start settings line, store, []) =
      (.ended (prepare settings line store).result true, (prepare settings line store).store,
        (prepare settings line store).calls) := by
  have hleft : (Stage.start settings line).left ≤ 5 := by
    unfold Stage.start
    split <;> simp [Stage.left]
  rw [alone_iterate hleft, rest_start, List.nil_append]

/-! ## The invariant of one hand-off -/

/-- What a hand-off has done so far, and what the queue holds for it, at each of its stages. -/
inductive Tracks (q : Queue) : Stage → List Deed → Prop where
  | atLookup (settings : Settings) (request : Request) : Tracks q (.lookup settings request) []
  | atCreate (descriptor : Descriptor) (rule : String)
      (found : Except StoreError (Option TransferRule)) :
      Tracks q (.create descriptor) [.lookup rule found]
  | atMark {descriptor : Descriptor} {id : Int} (rule : String)
      (found : Except StoreError (Option TransferRule))
      (held : q.find? id = some (Queue.newRow descriptor id)) :
      Tracks q (.mark descriptor id) [.lookup rule found, .create (.ok id)]
  | atDelete {descriptor : Descriptor} {id : Int} (rule : String)
      (found : Except StoreError (Option TransferRule)) (cause : StoreError)
      (held : q.find? id = some (Queue.newRow descriptor id)) :
      Tracks q (.delete id cause)
        [.lookup rule found, .create (.ok id), .mark id .toSubmit (.error cause)]
  | unread (e : HandoffError) (returned : Bool) : Tracks q (.ended (.error e) returned) []
  | unruled (e : HandoffError) (returned : Bool) (rule : String)
      (found : Except StoreError (Option TransferRule)) :
      Tracks q (.ended (.error e) returned) [.lookup rule found]
  | uncreated (e : HandoffError) (returned : Bool) (rule : String)
      (found : Except StoreError (Option TransferRule)) (cause : StoreError) :
      Tracks q (.ended (.error e) returned) [.lookup rule found, .create (.error cause)]
  | submitted {descriptor : Descriptor} {id : Int} (returned : Bool) (rule : String)
      (found : Except StoreError (Option TransferRule))
      (held : q.find? id = some ⟨{ descriptor with id := some id }, .toSubmit⟩) :
      Tracks q (.ended (.ok { descriptor with id := some id }) returned)
        [.lookup rule found, .create (.ok id), .mark id .toSubmit (.ok ())]
  | removed {id : Int} (e : HandoffError) (returned : Bool) (rule : String)
      (found : Except StoreError (Option TransferRule)) (cause : StoreError)
      (gone : q.find? id = none) :
      Tracks q (.ended (.error e) returned)
        [.lookup rule found, .create (.ok id), .mark id .toSubmit (.error cause),
          .delete id (.ok ())]
  | stranded {descriptor : Descriptor} {id : Int} (e : HandoffError) (returned : Bool)
      (rule : String) (found : Except StoreError (Option TransferRule))
      (cause secondCause : StoreError)
      (held : q.find? id = some (Queue.newRow descriptor id)) :
      Tracks q (.ended (.error e) returned)
        [.lookup rule found, .create (.ok id), .mark id .toSubmit (.error cause),
          .delete id (.error secondCause)]

namespace Tracks

/-- Only the rows under a hand-off's own ids matter to it. -/
theorem frame {q q' : Queue} {stage : Stage} {deeds : List Deed} (h : Tracks q stage deeds)
    (hsame : ∀ id ∈ ticketsOf deeds, q'.find? id = q.find? id) : Tracks q' stage deeds := by
  have hown (rule : String) (found : Except StoreError (Option TransferRule)) (id : Int)
      (rest : List Deed) :
      id ∈ ticketsOf (.lookup rule found :: .create (.ok id) :: rest) := by
    simp [ticketsOf, Deed.ticket?]
  cases h with
  | atLookup settings request => exact .atLookup settings request
  | atCreate descriptor rule found => exact .atCreate descriptor rule found
  | atMark rule found held =>
    exact .atMark rule found ((hsame _ (hown ..)).trans held)
  | atDelete rule found cause held =>
    exact .atDelete rule found cause ((hsame _ (hown ..)).trans held)
  | unread e returned => exact .unread e returned
  | unruled e returned rule found => exact .unruled e returned rule found
  | uncreated e returned rule found cause => exact .uncreated e returned rule found cause
  | submitted returned rule found held =>
    exact .submitted returned rule found ((hsame _ (hown ..)).trans held)
  | removed e returned rule found cause gone =>
    exact .removed e returned rule found cause ((hsame _ (hown ..)).trans gone)
  | stranded e returned rule found cause secondCause held =>
    exact .stranded e returned rule found cause secondCause ((hsame _ (hown ..)).trans held)

/-- A step leaves the rows under the ids of others as they were. -/
theorem find?_of_outcome {store store' : Store} {stage stage' : Stage} {deeds new : List Deed}
    (h : Tracks store.queue stage deeds) (hstep : Outcome store stage stage' store' new)
    {id : Int} (hid : id ∉ ticketsOf (deeds ++ new)) :
    store'.queue.find? id = store.queue.find? id := by
  cases hstep with
  | created descriptor =>
    have hne : id ≠ store.queue.next := by
      intro heq
      exact hid (by simp [ticketsOf, Deed.ticket?, heq])
    simp [hne]
  | marked descriptor own =>
    cases h with
    | atMark rule found held =>
      have hne : id ≠ own := by
        intro heq
        exact hid (by simp [ticketsOf, Deed.ticket?, heq])
      simp [hne]
  | deleted own cause =>
    cases h with
    | atDelete rule found cause held =>
      have hne : id ≠ own := by
        intro heq
        exact hid (by simp [ticketsOf, Deed.ticket?, heq])
      simp [hne]
  | _ => rfl

/-- A hand-off that gets its turn goes on to a stage that fits what it has done by then. -/
theorem step {store store' : Store} {stage stage' : Stage} {deeds new : List Deed}
    (h : Tracks store.queue stage deeds) (hstep : Outcome store stage stage' store' new) :
    Tracks store'.queue stage' (deeds ++ new) := by
  cases hstep with
  | unruled settings request e found =>
    cases h with
    | atLookup settings request => exact .unruled e false request.rule found
  | ruled settings request rule found =>
    cases h with
    | atLookup settings request => exact .atCreate _ request.rule found
  | uncreated descriptor cause =>
    cases h with
    | atCreate descriptor rule found => exact .uncreated _ false rule found cause
  | created descriptor =>
    cases h with
    | atCreate descriptor rule found => exact .atMark rule found (by simp)
  | unmarked descriptor id cause =>
    cases h with
    | atMark rule found held => exact .atDelete rule found cause held
  | marked descriptor id =>
    cases h with
    | atMark rule found held =>
      exact .submitted false rule found (by simp [held, Queue.newRow])
  | undeleted id cause secondCause =>
    cases h with
    | atDelete rule found cause held =>
      exact .stranded _ false rule found cause secondCause held
  | deleted id cause =>
    cases h with
    | atDelete rule found cause held => exact .removed _ false rule found cause (by simp)
  | returned result returned =>
    cases h with
    | unread e returned => exact .unread e true
    | unruled e returned rule found => exact .unruled e true rule found
    | uncreated e returned rule found cause => exact .uncreated e true rule found cause
    | submitted returned rule found held => exact .submitted true rule found held
    | removed e returned rule found cause gone => exact .removed e true rule found cause gone
    | stranded e returned rule found cause secondCause held =>
      exact .stranded e true rule found cause secondCause held

/-- The row under an id that a hand-off was given shows how far the hand-off has come: it is up for
submission once the hand-off succeeded, and undefined while the hand-off is at work on it and after
both marking and deleting it failed. -/
theorem row_cases {q : Queue} {stage : Stage} {deeds : List Deed} {id : Int} {row : Row}
    (h : Tracks q stage deeds) (hid : id ∈ ticketsOf deeds) (hrow : q.find? id = some row) :
    (row.state = .toSubmit ∧ Deed.mark id .toSubmit (.ok ()) ∈ deeds ∧
        ∃ returned, stage = .ended (.ok row.descriptor) returned) ∨
      (row.state = .undefined ∧
        ((∃ descriptor, stage = .mark descriptor id) ∨ ∃ cause, stage = .delete id cause)) ∨
      (row.state = .undefined ∧ (∃ cause, Deed.mark id .toSubmit (.error cause) ∈ deeds) ∧
        ∃ cause, Deed.delete id (.error cause) ∈ deeds) := by
  cases h with
  | @atMark descriptor own rule found held =>
    have hown : own = id := by simpa [ticketsOf, Deed.ticket?, eq_comm] using hid
    subst hown
    obtain rfl : _ = row := Option.some.inj (held.symm.trans hrow)
    exact .inr (.inl ⟨rfl, .inl ⟨descriptor, rfl⟩⟩)
  | @atDelete descriptor own rule found cause held =>
    have hown : own = id := by simpa [ticketsOf, Deed.ticket?, eq_comm] using hid
    subst hown
    obtain rfl : _ = row := Option.some.inj (held.symm.trans hrow)
    exact .inr (.inl ⟨rfl, .inr ⟨cause, rfl⟩⟩)
  | @submitted descriptor own returned rule found held =>
    have hown : own = id := by simpa [ticketsOf, Deed.ticket?, eq_comm] using hid
    subst hown
    obtain rfl : _ = row := Option.some.inj (held.symm.trans hrow)
    exact .inl ⟨rfl, by simp, returned, rfl⟩
  | @removed own e returned rule found cause gone =>
    have hown : own = id := by simpa [ticketsOf, Deed.ticket?, eq_comm] using hid
    subst hown
    cases gone.symm.trans hrow
  | @stranded descriptor own e returned rule found cause secondCause held =>
    have hown : own = id := by simpa [ticketsOf, Deed.ticket?, eq_comm] using hid
    subst hown
    obtain rfl : _ = row := Option.some.inj (held.symm.trans hrow)
    exact .inr (.inr ⟨rfl, ⟨cause, by simp⟩, secondCause, by simp⟩)
  | _ => simp [ticketsOf, Deed.ticket?] at hid

/-- A hand-off that succeeded has its row up for submission. -/
theorem row_of_ok {q : Queue} {descriptor : Descriptor} {returned : Bool} {deeds : List Deed}
    (h : Tracks q (.ended (.ok descriptor) returned) deeds) :
    ∃ id ∈ ticketsOf deeds, descriptor.id = some id ∧
      q.find? id = some ⟨descriptor, .toSubmit⟩ := by
  cases h with
  | @submitted descriptor id returned rule found held =>
    exact ⟨id, by simp [ticketsOf, Deed.ticket?], rfl, held⟩

end Tracks

/-! ## The invariant of all hand-offs -/

namespace Handoffs

variable {ι : Type}

/-- The books of the queue: every hand-off tracks, the ids were handed out one after the other,
and every row stands under an id that some hand-off was given. -/
structure Accounted [DecidableEq ι] (first : Int) (w : Handoffs ι) : Prop where
  tracks : ∀ i, Tracks w.store.queue (w.stages i) (w.deeds i)
  numbered : w.tickets.map Prod.snd = (List.range w.tickets.length).map fun n : Nat => first + n
  next : w.store.queue.next = first + w.tickets.length
  owned : ∀ id row, w.store.queue.find? id = some row → ∃ i, (i, id) ∈ w.tickets

section Tickets

variable [DecidableEq ι]

theorem mem_tickets_iff (w : Handoffs ι) (i : ι) (id : Int) :
    (i, id) ∈ w.tickets ↔ id ∈ ticketsOf (w.deeds i) := by
  simp only [tickets, ticketsOf, deeds, List.mem_filterMap, List.mem_map, List.mem_filter,
    Option.map_eq_some_iff, decide_eq_true_eq]
  constructor
  · rintro ⟨⟨j, deed⟩, hentry, id', hticket, heq⟩
    cases heq
    exact ⟨deed, ⟨(_, deed), ⟨hentry, rfl⟩, rfl⟩, hticket⟩
  · rintro ⟨deed, ⟨⟨j, deed'⟩, ⟨hentry, rfl⟩, rfl⟩, hticket⟩
    exact ⟨(j, deed'), hentry, id, hticket, rfl⟩

theorem deeds_advance (w : Handoffs ι) (i j : ι) :
    (w.advance i).deeds j =
      w.deeds j ++ if j = i then ((w.stages i).step w.store).2.2 else [] := by
  by_cases hji : j = i
  · subst hji
    simp [deeds, advance, List.filter_map, Function.comp_def]
  · have hij : ¬ i = j := fun h => hji h.symm
    simp [deeds, advance, List.filter_map, Function.comp_def, hji, hij]

theorem tickets_advance (w : Handoffs ι) (i : ι) :
    (w.advance i).tickets =
      w.tickets ++ (ticketsOf ((w.stages i).step w.store).2.2).map fun id => (i, id) := by
  simp [tickets, advance, ticketsOf, List.filterMap_map, List.map_filterMap]

end Tickets

namespace Accounted

variable [DecidableEq ι] {first : Int} {w : Handoffs ι}

/-- No id is handed out twice. -/
theorem nodup (h : Accounted first w) : (w.tickets.map Prod.snd).Nodup := by
  rw [h.numbered]
  exact List.nodup_range.map fun m n hmn => by omega

theorem bounds (h : Accounted first w) {i : ι} {id : Int} (hid : (i, id) ∈ w.tickets) :
    first ≤ id ∧ id < w.store.queue.next := by
  have hmem : id ∈ w.tickets.map Prod.snd := List.mem_map.2 ⟨(i, id), hid, rfl⟩
  rw [h.numbered] at hmem
  obtain ⟨n, hn, rfl⟩ := List.mem_map.1 hmem
  have := List.mem_range.1 hn
  rw [h.next]
  omega

/-- An id belongs to one hand-off. -/
theorem unique (h : Accounted first w) {i j : ι} {id : Int} (hi : (i, id) ∈ w.tickets)
    (hj : (j, id) ∈ w.tickets) : i = j :=
  congrArg Prod.fst (List.inj_on_of_nodup_map h.nodup hi hj rfl)

theorem start (first : Int) (rules : RuleBook) (settings : ι → Settings) (lines : ι → String) :
    Accounted first (Handoffs.start first rules settings lines) where
  tracks i := by
    change Tracks (Queue.empty first) (Stage.start (settings i) (lines i)) []
    unfold Stage.start
    split
    · exact .unread _ _
    · exact .atLookup _ _
  numbered := rfl
  next := by simp [Handoffs.start, tickets, Queue.empty]
  owned := by simp [Handoffs.start]

/-- The books stay right when a hand-off gets its turn. -/
theorem advance (h : Accounted first w) (i : ι) : Accounted first (w.advance i) := by
  have hout := step_outcome (w.stages i) w.store
  have hdeeds : ticketsOf ((w.advance i).deeds i) =
      ticketsOf (w.deeds i ++ ((w.stages i).step w.store).2.2) := by
    rw [deeds_advance, if_pos rfl]
  refine ⟨?_, ?_, ?_, ?_⟩
  · intro j
    by_cases hji : j = i
    · subst hji
      rw [deeds_advance, if_pos rfl]
      simpa [Handoffs.advance] using (h.tracks j).step hout
    · rw [deeds_advance, if_neg hji, List.append_nil]
      have hstage : (w.advance i).stages j = w.stages j := by simp [Handoffs.advance, hji]
      rw [hstage]
      -- The ids of the others differ from those that were handed out and from the fresh one.
      refine (h.tracks j).frame fun id hid => (h.tracks i).find?_of_outcome hout ?_
      have hj : (j, id) ∈ w.tickets := (mem_tickets_iff w j id).2 hid
      rw [ticketsOf_append, List.mem_append]
      rintro (hi | hnew)
      · exact hji (h.unique hj ((mem_tickets_iff w i id).2 hi))
      · have hlt := (h.bounds hj).2
        rcases hout.tickets with ⟨hnone, -⟩ | ⟨hone, -⟩
        · simp [hnone] at hnew
        · simp only [hone, List.mem_singleton] at hnew
          omega
  · rw [tickets_advance]
    rcases hout.tickets with ⟨hnone, -⟩ | ⟨hone, -⟩
    · simpa [hnone] using h.numbered
    · simp [hone, List.range_succ, h.numbered, h.next]
  · change ((w.stages i).step w.store).2.1.queue.next = _
    rw [tickets_advance]
    rcases hout.tickets with ⟨hnone, hnext⟩ | ⟨hone, hnext⟩
    · simpa [hnone, hnext] using h.next
    · rw [hnext, h.next, hone]
      simp
      omega
  · intro id row hrow
    by_cases hid : id ∈ ticketsOf ((w.advance i).deeds i)
    · exact ⟨i, (mem_tickets_iff _ i id).2 hid⟩
    · rw [hdeeds] at hid
      have hbefore : w.store.queue.find? id = some row := by
        rw [← (h.tracks i).find?_of_outcome hout hid]
        exact hrow
      obtain ⟨j, hj⟩ := h.owned id row hbefore
      refine ⟨j, ?_⟩
      rw [tickets_advance]
      exact List.mem_append_left _ hj

/-- The books are right in every state that hand-offs can lead to. -/
theorem of_reachable {w' : Handoffs ι} (h : Accounted first w) (hreach : Reachable w w') :
    Accounted first w' := by
  induction hreach with
  | refl => exact h
  | tail _ step ih =>
    cases step with
    | advance i => exact ih.advance i
    | rules rules => exact ⟨ih.tracks, ih.numbered, ih.next, ih.owned⟩
    | faults faults => exact ⟨ih.tracks, ih.numbered, ih.next, ih.owned⟩
    | clock clock => exact ⟨ih.tracks, ih.numbered, ih.next, ih.owned⟩

end Accounted

/-- A hand-off is at work on the row under an id: it has created it and not yet been told that
the row was marked or deleted. -/
def Busy (w : Handoffs ι) (i : ι) (id : Int) : Prop :=
  (∃ descriptor, w.stages i = .mark descriptor id) ∨ ∃ cause, w.stages i = .delete id cause

/-- A hand-off could neither mark nor delete its row. -/
def Stranded [DecidableEq ι] (w : Handoffs ι) (i : ι) (id : Int) : Prop :=
  (∃ cause, Deed.mark id .toSubmit (.error cause) ∈ w.deeds i) ∧
    ∃ cause, Deed.delete id (.error cause) ∈ w.deeds i

/-- The accounts of the queue in every state of every interleaving.  The ids that were handed out
are distinct, and as they follow one another they fit the width of an id as long as so many can.
A hand-off that returned a descriptor has it in a row up for submission; every such row belongs to
exactly one hand-off, which marked it and can only return that descriptor, and to none that
failed; and every undefined row belongs to exactly one hand-off, which is at work on it or could
neither mark nor delete it. -/
theorem rows_accounted [DecidableEq ι] {first : Int} {rules : RuleBook} {settings : ι → Settings}
    {lines : ι → String} {w : Handoffs ι}
    (hreach : Reachable (Handoffs.start first rules settings lines) w) :
    ((w.tickets.map Prod.snd).Nodup ∧
      ∀ i id, (i, id) ∈ w.tickets → first ≤ id ∧ id < first + w.tickets.length) ∧
    (∀ i descriptor, w.stages i = .ended (.ok descriptor) true →
      ∃ id, descriptor.id = some id ∧ (i, id) ∈ w.tickets ∧
        w.store.queue.find? id = some ⟨descriptor, .toSubmit⟩) ∧
    (∀ id row, w.store.queue.find? id = some row → row.state = .toSubmit →
      ∃! i, (i, id) ∈ w.tickets ∧ Deed.mark id .toSubmit (.ok ()) ∈ w.deeds i ∧
        ∃ returned, w.stages i = .ended (.ok row.descriptor) returned) ∧
    (∀ i e returned, w.stages i = .ended (.error e) returned → ∀ id row, (i, id) ∈ w.tickets →
      w.store.queue.find? id = some row → row.state ≠ .toSubmit) ∧
    (∀ id row, w.store.queue.find? id = some row → row.state = .undefined →
      ∃! i, (i, id) ∈ w.tickets ∧ (w.Busy i id ∨ w.Stranded i id)) := by
  have h : Accounted first w := (Accounted.start first rules settings lines).of_reachable hreach
  have hcases (i : ι) (id : Int) (row : Row) (hi : (i, id) ∈ w.tickets)
      (hrow : w.store.queue.find? id = some row) :=
    (h.tracks i).row_cases ((mem_tickets_iff w i id).1 hi) hrow
  refine ⟨⟨h.nodup, fun i id hid => h.next ▸ h.bounds hid⟩, ?_, ?_, ?_, ?_⟩
  · intro i descriptor hend
    have htracks := h.tracks i
    rw [hend] at htracks
    obtain ⟨id, hid, hlabel, hrow⟩ := htracks.row_of_ok
    exact ⟨id, hlabel, (mem_tickets_iff w i id).2 hid, hrow⟩
  · intro id row hrow hstate
    obtain ⟨i, hi⟩ := h.owned id row hrow
    refine ⟨i, ⟨hi, ?_⟩, fun j hj => h.unique hj.1 hi⟩
    rcases hcases i id row hi hrow with ⟨-, hdone⟩ | ⟨hother, -⟩ | ⟨hother, -⟩
    · exact hdone
    · cases hstate.symm.trans hother
    · cases hstate.symm.trans hother
  · intro i e returned hend id row hi hrow hstate
    rcases hcases i id row hi hrow with ⟨-, -, _, hok⟩ | ⟨hother, -⟩ | ⟨hother, -⟩
    · cases hend.symm.trans hok
    · cases hstate.symm.trans hother
    · cases hstate.symm.trans hother
  · intro id row hrow hstate
    obtain ⟨i, hi⟩ := h.owned id row hrow
    refine ⟨i, ⟨hi, ?_⟩, fun j hj => h.unique hj.1 hi⟩
    rcases hcases i id row hi hrow with ⟨hother, -⟩ | ⟨-, hbusy⟩ | ⟨-, hstranded⟩
    · cases hstate.symm.trans hother
    · exact .inl hbusy
    · exact .inr hstranded

/-- Two hand-offs side by side: both create their rows, then `true` can neither mark nor delete its
row while `false` succeeds. -/
def oneStranded : Handoffs Bool :=
  let begun := Handoffs.start 7 ⟨[⟨"push", ⟨false, false, false⟩⟩]⟩ (fun _ => ⟨"gw", 4096⟩)
    fun _ => "-to partner -rule push -file a.dat"
  let created := (((begun.advance true).advance false).advance true).advance false
  let down := some (StoreError.database "down")
  let faulty := { created with store := { created.store with faults := ⟨none, none, down, down⟩ } }
  let failed := (faulty.advance true).advance true
  let repaired := { failed with store := { failed.store with faults := {} } }
  (repaired.advance false).advance false

theorem oneStranded_accounted :
    Reachable (Handoffs.start 7 ⟨[⟨"push", ⟨false, false, false⟩⟩]⟩ (fun _ => ⟨"gw", 4096⟩)
        fun _ => "-to partner -rule push -file a.dat") oneStranded ∧
      oneStranded.tickets = [(true, 7), (false, 8)] ∧
      (∃! i, (i, 8) ∈ oneStranded.tickets ∧
        Deed.mark 8 .toSubmit (.ok ()) ∈ oneStranded.deeds i ∧
        ∃ returned, oneStranded.stages i = .ended
          (.ok ⟨"gw", "partner", "push", ⟨false, false, false⟩, "a.dat", 4096, false, false,
            "noinfo", some 8, 0⟩) returned) ∧
      ∃! i, (i, 7) ∈ oneStranded.tickets ∧
        (oneStranded.Busy i 7 ∨ oneStranded.Stranded i 7) := by
  have hreach : Reachable (Handoffs.start 7 ⟨[⟨"push", ⟨false, false, false⟩⟩]⟩
      (fun _ => ⟨"gw", 4096⟩) fun _ => "-to partner -rule push -file a.dat") oneStranded := by
    unfold oneStranded
    iterate 2 refine .tail ?_ (.advance _ _)
    refine .tail ?_ (.faults _ _)
    iterate 2 refine .tail ?_ (.advance _ _)
    refine .tail ?_ (.faults _ _)
    iterate 4 refine .tail ?_ (.advance _ _)
    exact .refl
  obtain ⟨-, -, hsubmit, -, hundefined⟩ := rows_accounted hreach
  exact ⟨hreach, rfl, hsubmit 8 _ rfl rfl, hundefined 7 _ rfl rfl⟩

end Handoffs

end TransferGateway.Handoff
