import Mathlib.Data.Set.Card
import Mathlib.Tactic.Common
import TransferGateway.Handoff.QueueCalls

/-!
# The queue as a ledger

What the queue answers can be read off the history of its calls alone.  An id stands for the
transfer that it was created for, in the state that it was last put into, until it is deleted; it
never stands for another one.
-/

namespace TransferGateway.Queue

/-- Calls with their answers, in order. -/
abbrev History := List (QueueCall × QueueAnswer)

/-- The id that was handed out. -/
def ticket? : QueueCall × QueueAnswer → Option Int
  | (.create _, .ticket id) => some id
  | _ => none

/-- The state that an id was put into. -/
def mark? (id : Int) : QueueCall × QueueAnswer → Option RowState
  | (.mark other state, .done) => if other = id then some state else none
  | _ => none

/-- The ids that were handed out, in order. -/
def tickets (history : History) : List Int := history.filterMap ticket?

/-- The states that an id was put into, in order. -/
def marks (id : Int) (history : History) : List RowState := history.filterMap (mark? id)

/-- What a history says to stand under an id. -/
inductive Stands (history : History) (id : Int) : Option Row → Prop where
  | never (hnone : id ∉ tickets history) : Stands history id none
  | deleted {earlier later : History} {descriptor : Descriptor}
      (hsplit : history = earlier ++ (.create descriptor, .ticket id) :: later)
      (hgone : (.delete id, .done) ∈ later) : Stands history id none
  | kept {earlier later : History} {descriptor : Descriptor} {state : RowState}
      (hsplit : history = earlier ++ (.create descriptor, .ticket id) :: later)
      (hkept : (.delete id, .done) ∉ later)
      (hstate : (marks id later).getLast?.getD .undefined = state) :
      Stands history id (some ⟨{ descriptor with id := some id }, state⟩)

/-- The right answers to a call after a history. -/
inductive Answers (history : History) : QueueCall → QueueAnswer → Prop where
  | created {descriptor : Descriptor} {id : Int} (hfresh : ∀ old ∈ tickets history, old < id) :
      Answers history (.create descriptor) (.ticket id)
  | marked {id : Int} {state : RowState} {row : Row} (h : Stands history id (some row)) :
      Answers history (.mark id state) .done
  | unmarked {id : Int} {state : RowState} (h : Stands history id none) :
      Answers history (.mark id state) (.refused (.notFound ("Queued transfer " ++ toString id)))
  | deleted {id : Int} : Answers history (.delete id) .done
  | found {id : Int} {row? : Option Row} (h : Stands history id row?) :
      Answers history (.find id) (.row row?)

variable {first : Int} {history : History} {entry : QueueCall × QueueAnswer} {q : Queue} {id : Int}
  {row? : Option Row}

@[simp] theorem tickets_append (earlier later : History) :
    tickets (earlier ++ later) = tickets earlier ++ tickets later :=
  List.filterMap_append

@[simp] theorem marks_append (id : Int) (earlier later : History) :
    marks id (earlier ++ later) = marks id earlier ++ marks id later :=
  List.filterMap_append

theorem tickets_cons_create (descriptor : Descriptor) (id : Int) (later : History) :
    tickets ((.create descriptor, .ticket id) :: later) = id :: tickets later := rfl

theorem split_concat {earlier later : History} {created : QueueCall × QueueAnswer}
    (hsplit : history = earlier ++ created :: later) :
    history ++ [entry] = earlier ++ created :: (later ++ [entry]) := by
  rw [hsplit, List.append_assoc, List.cons_append]

/-! ## What an entry changes -/

namespace Stands

/-- An entry that neither hands the id out nor deletes or marks it changes nothing. -/
theorem keep (h : Stands history id row?) (hticket : ticket? entry ≠ some id)
    (hdelete : entry ≠ (.delete id, .done)) (hmark : mark? id entry = none) :
    Stands (history ++ [entry]) id row? := by
  cases h with
  | never hnone =>
    refine .never ?_
    rw [tickets_append, List.mem_append]
    rintro (hold | hnew)
    · exact hnone hold
    · exact hticket (by simpa [tickets] using hnew)
  | deleted hsplit hgone => exact .deleted (split_concat hsplit) (List.mem_append_left _ hgone)
  | kept hsplit hkept hstate =>
    refine .kept (split_concat hsplit) ?_ ?_
    · rw [List.mem_append, List.mem_singleton]
      rintro (hold | hnew)
      · exact hkept hold
      · exact hdelete hnew.symm
    · have hnew : marks id [entry] = [] := by simp [marks, hmark]
      rw [marks_append, hnew, List.append_nil]
      exact hstate

theorem create (history : History) (descriptor : Descriptor) (id : Int) :
    Stands (history ++ [(.create descriptor, .ticket id)]) id (some (newRow descriptor id)) :=
  .kept rfl List.not_mem_nil rfl

theorem mark {row : Row} (h : Stands history id (some row)) (state : RowState) :
    Stands (history ++ [(.mark id state, .done)]) id (some { row with state }) := by
  cases h with
  | kept hsplit hkept hstate =>
    have hlast : marks id [(.mark id state, .done)] = [state] := by simp [marks, mark?]
    refine .kept (split_concat hsplit) ?_ ?_
    · simpa using hkept
    · rw [marks_append, hlast, List.getLast?_concat, Option.getD_some]

theorem delete (h : Stands history id row?) :
    Stands (history ++ [(.delete id, .done)]) id none := by
  cases h with
  | never hnone =>
    refine .never ?_
    simpa [tickets, ticket?] using hnone
  | deleted hsplit _ => exact .deleted (split_concat hsplit) (by simp)
  | kept hsplit _ _ => exact .deleted (split_concat hsplit) (by simp)

end Stands

/-! ## What a history says is one thing -/

theorem mem_tickets_of_split {earlier later : History} {descriptor : Descriptor}
    (hsplit : history = earlier ++ (.create descriptor, .ticket id) :: later) :
    id ∈ tickets history := by
  rw [hsplit, tickets_append, tickets_cons_create]
  exact List.mem_append_right _ List.mem_cons_self

theorem not_mem_tickets_of_split (hnodup : (tickets history).Nodup) {earlier later : History}
    {descriptor : Descriptor}
    (hsplit : history = earlier ++ (.create descriptor, .ticket id) :: later) :
    id ∉ tickets later := by
  rw [hsplit, tickets_append, tickets_cons_create] at hnodup
  have hcons := (List.nodup_append.1 hnodup).2.1
  exact (List.nodup_cons.1 hcons).1

/-- An id that was handed out once was created for one transfer. -/
theorem split_unique (hnodup : (tickets history).Nodup) {earlier later earlier' later' : History}
    {descriptor descriptor' : Descriptor}
    (h : history = earlier ++ (.create descriptor, .ticket id) :: later)
    (h' : history = earlier' ++ (.create descriptor', .ticket id) :: later') :
    descriptor = descriptor' ∧ later = later' := by
  -- If one of the two stood behind the other, the id would have been handed out once more there.
  rcases List.append_eq_append_iff.1 (h.symm.trans h') with
    ⟨between, -, hrest⟩ | ⟨between, -, hrest⟩
  · cases between with
    | nil => simpa using hrest
    | cons created rest =>
      obtain ⟨-, hlater⟩ := List.cons.inj hrest
      exact absurd (mem_tickets_of_split hlater) (not_mem_tickets_of_split hnodup h)
  · cases between with
    | nil => simpa [eq_comm] using hrest
    | cons created rest =>
      obtain ⟨-, hlater⟩ := List.cons.inj hrest
      exact absurd (mem_tickets_of_split hlater) (not_mem_tickets_of_split hnodup h')

namespace Stands

theorem unique (hnodup : (tickets history).Nodup) {other? : Option Row}
    (h : Stands history id row?) (h' : Stands history id other?) : row? = other? := by
  cases h with
  | never hnone =>
    cases h' with
    | never _ => rfl
    | deleted _ _ => rfl
    | kept hsplit _ _ => exact absurd (mem_tickets_of_split hsplit) hnone
  | deleted hsplit hgone =>
    cases h' with
    | never _ => rfl
    | deleted _ _ => rfl
    | kept hsplit' hkept _ =>
      obtain ⟨-, rfl⟩ := split_unique hnodup hsplit hsplit'
      exact absurd hgone hkept
  | kept hsplit hkept hstate =>
    cases h' with
    | never hnone => exact absurd (mem_tickets_of_split hsplit) hnone
    | deleted hsplit' hgone =>
      obtain ⟨-, rfl⟩ := split_unique hnodup hsplit hsplit'
      exact absurd hgone hkept
    | kept hsplit' _ hstate' =>
      obtain ⟨rfl, rfl⟩ := split_unique hnodup hsplit hsplit'
      rw [← hstate, ← hstate']

end Stands

/-! ## One call -/

theorem find?_eq_none_iff : q.find? id = none ↔ ∀ entry ∈ q.rows, entry.1 ≠ id := by
  simp [find?]

theorem delete_eq_self (h : q.find? id = none) : q.delete id = q := by
  have hrows : q.rows.filter (fun entry => entry.1 != id) = q.rows := by
    rw [List.filter_eq_self]
    intro entry hentry
    exact bne_iff_ne.2 (find?_eq_none_iff.1 h entry hentry)
  cases q
  simpa [delete] using hrows

theorem answer_mark_of_find?_eq_none (h : q.find? id = none) (state : RowState) :
    q.answer (.mark id state) =
      (.refused (.notFound ("Queued transfer " ++ toString id)), q) := by
  simp only [answer, Queue.mark, h]

theorem answer_mark_of_find?_eq_some {row : Row} (h : q.find? id = some row) (state : RowState) :
    q.answer (.mark id state) = (.done, q.setState id state) := by
  simp only [answer, Queue.mark, h]

/-- Marking and deleting a row leave all others alone. -/
theorem find?_answer_of_ne {call : QueueCall} {state : RowState}
    (hcall : call = .mark id state ∨ call = .delete id) {other : Int} (hother : other ≠ id) :
    (q.answer call).2.find? other = q.find? other := by
  rcases hcall with rfl | rfl
  · cases hfound : q.find? id with
    | none => rw [answer_mark_of_find?_eq_none hfound]
    | some row => rw [answer_mark_of_find?_eq_some hfound, find?_setState, if_neg hother]
  · rw [answer, find?_delete, if_neg hother]

theorem exists_find?_iff (q : Queue) (id : Int) :
    (∃ row, q.find? id = some row) ↔ id ∈ q.rows.map Prod.fst := by
  rw [← Option.ne_none_iff_exists', ne_eq, find?_eq_none_iff]
  simp

/-! ## Histories -/

/-- The books of a queue: ids are handed out one after the other, and every row is what the history
says. -/
structure Books (first : Int) (history : History) (q : Queue) : Prop where
  numbered : tickets history = (List.range (tickets history).length).map fun n : Nat => first + n
  next_eq : q.next = first + (tickets history).length
  stands : ∀ id, Stands history id (q.find? id)

namespace Books

theorem start (first : Int) : Books first [] (empty first) where
  numbered := rfl
  next_eq := (Int.add_zero first).symm
  stands _ := .never List.not_mem_nil

theorem bounds (h : Books first history q) {old : Int} (hold : old ∈ tickets history) :
    first ≤ old ∧ old < q.next := by
  rw [h.numbered] at hold
  obtain ⟨n, hn, rfl⟩ := List.mem_map.1 hold
  have hlt := List.mem_range.1 hn
  have hnext := h.next_eq
  omega

theorem nodup (h : Books first history q) : (tickets history).Nodup := by
  rw [h.numbered]
  exact List.nodup_range.map fun m n hmn => by omega

/-- Every call is answered as the history says. -/
theorem answers (h : Books first history q) (call : QueueCall) :
    Answers history call (q.answer call).1 := by
  cases call with
  | create descriptor => exact .created fun old hold => (h.bounds hold).2
  | mark id state =>
    have hid := h.stands id
    cases hfound : q.find? id with
    | none =>
      rw [answer_mark_of_find?_eq_none hfound]
      exact .unmarked (hfound ▸ hid)
    | some row =>
      rw [answer_mark_of_find?_eq_some hfound]
      exact .marked (hfound ▸ hid)
  | delete id => exact .deleted
  | find id => exact .found (h.stands id)

/-- An entry that hands out no id, on a queue whose next id stays the same. -/
theorem still (h : Books first history q) {next : Queue} (hticket : ticket? entry = none)
    (hnext : next.next = q.next) (hstands : ∀ id, Stands (history ++ [entry]) id (next.find? id)) :
    Books first (history ++ [entry]) next := by
  have htickets : tickets (history ++ [entry]) = tickets history := by
    have hnew : tickets [entry] = [] := by simp [tickets, hticket]
    rw [tickets_append, hnew, List.append_nil]
  refine ⟨?_, ?_, hstands⟩
  · rw [htickets]
    exact h.numbered
  · rw [htickets, hnext]
    exact h.next_eq

/-- An entry that hands out the next id. -/
theorem create (h : Books first history q) (descriptor : Descriptor) :
    Books first (history ++ [(.create descriptor, .ticket q.next)]) (q.create descriptor).2 := by
  have htickets : tickets (history ++ [(.create descriptor, .ticket q.next)]) =
      tickets history ++ [q.next] := by
    rw [tickets_append]
    rfl
  have hlength : (tickets history ++ [q.next]).length = (tickets history).length + 1 := by
    rw [List.length_append, List.length_singleton]
  refine ⟨?_, ?_, ?_⟩
  · rw [htickets, hlength, List.range_succ, List.map_append, ← h.numbered, h.next_eq]
    rfl
  · have hnext : (q.create descriptor).2.next = q.next + 1 := rfl
    rw [htickets, hlength, hnext, h.next_eq]
    omega
  · intro id
    rw [find?_create]
    by_cases hid : id = q.next
    · rw [if_pos hid, hid]
      exact .create history descriptor q.next
    · rw [if_neg hid]
      refine (h.stands id).keep ?_ (by simp) rfl
      simpa [ticket?] using fun heq => hid heq.symm

/-- The books stay right whatever is called. -/
theorem answer (h : Books first history q) (call : QueueCall) :
    Books first (history ++ [(call, (q.answer call).1)]) (q.answer call).2 := by
  cases call with
  | create descriptor => exact h.create descriptor
  | mark id state =>
    cases hfound : q.find? id with
    | none =>
      rw [answer_mark_of_find?_eq_none hfound]
      exact h.still rfl rfl fun other => (h.stands other).keep (by simp [ticket?]) (by simp) rfl
    | some row =>
      rw [answer_mark_of_find?_eq_some hfound]
      refine h.still rfl rfl fun other => ?_
      have hother := h.stands other
      rw [find?_setState]
      by_cases hid : other = id
      · subst hid
        rw [if_pos rfl, hfound]
        rw [hfound] at hother
        exact hother.mark state
      · rw [if_neg hid]
        refine hother.keep (by simp [ticket?]) (by simp) ?_
        simpa [mark?] using fun heq => hid heq.symm
  | delete id =>
    refine h.still rfl rfl fun other => ?_
    have hother := h.stands other
    change Stands (history ++ [(.delete id, .done)]) other ((q.delete id).find? other)
    rw [find?_delete]
    by_cases hid : other = id
    · subst hid
      rw [if_pos rfl]
      exact hother.delete
    · rw [if_neg hid]
      exact hother.keep (by simp [ticket?]) (by simpa using fun heq => hid heq.symm) rfl
  | find id =>
    exact h.still rfl rfl fun other => (h.stands other).keep (by simp [ticket?]) (by simp) rfl

/-- A row stands under an id exactly if the history says so. -/
theorem find?_eq_iff (h : Books first history q) (id : Int) (row? : Option Row) :
    q.find? id = row? ↔ Stands history id row? := by
  constructor
  · rintro rfl
    exact h.stands id
  · exact (h.stands id).unique h.nodup

/-- There are as many rows as ids that stand for something. -/
theorem size_eq (h : Books first history q) :
    q.size = {id | ∃ row, Stands history id (some row)}.ncard := by
  have hids : {id | ∃ row, Stands history id (some row)} = ↑(q.rows.map Prod.fst).toFinset := by
    ext id
    simp only [← h.find?_eq_iff, Set.mem_ofPred_eq, exists_find?_iff, List.coe_toFinset]
  rw [hids, Set.ncard_coe_finset, List.toFinset_card_of_nodup q.distinct, List.length_map, size]

end Books

theorem run_append (q : Queue) (earlier later : List QueueCall) :
    q.run (earlier ++ later) =
      ((q.run earlier).1 ++ ((q.run earlier).2.run later).1, ((q.run earlier).2.run later).2) := by
  induction earlier generalizing q with
  | nil => rfl
  | cons call rest ih => simp [run, ih]

/-- The books are right after every sequence of calls. -/
theorem books_run (first : Int) (calls : List QueueCall) :
    Books first ((empty first).run calls).1 ((empty first).run calls).2 := by
  induction calls using List.reverseRecOn with
  | nil => exact .start first
  | append_singleton calls call ih =>
    rw [run_append]
    exact ih.answer call

/-- After any calls on a queue that was empty, the next call is answered as their history says.  The
ids that were handed out follow one another, so they fit the width of an id as long as so many can.
Every row carries the id it stands under, which is below the next one; the rows are those that the
history says, and as many.  Marking or deleting a row leaves all others alone, and changes nothing
if the row is not there. -/
theorem ledger_exact (first : Int) (calls : List QueueCall) (call : QueueCall) :
    let past := (empty first).run calls
    let next := (empty first).run (calls ++ [call])
    (∃ answer, next.1 = past.1 ++ [(call, answer)] ∧ Answers past.1 call answer) ∧
    (past.2.next = first + (tickets past.1).length ∧
      ∀ id ∈ tickets past.1, first ≤ id ∧ id < past.2.next) ∧
    (∀ id row, past.2.find? id = some row → row.descriptor.id = some id ∧ id < past.2.next) ∧
    (∀ id row?, past.2.find? id = row? ↔ Stands past.1 id row?) ∧
    past.2.size = {id | ∃ row, Stands past.1 id (some row)}.ncard ∧
    ∀ id state, call = .mark id state ∨ call = .delete id →
      (∀ other, other ≠ id → next.2.find? other = past.2.find? other) ∧
      (past.2.find? id = none → next.2 = past.2) := by
  intro past next
  have hbooks : Books first past.1 past.2 := books_run first calls
  have hnext : next = (past.1 ++ [(call, (past.2.answer call).1)], (past.2.answer call).2) :=
    run_append (empty first) calls [call]
  have hanswer : next.1 = past.1 ++ [(call, (past.2.answer call).1)] := by rw [hnext]
  have hqueue : next.2 = (past.2.answer call).2 := by rw [hnext]
  refine ⟨⟨_, hanswer, hbooks.answers call⟩, ⟨hbooks.next_eq, fun id hid => hbooks.bounds hid⟩,
    ?_, hbooks.find?_eq_iff, hbooks.size_eq, ?_⟩
  · intro id row hrow
    exact ⟨id_of_find? hrow, lt_next_of_find? hrow⟩
  · intro id state hcall
    rw [hqueue]
    refine ⟨fun other hother => find?_answer_of_ne hcall hother, fun hnone => ?_⟩
    rcases hcall with rfl | rfl
    · rw [answer_mark_of_find?_eq_none hnone]
    · exact delete_eq_self hnone

end TransferGateway.Queue
