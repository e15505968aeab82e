import TransferGateway.Handoff.Rule

/-!
# The queue of transfers

Transfers wait in rows for a scheduler.  The queue hands out a fresh id for every row and never
reuses one.  A row is created undefined, out of the scheduler's sight, and is then marked.
-/

namespace TransferGateway

/-- A transfer as it is queued. -/
structure Descriptor where
  requester : String
  host : String
  rule : String
  mode : TransferMode
  file : String
  blockSize : Nat
  checksum : Bool
  quiet : Bool
  info : String
  /-- The id of its row, once it has one. -/
  id : Option Int := none
  /-- The time of day at which it was prepared, in nanoseconds. -/
  createdAt : Int := 0
deriving DecidableEq, Repr, Inhabited

/-- Whether the scheduler may pick up a row. -/
inductive RowState where
  | undefined
  | toSubmit
deriving DecidableEq, Repr, Inhabited

namespace RowState

/-- The name of a state. -/
def name : RowState → String
  | .undefined => "undefined"
  | .toSubmit => "to_submit"

/-- The state with the given name. -/
def ofName? (name : String) : Option RowState :=
  [RowState.undefined, .toSubmit].find? fun state => state.name == name

end RowState

/-- A row of the queue. -/
structure Row where
  descriptor : Descriptor
  state : RowState
deriving DecidableEq, Repr, Inhabited

/-- The rows under their ids, and the id that the next row gets.  Every row stands under an id of
its own, which it carries and which has been handed out before. -/
structure Queue where
  rows : List (Int × Row)
  next : Int
  distinct : (rows.map Prod.fst).Nodup
  below : ∀ entry ∈ rows, entry.1 < next
  labelled : ∀ entry ∈ rows, entry.2.descriptor.id = some entry.1
deriving DecidableEq, Repr

namespace Queue

/-- An empty queue whose first row gets the given id. -/
def empty (first : Int) : Queue where
  rows := []
  next := first
  distinct := List.nodup_nil
  below := fun _ h => absurd h List.not_mem_nil
  labelled := fun _ h => absurd h List.not_mem_nil

instance : Inhabited Queue := ⟨empty 1⟩

/-- The row under an id. -/
def find? (q : Queue) (id : Int) : Option Row :=
  (q.rows.find? fun entry => entry.1 == id).map Prod.snd

theorem mem_of_find? {q : Queue} {id : Int} {row : Row} (h : q.find? id = some row) :
    (id, row) ∈ q.rows := by
  obtain ⟨entry, hentry, rfl⟩ := Option.map_eq_some_iff.1 h
  have hid : entry.1 = id := by simpa using List.find?_some hentry
  rw [← hid]
  exact List.mem_of_find?_eq_some hentry

/-- A row carries the id it stands under. -/
theorem id_of_find? {q : Queue} {id : Int} {row : Row} (h : q.find? id = some row) :
    row.descriptor.id = some id :=
  q.labelled _ (mem_of_find? h)

/-- Rows stand under ids that were handed out. -/
theorem lt_next_of_find? {q : Queue} {id : Int} {row : Row} (h : q.find? id = some row) :
    id < q.next :=
  q.below _ (mem_of_find? h)

@[simp] theorem find?_empty (first id : Int) : (empty first).find? id = none := rfl

/-- The number of rows. -/
def size (q : Queue) : Nat := q.rows.length

/-- The row that a transfer gets under an id. -/
def newRow (descriptor : Descriptor) (id : Int) : Row :=
  ⟨{ descriptor with id := some id }, .undefined⟩

/-- Add an undefined row under a fresh id. -/
def create (q : Queue) (descriptor : Descriptor) : Int × Queue :=
  (q.next,
    { rows := q.rows ++ [(q.next, newRow descriptor q.next)]
      next := q.next + 1
      distinct := by
        rw [List.map_append, List.nodup_append]
        refine ⟨q.distinct, by simp, ?_⟩
        intro a ha b hb heq
        obtain ⟨entry, hentry, rfl⟩ := List.mem_map.1 ha
        have hb : b = q.next := by simpa using hb
        have := q.below entry hentry
        omega
      below := by
        intro entry hentry
        rcases List.mem_append.1 hentry with h | h
        · have := q.below entry h
          omega
        · have : entry = (q.next, newRow descriptor q.next) := by simpa using h
          subst this
          exact Int.lt_succ q.next
      labelled := by
        intro entry hentry
        rcases List.mem_append.1 hentry with h | h
        · exact q.labelled entry h
        · have : entry = (q.next, newRow descriptor q.next) := by simpa using h
          subst this
          rfl })

/-- The new row stands under the fresh id, and every other row stays where it was. -/
@[simp] theorem find?_create (q : Queue) (descriptor : Descriptor) (id : Int) :
    (q.create descriptor).2.find? id =
      if id = q.next then some (newRow descriptor q.next) else q.find? id := by
  by_cases hid : id = q.next
  · subst hid
    have hnone : (q.rows.find? fun entry => entry.1 == q.next) = none := by
      rw [List.find?_eq_none]
      intro entry hentry
      have := q.below entry hentry
      have : entry.1 ≠ q.next := by omega
      simpa using this
    simp [create, find?, List.find?_append, hnone]
  · have hne : (q.next == id) = false := by simpa using fun h => hid h.symm
    simp [create, find?, List.find?_append, hid, hne]

/-- Put an entry into the given state if it stands under the id. -/
def setEntry (id : Int) (state : RowState) (entry : Int × Row) : Int × Row :=
  if entry.1 = id then (entry.1, { entry.2 with state }) else entry

theorem setEntry_fst (id : Int) (state : RowState) (entry : Int × Row) :
    (setEntry id state entry).1 = entry.1 := by
  unfold setEntry
  split <;> rfl

theorem setEntry_descriptor (id : Int) (state : RowState) (entry : Int × Row) :
    (setEntry id state entry).2.descriptor = entry.2.descriptor := by
  unfold setEntry
  split <;> rfl

/-- Put the row under an id into the given state. -/
def setState (q : Queue) (id : Int) (state : RowState) : Queue where
  rows := q.rows.map (setEntry id state)
  next := q.next
  distinct := by
    have h : (q.rows.map (setEntry id state)).map Prod.fst = q.rows.map Prod.fst := by
      rw [List.map_map]
      exact List.map_congr_left fun entry _ => setEntry_fst id state entry
    rw [h]
    exact q.distinct
  below := by
    intro entry hentry
    obtain ⟨old, hold, rfl⟩ := List.mem_map.1 hentry
    rw [setEntry_fst]
    exact q.below old hold
  labelled := by
    intro entry hentry
    obtain ⟨old, hold, rfl⟩ := List.mem_map.1 hentry
    rw [setEntry_descriptor, setEntry_fst]
    exact q.labelled old hold

/-- Only the state of the row under the id changes. -/
@[simp] theorem find?_setState (q : Queue) (id other : Int) (state : RowState) :
    (q.setState id state).find? other =
      if other = id then (q.find? other).map fun row => { row with state } else q.find? other := by
  have hkey : (fun entry : Int × Row => (setEntry id state entry).1 == other) =
      fun entry => entry.1 == other := by
    funext entry
    rw [setEntry_fst]
  simp only [setState, find?, List.find?_map, Function.comp_def, hkey, Option.map_map]
  cases hfound : q.rows.find? fun entry => entry.1 == other with
  | none => simp
  | some entry =>
    have hentry : entry.1 = other := by simpa using List.find?_some hfound
    by_cases hid : other = id <;> simp [setEntry, hentry, hid]

/-- Change the state of a row that exists. -/
def mark (q : Queue) (id : Int) (state : RowState) : Except StoreError Queue :=
  match q.find? id with
  | some _ => .ok (q.setState id state)
  | none => .error (.notFound ("Queued transfer " ++ toString id))

/-- Remove the row under an id, if there is one. -/
def delete (q : Queue) (id : Int) : Queue where
  rows := q.rows.filter fun entry => entry.1 != id
  next := q.next
  distinct := q.distinct.sublist (List.filter_sublist.map Prod.fst)
  below := fun entry hentry => q.below entry (List.mem_filter.1 hentry).1
  labelled := fun entry hentry => q.labelled entry (List.mem_filter.1 hentry).1

/-- Only the row under the id is gone. -/
@[simp] theorem find?_delete (q : Queue) (id other : Int) :
    (q.delete id).find? other = if other = id then none else q.find? other := by
  simp only [delete, find?, List.find?_filter]
  by_cases hid : other = id
  · subst hid
    simp
  · rw [if_neg hid]
    congr 2
    funext entry
    by_cases hentry : entry.1 = other <;> simp [hentry, hid]

end Queue

end TransferGateway
