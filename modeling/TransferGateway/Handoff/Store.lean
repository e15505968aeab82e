import TransferGateway.Handoff.Queue

/-!
# The store behind a hand-off

Rules and queue together, each of whose calls may fail.  A call that fails leaves the store as
it was.
-/

namespace TransferGateway

/-- The error that each kind of call reports, if it is to fail. -/
structure StoreFaults where
  lookup : Option StoreError := none
  create : Option StoreError := none
  mark : Option StoreError := none
  delete : Option StoreError := none
deriving DecidableEq, Repr, Inhabited

/-- A call on the store. -/
inductive StoreCall where
  | lookup (rule : String)
  | create
  | mark (id : Int) (state : RowState)
  | delete (id : Int)
deriving DecidableEq, Repr, Inhabited

/-- Rules, queue and the faults in force. -/
structure Store where
  rules : RuleBook := {}
  queue : Queue := .empty 1
  faults : StoreFaults := {}
  /-- The time of day, by which transfers are dated. -/
  clock : Int := 0
deriving DecidableEq, Repr, Inhabited

namespace Store

/-- Look up a rule. -/
def lookup (s : Store) (name : String) : Except StoreError (Option TransferRule) :=
  match s.faults.lookup with
  | some e => .error e
  | none => .ok (s.rules.find? name)

/-- What a lookup finds is what the rules say. -/
theorem lookup_eq_ok {s : Store} {name : String} {found : Option TransferRule}
    (h : s.lookup name = .ok found) : found = s.rules.find? name := by
  unfold lookup at h
  cases hfault : s.faults.lookup with
  | some e => simp [hfault] at h
  | none =>
    simp only [hfault] at h
    exact (Except.ok.inj h).symm

/-- Create a row. -/
def create (s : Store) (descriptor : Descriptor) : Except StoreError Int × Store :=
  match s.faults.create with
  | some e => (.error e, s)
  | none =>
    let (id, queue) := s.queue.create descriptor
    (.ok id, { s with queue })

/-- A row is created under the next id, or the store stays as it was. -/
theorem create_cases (s : Store) (descriptor : Descriptor) :
    (∃ e, s.create descriptor = (.error e, s)) ∨
      s.create descriptor =
        (.ok s.queue.next, { s with queue := (s.queue.create descriptor).2 }) := by
  unfold create
  cases s.faults.create with
  | some e => exact .inl ⟨e, rfl⟩
  | none => exact .inr rfl

/-- Mark a row. -/
def mark (s : Store) (id : Int) (state : RowState) : Except StoreError Unit × Store :=
  match s.faults.mark with
  | some e => (.error e, s)
  | none =>
    match s.queue.mark id state with
    | .error e => (.error e, s)
    | .ok queue => (.ok (), { s with queue })

/-- A row that is there gets its state, or the store stays as it was. -/
theorem mark_cases (s : Store) (id : Int) (state : RowState) :
    (∃ e, s.mark id state = (.error e, s)) ∨
      (∃ row, s.queue.find? id = some row ∧
        s.mark id state = (.ok (), { s with queue := s.queue.setState id state })) := by
  unfold mark
  cases s.faults.mark with
  | some e => exact .inl ⟨e, rfl⟩
  | none =>
    unfold Queue.mark
    cases hfound : s.queue.find? id with
    | none => exact .inl ⟨_, rfl⟩
    | some row => exact .inr ⟨row, rfl, rfl⟩

/-- Delete a row. -/
def delete (s : Store) (id : Int) : Except StoreError Unit × Store :=
  match s.faults.delete with
  | some e => (.error e, s)
  | none => (.ok (), { s with queue := s.queue.delete id })

/-- A row is gone, or the store stays as it was. -/
theorem delete_cases (s : Store) (id : Int) :
    (∃ e, s.delete id = (.error e, s)) ∨
      s.delete id = (.ok (), { s with queue := s.queue.delete id }) := by
  unfold delete
  cases s.faults.delete with
  | some e => exact .inl ⟨e, rfl⟩
  | none => exact .inr rfl

end Store

end TransferGateway
