import TransferGateway.Handoff.Prepare
import TransferGateway.Proofs.Handoff.Grammar

/-!
# What preparing a hand-off does

The one case for each point where a preparation ends: the line cannot be read, there is no rule,
no row is created, the row is withdrawn, or the transfer is queued.
-/

namespace TransferGateway.Handoff

/-- The queue with a row of a transfer that is up for submission. -/
def queued (queue : Queue) (descriptor : Descriptor) : Queue :=
  (queue.create descriptor).2.setState queue.next .toSubmit

/-- A row that has just been created can be marked. -/
theorem mark_created (queue : Queue) (descriptor : Descriptor) :
    (queue.create descriptor).2.mark queue.next .toSubmit = .ok (queued queue descriptor) := by
  simp [Queue.mark, queued]

theorem rows_queued (queue : Queue) (descriptor : Descriptor) :
    (queued queue descriptor).rows =
      queue.rows ++ [(queue.next, ⟨{ descriptor with id := some queue.next }, .toSubmit⟩)] := by
  have hold : queue.rows.map (Queue.setEntry queue.next .toSubmit) = queue.rows := by
    conv_rhs => rw [← List.map_id queue.rows]
    refine List.map_congr_left fun row hrow => ?_
    have hne : row.1 ≠ queue.next := (queue.below row hrow).ne
    simp [Queue.setEntry, hne]
  simp [queued, Queue.setState, Queue.create, hold, Queue.setEntry, Queue.newRow]

theorem find?_queued (queue : Queue) (descriptor : Descriptor) :
    (queued queue descriptor).find? queue.next =
      some ⟨{ descriptor with id := some queue.next }, .toSubmit⟩ := by
  simp [queued, Queue.newRow]

theorem find?_queued_of_ne {queue : Queue} {descriptor : Descriptor} {id : Int}
    (h : id ≠ queue.next) : (queued queue descriptor).find? id = queue.find? id := by
  simp [queued, h]

/-- The queue after a row of a transfer was created and deleted again. -/
def removed (queue : Queue) (descriptor : Descriptor) : Queue :=
  (queue.create descriptor).2.delete queue.next

theorem rows_removed (queue : Queue) (descriptor : Descriptor) :
    (removed queue descriptor).rows = queue.rows := by
  have hold : queue.rows.filter (fun row => row.1 != queue.next) = queue.rows := by
    refine List.filter_eq_self.2 fun row hrow => ?_
    have hne : row.1 ≠ queue.next := (queue.below row hrow).ne
    simpa using hne
  simp [removed, Queue.delete, Queue.create, hold]

theorem find?_removed (queue : Queue) (descriptor : Descriptor) (id : Int) :
    (removed queue descriptor).find? id = queue.find? id := by
  rw [Queue.find?, rows_removed, Queue.find?]

/-- Everything that preparing a hand-off can do. -/
inductive Preparation (settings : Settings) (line : String) (store : Store) : Prepared → Prop where
  | unread (e : HandoffError)
      (hline : Request.parse line settings.defaultBlockSize = .error e) :
      Preparation settings line store ⟨.error e, store, []⟩
  | unsearched (request : Request) (cause : StoreError)
      (hline : Request.parse line settings.defaultBlockSize = .ok request)
      (hrule : store.lookup request.rule = .error cause) :
      Preparation settings line store
        ⟨.error (.ruleLookup cause), store, [.lookup request.rule]⟩
  | unruled (request : Request)
      (hline : Request.parse line settings.defaultBlockSize = .ok request)
      (hrule : store.lookup request.rule = .ok none) :
      Preparation settings line store
        ⟨.error (.ruleNotFound request.rule), store, [.lookup request.rule]⟩
  | uncreated (request : Request) (cause : StoreError)
      (hline : Request.parse line settings.defaultBlockSize = .ok request)
      (hcreate : store.faults.create = some cause) :
      Preparation settings line store
        ⟨.error (.persistence cause), store, [.lookup request.rule, .create]⟩
  | removed (request : Request) (rule : TransferRule) (cause : StoreError)
      (hline : Request.parse line settings.defaultBlockSize = .ok request)
      (hmark : store.faults.mark = some cause) (hdelete : store.faults.delete = none) :
      Preparation settings line store
        ⟨.error (.persistence cause),
          { store with queue := removed store.queue (settings.descriptor request rule store.clock) },
          [.lookup request.rule, .create, .mark store.queue.next .toSubmit,
            .delete store.queue.next]⟩
  | stranded (request : Request) (rule : TransferRule) (cause cause' : StoreError)
      (hline : Request.parse line settings.defaultBlockSize = .ok request)
      (hmark : store.faults.mark = some cause) (hdelete : store.faults.delete = some cause') :
      Preparation settings line store
        ⟨.error (.persistence cause),
          { store with queue := (store.queue.create (settings.descriptor request rule store.clock)).2 },
          [.lookup request.rule, .create, .mark store.queue.next .toSubmit,
            .delete store.queue.next]⟩
  | queued (request : Request) (rule : TransferRule)
      (hline : Request.parse line settings.defaultBlockSize = .ok request)
      (hrule : store.lookup request.rule = .ok (some rule)) :
      Preparation settings line store
        ⟨.ok { settings.descriptor request rule store.clock with id := some store.queue.next },
          { store with queue := queued store.queue (settings.descriptor request rule store.clock) },
          [.lookup request.rule, .create, .mark store.queue.next .toSubmit]⟩

theorem preparation (settings : Settings) (line : String) (store : Store) :
    Preparation settings line store (prepare settings line store) := by
  unfold prepare
  cases hline : Request.parse line settings.defaultBlockSize with
  | error e => exact .unread e hline
  | ok request =>
    simp only [fulfil]
    cases hrule : store.lookup request.rule with
    | error cause => exact .unsearched request cause hline hrule
    | ok rule? =>
      cases rule? with
      | none => exact .unruled request hline hrule
      | some rule =>
        simp only [enqueue, Store.create]
        cases hcreate : store.faults.create with
        | some cause => exact .uncreated request cause hline hcreate
        | none =>
          simp only [submit, Store.mark]
          cases hmark : store.faults.mark with
          | some cause =>
            simp only [Store.delete]
            cases hdelete : store.faults.delete with
            | some cause' => exact .stranded request rule cause cause' hline hmark hdelete
            | none => exact .removed request rule cause hline hmark hdelete
          | none =>
            have hqueued := mark_created store.queue (settings.descriptor request rule store.clock)
            have hnext : (store.queue.create (settings.descriptor request rule store.clock)).1 =
              store.queue.next := rfl
            simp only [hnext, hqueued]
            exact .queued request rule hline hrule

/-- A row that some calls have left behind: it was created, and could be neither marked nor
deleted. -/
structure Stranded (store : Store) (calls : List StoreCall) (id : Int) (row : Row) : Prop where
  fresh : id = store.queue.next
  hidden : row.state = .undefined
  called : ∃ rule, calls = [.lookup rule, .create, .mark id .toSubmit, .delete id]
  unmarked : store.faults.mark.isSome
  undeleted : store.faults.delete.isSome

namespace Preparation

variable {settings : Settings} {line : String} {store : Store} {prepared : Prepared}
  {e : HandoffError} {id : Int} {row : Row}

/-- The rows that were there before stay as they are. -/
theorem keeps (h : Preparation settings line store prepared)
    (hrow : store.queue.find? id = some row) : prepared.store.queue.find? id = some row := by
  have hne : id ≠ store.queue.next := by
    have hbelow := Queue.lt_next_of_find? hrow
    omega
  cases h with
  | removed => rw [find?_removed, hrow]
  | stranded => simp [hne, hrow]
  | queued => rw [find?_queued_of_ne hne, hrow]
  | _ => exact hrow

/-- A preparation that fails leaves a row of its own only when it could neither mark nor delete
it. -/
theorem leaves (h : Preparation settings line store prepared) (hresult : prepared.result = .error e)
    (hrow : prepared.store.queue.find? id = some row) :
    store.queue.find? id = some row ∨ Stranded store prepared.calls id row := by
  cases h with
  | removed =>
    rw [find?_removed] at hrow
    exact .inl hrow
  | stranded _ _ _ _ _ hmark hdelete =>
    by_cases hid : id = store.queue.next
    · subst hid
      obtain rfl : Queue.newRow _ store.queue.next = row := by simpa using hrow
      exact .inr ⟨rfl, rfl, ⟨_, rfl⟩, by simp [hmark], by simp [hdelete]⟩
    · exact .inl (by simpa [hid] using hrow)
  | queued => cases hresult
  | _ => exact .inl hrow

/-- A line that cannot be read is never brought before the store. -/
theorem untouched (h : Preparation settings line store prepared)
    (hline : Request.parse line settings.defaultBlockSize = .error e) :
    prepared.store = store ∧ prepared.calls = [] := by
  cases h with
  | unread => exact ⟨rfl, rfl⟩
  | _ => simp_all

/-- A preparation blames its line exactly when that cannot be read. -/
theorem isParseError_iff (h : Preparation settings line store prepared)
    (hresult : prepared.result = .error e) :
    e.isParseError = true ↔ ∃ e', Request.parse line settings.defaultBlockSize = .error e' := by
  cases h with
  | unread _ hline =>
    obtain rfl := Except.error.inj hresult
    exact ⟨fun _ => ⟨_, hline⟩, fun _ => Request.isParseError_of_parse hline⟩
  | queued => cases hresult
  | _ =>
    obtain rfl := Except.error.inj hresult
    simp [HandoffError.isParseError, *]

end Preparation

end TransferGateway.Handoff
