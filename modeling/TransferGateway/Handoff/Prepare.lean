import TransferGateway.Handoff.Request
import TransferGateway.Handoff.Store

/-!
# Preparing a hand-off

A hand-off line is read, its rule looked up, a row created and marked for the scheduler.  A row
that cannot be marked is deleted again.  The answer records every call on the store.
-/

namespace TransferGateway.Handoff

/-- What a hand-off takes from the gateway. -/
structure Settings where
  requester : String
  defaultBlockSize : Nat
deriving DecidableEq, Repr, Inhabited

/-- The transfer that a request asks for under a rule, dated with the time of day. -/
def Settings.descriptor (settings : Settings) (request : Request) (rule : TransferRule)
    (clock : Int) : Descriptor where
  requester := settings.requester
  host := request.host
  rule := request.rule
  mode := if request.checksum then rule.mode.withChecksum else rule.mode
  file := request.file
  blockSize := request.blockSize
  checksum := request.checksum
  quiet := request.quiet
  info := request.info
  createdAt := clock

/-- The answer to a hand-off, the store after it, and the calls it made in order. -/
structure Prepared where
  result : Except HandoffError Descriptor
  store : Store
  calls : List StoreCall

/-- Mark the created row; on failure delete it and report why it could not be marked. -/
def submit (descriptor : Descriptor) (id : Int) (store : Store) : Prepared :=
  match store.mark id .toSubmit with
  | (.ok (), marked) =>
    ⟨.ok { descriptor with id := some id }, marked, [.mark id .toSubmit]⟩
  | (.error cause, unmarked) =>
    -- Whether the row could be deleted is not reported.
    let (_, cleaned) := unmarked.delete id
    ⟨.error (.persistence cause), cleaned, [.mark id .toSubmit, .delete id]⟩

/-- Create the row of a transfer and submit it. -/
def enqueue (descriptor : Descriptor) (store : Store) : Prepared :=
  match store.create descriptor with
  | (.error cause, unchanged) => ⟨.error (.persistence cause), unchanged, [.create]⟩
  | (.ok id, created) =>
    let submitted := submit descriptor id created
    { submitted with calls := .create :: submitted.calls }

/-- Carry out a request. -/
def fulfil (settings : Settings) (request : Request) (store : Store) : Prepared :=
  match store.lookup request.rule with
  | .error cause => ⟨.error (.ruleLookup cause), store, [.lookup request.rule]⟩
  | .ok none => ⟨.error (.ruleNotFound request.rule), store, [.lookup request.rule]⟩
  | .ok (some rule) =>
    let queued := enqueue (settings.descriptor request rule store.clock) store
    { queued with calls := .lookup request.rule :: queued.calls }

/-- Read a hand-off line and carry it out. -/
def prepare (settings : Settings) (line : String) (store : Store) : Prepared :=
  match Request.parse line settings.defaultBlockSize with
  | .error e => ⟨.error e, store, []⟩
  | .ok request => fulfil settings request store

end TransferGateway.Handoff
