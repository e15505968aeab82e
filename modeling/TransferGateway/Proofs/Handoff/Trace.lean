import TransferGateway.Proofs.Handoff.Preparation

/-!
# The calls of a preparation

A preparation looks up a rule, creates a row, marks it and, if it cannot, deletes it again.  Every
call is made only after those before it have succeeded, and a failure is what the first call that
failed reports.  What a preparation that fails has written it takes back.
-/

namespace TransferGateway

namespace RuleBook

variable {book : RuleBook} {name : String} {rule : TransferRule}

theorem find?_eq_none_iff : book.find? name = none ↔ ∀ rule ∈ book.rules, rule.name ≠ name := by
  simp [find?]

/-- A rule of a name behind which there is no other one of that name. -/
structure Last (book : RuleBook) (name : String) (rule : TransferRule) : Prop where
  named : rule.name = name
  last : ∃ earlier later, book.rules = earlier ++ rule :: later ∧
    ∀ other ∈ later, other.name ≠ name

theorem find?_eq_some_iff : book.find? name = some rule ↔ book.Last name rule := by
  rw [find?, List.find?_eq_some_iff_append]
  constructor
  · rintro ⟨hnamed, before, behind, hsplit, hbefore⟩
    refine ⟨by simpa using hnamed, behind.reverse, before.reverse, ?_, ?_⟩
    · have hrules := congrArg List.reverse hsplit
      simpa using hrules
    · intro other hother
      simpa using hbefore other (List.mem_reverse.1 hother)
  · rintro ⟨hnamed, earlier, later, hsplit, hlater⟩
    refine ⟨by simpa using hnamed, later.reverse, earlier.reverse, by simp [hsplit], ?_⟩
    intro other hother
    simpa using hlater other (List.mem_reverse.1 hother)

end RuleBook

namespace Handoff

variable {settings : Settings} {line : String} {store : Store} {request : Request}
  {rule : TransferRule} {calls : List StoreCall} {result : Except HandoffError Descriptor}

/-- A line that is read as a request, whose rule is found. -/
structure Found (settings : Settings) (line : String) (store : Store) (request : Request)
    (rule : TransferRule) : Prop where
  read : Request.parse line settings.defaultBlockSize = .ok request
  answered : store.faults.lookup = none
  rule : store.rules.Last request.rule rule

/-- The transfer of a request at a time of day, in the row under an id.  The checksum of its file is
verified if the rule says so or the line does. -/
def entry (settings : Settings) (request : Request) (rule : TransferRule) (clock id : Int) :
    Descriptor where
  requester := settings.requester
  host := request.host
  rule := request.rule
  mode := ⟨rule.mode.receives, rule.mode.checksum || request.checksum, rule.mode.through⟩
  file := request.file
  blockSize := request.blockSize
  checksum := request.checksum
  quiet := request.quiet
  info := request.info
  id := some id
  createdAt := clock

theorem entry_eq (settings : Settings) (request : Request) (rule : TransferRule)
    (clock id : Int) :
    { settings.descriptor request rule clock with id := some id } =
      entry settings request rule clock id := by
  obtain ⟨name, receives, checksum, through⟩ := rule
  cases hchecksum : request.checksum <;>
    simp [entry, Settings.descriptor, hchecksum, TransferMode.withChecksum]

/-- The calls that a preparation makes, with its answer. -/
inductive Trace (settings : Settings) (line : String) (store : Store) :
    List StoreCall → Except HandoffError Descriptor → Prop where
  | unread {e : HandoffError}
      (hline : Request.parse line settings.defaultBlockSize = .error e) :
      Trace settings line store [] (.error e)
  | unsearched {request : Request} {cause : StoreError}
      (hline : Request.parse line settings.defaultBlockSize = .ok request)
      (hlookup : store.faults.lookup = some cause) :
      Trace settings line store [.lookup request.rule] (.error (.ruleLookup cause))
  | unruled {request : Request}
      (hline : Request.parse line settings.defaultBlockSize = .ok request)
      (hlookup : store.faults.lookup = none)
      (hrules : ∀ rule ∈ store.rules.rules, rule.name ≠ request.rule) :
      Trace settings line store [.lookup request.rule] (.error (.ruleNotFound request.rule))
  | uncreated {request : Request} {rule : TransferRule} {cause : StoreError}
      (hfound : Found settings line store request rule)
      (hcreate : store.faults.create = some cause) :
      Trace settings line store [.lookup request.rule, .create] (.error (.persistence cause))
  -- Whether the delete succeeds does not matter.
  | undone {request : Request} {rule : TransferRule} {cause : StoreError}
      (hfound : Found settings line store request rule) (hcreate : store.faults.create = none)
      (hmark : store.faults.mark = some cause) :
      Trace settings line store
        [.lookup request.rule, .create, .mark store.queue.next .toSubmit, .delete store.queue.next]
        (.error (.persistence cause))
  | submitted {request : Request} {rule : TransferRule}
      (hfound : Found settings line store request rule) (hcreate : store.faults.create = none)
      (hmark : store.faults.mark = none) :
      Trace settings line store
        [.lookup request.rule, .create, .mark store.queue.next .toSubmit]
        (.ok (entry settings request rule store.clock store.queue.next))

/-! ## Every preparation has one trace -/

theorem lookup_eq_ok_iff {rule? : Option TransferRule} {name : String} :
    store.lookup name = .ok rule? ↔
      store.faults.lookup = none ∧ store.rules.find? name = rule? := by
  unfold Store.lookup
  cases store.faults.lookup <;> simp

theorem Found.prepare_eq (h : Found settings line store request rule) :
    prepare settings line store =
      let queued := enqueue (settings.descriptor request rule store.clock) store
      { queued with calls := .lookup request.rule :: queued.calls } := by
  have hlookup : store.lookup request.rule = .ok (some rule) :=
    lookup_eq_ok_iff.2 ⟨h.answered, RuleBook.find?_eq_some_iff.2 h.rule⟩
  simp only [prepare, h.read, fulfil, hlookup]

theorem exists_trace (settings : Settings) (line : String) (store : Store) :
    ∃ calls result, Trace settings line store calls result := by
  cases hline : Request.parse line settings.defaultBlockSize with
  | error e => exact ⟨_, _, .unread hline⟩
  | ok request =>
    cases hlookup : store.faults.lookup with
    | some cause => exact ⟨_, _, .unsearched hline hlookup⟩
    | none =>
      cases hrule : store.rules.find? request.rule with
      | none => exact ⟨_, _, .unruled hline hlookup (RuleBook.find?_eq_none_iff.1 hrule)⟩
      | some rule =>
        have hfound : Found settings line store request rule :=
          ⟨hline, hlookup, RuleBook.find?_eq_some_iff.1 hrule⟩
        cases hcreate : store.faults.create with
        | some cause => exact ⟨_, _, .uncreated hfound hcreate⟩
        | none =>
          cases hmark : store.faults.mark with
          | some cause => exact ⟨_, _, .undone hfound hcreate hmark⟩
          | none => exact ⟨_, _, .submitted hfound hcreate hmark⟩

/-- The calls of a trace are made, and its answer is given. -/
theorem Trace.calls_and_result (h : Trace settings line store calls result) :
    (prepare settings line store).calls = calls ∧
      (prepare settings line store).result = result := by
  cases h with
  | unread hline => simp [prepare, hline]
  | unsearched hline hlookup => simp [prepare, hline, fulfil, Store.lookup, hlookup]
  | unruled hline hlookup hrules =>
    have hnone := RuleBook.find?_eq_none_iff.2 hrules
    simp [prepare, hline, fulfil, Store.lookup, hlookup, hnone]
  | uncreated hfound hcreate =>
    rw [hfound.prepare_eq]
    simp [enqueue, Store.create, hcreate]
  | undone hfound hcreate hmark =>
    rw [hfound.prepare_eq]
    simp [enqueue, Store.create, hcreate, submit, Store.mark, hmark, Queue.create]
  | @submitted request rule hfound hcreate hmark =>
    have hmarked := mark_created store.queue (settings.descriptor request rule store.clock)
    have hnext : (store.queue.create (settings.descriptor request rule store.clock)).1 = store.queue.next := rfl
    rw [hfound.prepare_eq]
    simp [enqueue, Store.create, hcreate, submit, Store.mark, hmark, hmarked, hnext, entry_eq]

theorem Trace.calls_eq_nil_iff (h : Trace settings line store calls result) :
    (calls = [] ↔ ∃ e, Request.parse line settings.defaultBlockSize = .error e) ∧
      (calls = [] ↔ ∃ e, result = .error e ∧ e.isParseError = true) := by
  cases h with
  | unread hline =>
    have hfault := Request.isParseError_of_parse hline
    exact ⟨⟨fun _ => ⟨_, hline⟩, fun _ => rfl⟩, ⟨fun _ => ⟨_, rfl, hfault⟩, fun _ => rfl⟩⟩
  | unsearched hline _ => simp [hline, HandoffError.isParseError]
  | unruled hline _ _ => simp [hline, HandoffError.isParseError]
  | uncreated hfound _ => simp [hfound.read, HandoffError.isParseError]
  | undone hfound _ _ => simp [hfound.read, HandoffError.isParseError]
  | submitted hfound _ _ => simp [hfound.read]

/-- The traces say exactly what a preparation calls and answers. -/
theorem trace_iff : Trace settings line store calls result ↔
    (prepare settings line store).calls = calls ∧
      (prepare settings line store).result = result := by
  constructor
  · exact Trace.calls_and_result
  · rintro ⟨rfl, rfl⟩
    obtain ⟨calls, result, htrace⟩ := exists_trace settings line store
    obtain ⟨rfl, rfl⟩ := htrace.calls_and_result
    exact htrace

/-! ## What a preparation leaves in the queue -/

namespace Preparation

variable {prepared : Prepared} {e : HandoffError} {descriptor : Descriptor}

/-- A preparation that fails leaves no row if the delete that it had to make did not fail. -/
theorem rows_of_error (h : Preparation settings line store prepared)
    (hresult : prepared.result = .error e)
    (hdelete : ∀ id, .delete id ∈ prepared.calls → store.faults.delete = none) :
    prepared.store.queue.rows = store.queue.rows := by
  cases h with
  | removed => exact rows_removed _ _
  | stranded _ _ _ _ _ _ hfails =>
    have hnone := hdelete store.queue.next (by simp)
    rw [hfails] at hnone
    contradiction
  | queued => cases hresult
  | _ => rfl

theorem rows_of_ok (h : Preparation settings line store prepared)
    (hresult : prepared.result = .ok descriptor) :
    (∃ request rule, Found settings line store request rule ∧
      descriptor = entry settings request rule store.clock store.queue.next) ∧
    prepared.store.queue.rows =
      store.queue.rows ++ [(store.queue.next, ⟨descriptor, .toSubmit⟩)] := by
  cases h with
  | queued request rule hline hrule =>
    obtain rfl := Except.ok.inj hresult
    obtain ⟨hlookup, hrule⟩ := lookup_eq_ok_iff.1 hrule
    have hfound : Found settings line store request rule :=
      ⟨hline, hlookup, RuleBook.find?_eq_some_iff.1 hrule⟩
    exact ⟨⟨request, rule, hfound, entry_eq _ _ _ _ _⟩, rows_queued _ _⟩
  | _ => cases hresult

/-- Only the queue of a store changes. -/
theorem frame (h : Preparation settings line store prepared) :
    prepared.store.rules = store.rules ∧ prepared.store.faults = store.faults ∧
      prepared.store.clock = store.clock := by
  cases h <;> exact ⟨rfl, rfl, rfl⟩

end Preparation

/-- A request has from the words of its line what their grouping settles. -/
theorem Request.exists_of_parse {size : Nat} (h : Request.parse line size = .ok request) :
    ∃ grouped : Line, grouped.Proper ∧ grouped.words = wordsOf line ∧ request.Of size grouped := by
  obtain ⟨hproper, hwords⟩ := Line.proper_and_words_iff.2 (rfl : Line.ofWords (wordsOf line) = _)
  have hanswers := (Request.parse_eq_iff hproper hwords (.ok request)).1 h
  cases hanswers with
  | complete _ hrequest => exact ⟨_, hproper, hwords, hrequest⟩

/-- The calls of a preparation and its answer, for every line, store and choice of calls that fail.
It calls nothing exactly when the line is at fault.  If it fails, the rows are those before it,
unless a delete has failed; if it succeeds, there is one new row, of the transfer that the line and
its rule describe. -/
theorem prepare_traced (settings : Settings) (line : String) (store : Store) :
    (∀ calls result, Trace settings line store calls result ↔
      (prepare settings line store).calls = calls ∧
        (prepare settings line store).result = result) ∧
    ((prepare settings line store).calls = [] ↔
      ∃ e, Request.parse line settings.defaultBlockSize = .error e) ∧
    ((prepare settings line store).calls = [] ↔
      ∃ e, (prepare settings line store).result = .error e ∧ e.isParseError = true) ∧
    (prepare settings line store).store.rules = store.rules ∧
    (prepare settings line store).store.faults = store.faults ∧
    (prepare settings line store).store.clock = store.clock ∧
    (∀ e, (prepare settings line store).result = .error e →
      (∀ id, .delete id ∈ (prepare settings line store).calls → store.faults.delete = none) →
      (prepare settings line store).store.queue.rows = store.queue.rows) ∧
    ∀ descriptor, (prepare settings line store).result = .ok descriptor →
      store.queue.find? store.queue.next = none ∧
      (prepare settings line store).store.queue.rows =
        store.queue.rows ++ [(store.queue.next, ⟨descriptor, .toSubmit⟩)] ∧
      ∃ request rule grouped, Found settings line store request rule ∧
        descriptor = entry settings request rule store.clock store.queue.next ∧
        grouped.Proper ∧ grouped.words = wordsOf line ∧
        request.Of settings.defaultBlockSize grouped := by
  have hpreparation := preparation settings line store
  have htrace := trace_iff.2 ⟨rfl, (rfl : (prepare settings line store).result = _)⟩
  obtain ⟨hunread, hblamed⟩ := htrace.calls_eq_nil_iff
  obtain ⟨hrules, hfaults, hclock⟩ := hpreparation.frame
  refine ⟨fun _ _ => trace_iff, hunread, hblamed, hrules, hfaults, hclock,
    fun _ => hpreparation.rows_of_error, fun descriptor hresult => ?_⟩
  obtain ⟨⟨request, rule, hfound, hdescriptor⟩, hrows⟩ := hpreparation.rows_of_ok hresult
  obtain ⟨grouped, hproper, hwords, hrequest⟩ := Request.exists_of_parse hfound.read
  have hfresh : store.queue.find? store.queue.next = none := by
    cases hrow : store.queue.find? store.queue.next with
    | none => rfl
    | some row => exact absurd (Queue.lt_next_of_find? hrow) (lt_irrefl _)
  exact ⟨hfresh, hrows, request, rule, grouped, hfound, hdescriptor, hproper, hwords, hrequest⟩

-- The last rule of the name counts, and the mark's error is reported though the delete fails too.
example :
    let book : RuleBook := ⟨[⟨"r", ⟨true, false, false⟩⟩, ⟨"r", ⟨false, false, true⟩⟩]⟩
    let line := "-to h -file f -rule r -md5"
    let faults : StoreFaults := { mark := some (.database "m"), delete := some (.database "d") }
    (prepare ⟨"gw", 64⟩ line ⟨book, .empty 7, {}, 12⟩).result =
      .ok ⟨"gw", "h", "r", ⟨false, true, true⟩, "f", 64, true, false, "noinfo", some 7, 12⟩ ∧
    (prepare ⟨"gw", 64⟩ line ⟨book, .empty 7, faults, 12⟩).result =
      .error (.persistence (.database "m")) := by decide

end Handoff
end TransferGateway
