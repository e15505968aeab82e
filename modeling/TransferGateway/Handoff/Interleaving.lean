import TransferGateway.Handoff.Prepare

/-!
# Hand-offs side by side

Several hand-offs may be under way on one store.  Between two calls on the store any other
hand-off may get its turn, the rules and the time of day may change, and the faults in force may
change, so that any single call can be made to fail.  A call on the store is never interrupted.
-/

namespace TransferGateway.Handoff

/-- How far a hand-off has come: the call on the store that it makes next, or its result. -/
inductive Stage where
  | lookup (settings : Settings) (request : Request)
  | create (descriptor : Descriptor)
  | mark (descriptor : Descriptor) (id : Int)
  | delete (id : Int) (cause : StoreError)
  /-- The result is there; the second part says whether it has been returned. -/
  | ended (result : Except HandoffError Descriptor) (returned : Bool)

/-- A call on the store together with what came of it. -/
inductive Deed where
  | lookup (rule : String) (outcome : Except StoreError (Option TransferRule))
  | create (outcome : Except StoreError Int)
  | mark (id : Int) (state : RowState) (outcome : Except StoreError Unit)
  | delete (id : Int) (outcome : Except StoreError Unit)

namespace Deed

/-- The call behind a deed. -/
def call : Deed → StoreCall
  | lookup rule _ => .lookup rule
  | create _ => .create
  | mark id state _ => .mark id state
  | delete id _ => .delete id

/-- The id that was handed out. -/
def ticket? : Deed → Option Int
  | create (.ok id) => some id
  | _ => none

end Deed

namespace Stage

/-- The beginning of a hand-off.  Reading the line concerns nobody else. -/
def start (settings : Settings) (line : String) : Stage :=
  match Request.parse line settings.defaultBlockSize with
  | .error e => .ended (.error e) false
  | .ok request => .lookup settings request

/-- One step of a hand-off: the next stage, the store, and what was done to the store. -/
def step (stage : Stage) (store : Store) : Stage × Store × List Deed :=
  match stage with
  | .lookup settings request =>
    let outcome := store.lookup request.rule
    (match outcome with
      | .error cause => .ended (.error (.ruleLookup cause)) false
      | .ok none => .ended (.error (.ruleNotFound request.rule)) false
      | .ok (some rule) => .create (settings.descriptor request rule store.clock),
     store, [.lookup request.rule outcome])
  | .create descriptor =>
    let (outcome, after) := store.create descriptor
    (match outcome with
      | .error cause => .ended (.error (.persistence cause)) false
      | .ok id => .mark descriptor id,
     after, [.create outcome])
  | .mark descriptor id =>
    let (outcome, after) := store.mark id .toSubmit
    (match outcome with
      | .error cause => .delete id cause
      | .ok () => .ended (.ok { descriptor with id := some id }) false,
     after, [.mark id .toSubmit outcome])
  | .delete id cause =>
    let (outcome, after) := store.delete id
    (.ended (.error (.persistence cause)) false, after, [.delete id outcome])
  | .ended result _ => (.ended result true, store, [])

end Stage

/-- Hand-offs under way on one store, and what was done to the store so far and by whom. -/
structure Handoffs (ι : Type) where
  store : Store
  stages : ι → Stage
  log : List (ι × Deed) := []

namespace Handoffs

variable {ι : Type}

/-- Hand-offs that all begin, on a store whose queue is empty and hands out ids from `first`. -/
def start (first : Int) (rules : RuleBook) (settings : ι → Settings) (lines : ι → String) :
    Handoffs ι where
  store := { rules, queue := .empty first }
  stages := fun i => .start (settings i) (lines i)

/-- Give one hand-off its turn. -/
def advance [DecidableEq ι] (w : Handoffs ι) (i : ι) : Handoffs ι :=
  let (stage, store, deeds) := (w.stages i).step w.store
  { store
    stages := fun j => if j = i then stage else w.stages j
    log := w.log ++ deeds.map fun deed => (i, deed) }

/-- What one hand-off has done to the store, in order. -/
def deeds [DecidableEq ι] (w : Handoffs ι) (i : ι) : List Deed :=
  (w.log.filter fun entry => entry.1 = i).map Prod.snd

/-- The ids that were handed out, in order, and to whom. -/
def tickets (w : Handoffs ι) : List (ι × Int) :=
  w.log.filterMap fun entry => entry.2.ticket?.map fun id => (entry.1, id)

/-- What may happen next. -/
inductive Step [DecidableEq ι] : Handoffs ι → Handoffs ι → Prop where
  | advance (w : Handoffs ι) (i : ι) : Step w (w.advance i)
  | rules (w : Handoffs ι) (rules : RuleBook) : Step w { w with store := { w.store with rules } }
  | faults (w : Handoffs ι) (faults : StoreFaults) :
      Step w { w with store := { w.store with faults } }
  | clock (w : Handoffs ι) (clock : Int) : Step w { w with store := { w.store with clock } }

/-- What any number of steps may lead to. -/
inductive Reachable [DecidableEq ι] (w : Handoffs ι) : Handoffs ι → Prop where
  | refl : Reachable w w
  | tail {v u : Handoffs ι} (before : Reachable w v) (step : Step v u) : Reachable w u

end Handoffs

end TransferGateway.Handoff
