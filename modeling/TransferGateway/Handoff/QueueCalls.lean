import TransferGateway.Handoff.Queue

/-!
# Calls on the queue

The calls that a queue answers, one after another, recorded with their answers.
-/

namespace TransferGateway

/-- A call on the queue. -/
inductive QueueCall where
  | create (descriptor : Descriptor)
  | mark (id : Int) (state : RowState)
  | delete (id : Int)
  | find (id : Int)
deriving DecidableEq, Repr, Inhabited

/-- The answer to a call on the queue. -/
inductive QueueAnswer where
  | ticket (id : Int)
  | done
  | refused (cause : StoreError)
  | row (row? : Option Row)
deriving DecidableEq, Repr, Inhabited

namespace Queue

/-- Answer a call. -/
def answer (q : Queue) : QueueCall → QueueAnswer × Queue
  | .create descriptor => (.ticket (q.create descriptor).1, (q.create descriptor).2)
  | .mark id state =>
    match q.mark id state with
    | .ok next => (.done, next)
    | .error cause => (.refused cause, q)
  | .delete id => (.done, q.delete id)
  | .find id => (.row (q.find? id), q)

/-- Answer calls one after another, and record every call with its answer. -/
def run (q : Queue) : List QueueCall → List (QueueCall × QueueAnswer) × Queue
  | [] => ([], q)
  | call :: rest =>
    let (answer, next) := q.answer call
    let (history, last) := next.run rest
    ((call, answer) :: history, last)

end Queue

end TransferGateway
