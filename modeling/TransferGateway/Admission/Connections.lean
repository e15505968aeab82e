import TransferGateway.Admission.Limits

/-!
# Connection tracking

Every open connection and every authenticated session holds a guard.  The two counters follow
the guards: one that is entered counts one up, one that is released counts one down, once.  The
counters are words of 64 bits, and counting goes round at both of their ends.
-/

namespace TransferGateway

/-- What a guard stands for. -/
inductive GuardKind where
  | network
  | session
deriving DecidableEq, Repr, Inhabited

/-- The counters, and the live guards under numbers that are never used again. -/
structure Connections where
  network : UInt64 := 0
  sessions : UInt64 := 0
  live : List (Nat × GuardKind) := []
  next : Nat := 0
deriving DecidableEq, Repr, Inhabited

namespace Connections

/-- The counter of the guards of a kind. -/
def counter (c : Connections) : GuardKind → UInt64
  | .network => c.network
  | .session => c.sessions

/-- Count a guard in. -/
def countIn (c : Connections) : GuardKind → Connections
  | .network => { c with network := c.network + 1 }
  | .session => { c with sessions := c.sessions + 1 }

/-- Count a guard out. -/
def countOut (c : Connections) : GuardKind → Connections
  | .network => { c with network := c.network - 1 }
  | .session => { c with sessions := c.sessions - 1 }

/-- Take a guard; it gets the next number. -/
def enter (c : Connections) (kind : GuardKind) : Connections :=
  { c.countIn kind with live := c.live ++ [(c.next, kind)], next := c.next + 1 }

/-- Take several guards of one kind. -/
def enterMany (c : Connections) (kind : GuardKind) : Nat → Connections
  | 0 => c
  | count + 1 => (c.enter kind).enterMany kind count

/-- Release a guard; one that is unknown or released already changes nothing. -/
def release (c : Connections) (number : Nat) : Connections :=
  match c.live.find? fun entry => entry.1 == number with
  | none => c
  | some entry =>
    { c.countOut entry.2 with live := c.live.filter fun other => other.1 != number }

/-- Release every live guard. -/
def releaseAll (c : Connections) : Connections :=
  (c.live.map Prod.fst).foldl release c

/-- The number of live guards of a kind. -/
def held (c : Connections) (kind : GuardKind) : Nat :=
  c.live.countP fun entry => entry.2 == kind

/-- What admission reads off the counters. -/
def readings (c : Connections) (load : Binary64) : Readings :=
  { load, network := c.network.toNat, sessions := c.sessions.toNat }

end Connections

/-- A call for a guard. -/
inductive GuardCall where
  | enter (kind : GuardKind)
  | release (number : Nat)
deriving DecidableEq, Repr, Inhabited

namespace Connections

/-- Answer a call. -/
def answer (c : Connections) : GuardCall → Connections
  | .enter kind => c.enter kind
  | .release number => c.release number

/-- Answer calls in the order in which they take effect, whichever tasks they come from. -/
def run (c : Connections) (calls : List GuardCall) : Connections := calls.foldl answer c

end Connections

end TransferGateway
