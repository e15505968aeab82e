import TransferGateway.Admission.Controller

/-!
# Calls on admission side by side

Any number of sessions may share one admission controller.  A call gives way to others only while
it pauses.  Between two turns the clock may move on, and the load and the numbers of connections
may change in any way.  Every check that is made is recorded with what was known at its instant.
-/

namespace TransferGateway.Admission

/-- What a session asks for: a check, or a round with its pauses. -/
inductive Call where
  | check
  | round (attempt : Nat)
deriving DecidableEq, Repr, Inhabited

/-- How far a call has come. -/
inductive Stage where
  | called (call : Call)
  /-- In the pause before the check of a round, which ends at the given instant. -/
  | settling (attempt wake : Nat)
  /-- In the pause after a check that said overloaded. -/
  | recovering (wake : Nat)
  | answered (overloaded : Bool)
deriving DecidableEq, Repr, Inhabited

/-- What one turn of a call leads to, with the verdict of its check if that was made. -/
structure Turn where
  stage : Stage
  controller : AdmissionController
  verdict? : Option Bool := none

namespace Stage

/-- Make the check of a round; a pause follows if it says overloaded. -/
def checkRound (attempt : Nat) (c : AdmissionController) (now : Nat) (readings : Readings) : Turn :=
  let (overloaded, checked) := c.check now readings
  if overloaded then
    let (random, drawn) := checked.draw
    ⟨.recovering (wakeUp now (drawn.overloadPause attempt random)), drawn, some true⟩
  else ⟨.answered false, checked, some false⟩

/-- Begin a round: go into the pause before its check, or make the check if there is none. -/
def beginRound (attempt : Nat) (c : AdmissionController) (now : Nat) (readings : Readings) : Turn :=
  let settled := c.settle now attempt
  if settled.pauses.isEmpty then checkRound attempt settled.controller now readings
  else ⟨.settling attempt settled.now, settled.controller, none⟩

/-- One turn of a call: it goes on up to its next pause, if its present one is over. -/
def turn (stage : Stage) (c : AdmissionController) (now : Nat) (readings : Readings) : Turn :=
  match stage with
  | .called .check =>
    let (overloaded, checked) := c.check now readings
    ⟨.answered overloaded, checked, some overloaded⟩
  | .called (.round attempt) => beginRound attempt c now readings
  | .settling attempt wake =>
    if wake ≤ now then checkRound attempt c now readings else ⟨.settling attempt wake, c, none⟩
  | .recovering wake =>
    if wake ≤ now then ⟨.answered true, c, none⟩ else ⟨.recovering wake, c, none⟩
  | .answered overloaded => ⟨.answered overloaded, c, none⟩

end Stage

/-- A check that was made: who asked, when, what was known then, the controller before and after
it, and what it said. -/
structure Verdict (ι : Type) where
  caller : ι
  now : Nat
  readings : Readings
  before : AdmissionController
  after : AdmissionController
  overloaded : Bool

/-- The samples that a check took, the newest first. -/
def Verdict.taken {ι : Type} (v : Verdict ι) : List LoadSample :=
  v.after.samples.take (v.after.samples.length - v.before.samples.length)

/-- Calls under way on one controller, the surroundings as they are now, and the checks made so far,
in order. -/
structure Admissions (ι : Type) where
  controller : AdmissionController
  now : Nat
  readings : Readings
  stages : ι → Stage
  verdicts : List (Verdict ι) := []

namespace Admissions

variable {ι : Type}

/-- Calls that all begin, on a controller that has taken no sample yet. -/
def start (limits : AdmissionLimits) (jitter : Nat → Rat) (precision : Precision) (now : Nat)
    (readings : Readings) (calls : ι → Call) : Admissions ι where
  controller := { limits, jitter, precision }
  now := now
  readings := readings
  stages := fun i => .called (calls i)

/-- Give one call its turn. -/
def advance [DecidableEq ι] (w : Admissions ι) (i : ι) : Admissions ι :=
  let turn := (w.stages i).turn w.controller w.now w.readings
  { w with
    controller := turn.controller
    stages := fun j => if j = i then turn.stage else w.stages j
    verdicts := w.verdicts ++ turn.verdict?.toList.map fun overloaded =>
      ⟨i, w.now, w.readings, w.controller, turn.controller, overloaded⟩ }

/-- What one call was told by its checks, in order. -/
def toldTo [DecidableEq ι] (w : Admissions ι) (i : ι) : List Bool :=
  (w.verdicts.filter fun v => v.caller = i).map Verdict.overloaded

/-- What may happen next. -/
inductive Step [DecidableEq ι] : Admissions ι → Admissions ι → Prop where
  | advance (w : Admissions ι) (i : ι) : Step w (w.advance i)
  | pass (w : Admissions ι) {later : Nat} (h : w.now ≤ later) : Step w { w with now := later }
  | change (w : Admissions ι) (readings : Readings) : Step w { w with readings }

/-- What any number of steps may lead to. -/
inductive Reachable [DecidableEq ι] (w : Admissions ι) : Admissions ι → Prop where
  | refl : Reachable w w
  | tail {v u : Admissions ι} (before : Reachable w v) (step : Step v u) : Reachable w u

end Admissions

end TransferGateway.Admission
