import TransferGateway.Execution.Executor

/-!
# The course of a run

What a run does, told without the order in which it does it.  Its command line is started once,
or twice with a pause between; the last start fails or gives a process; the process is found to
have ended in time or not.  `run_course` reads a run this way, and whatever else is said of runs
is drawn from it.
-/

namespace TransferGateway

/-- The errors of a start that say only that the system lacked a resource for the moment. -/
inductive SystemError.Momentary : SystemError → Prop where
  | wouldBlock : Momentary (SystemError.kind ErrorKind.wouldBlock)
  | outOfMemory : Momentary (SystemError.kind ErrorKind.outOfMemory)
  | tryAgain : Momentary (.number 11)
  | noMemory : Momentary (.number 12)

theorem SystemError.momentary_iff (error : SystemError) :
    error.Momentary ↔ error.isTransient = true := by
  constructor
  · intro h
    cases h <;> rfl
  · intro h
    cases error with
    | kind kind =>
      cases kind with
      | wouldBlock => exact .wouldBlock
      | outOfMemory => exact .outOfMemory
      | _ => cases h
    | number number =>
      have hnumber : number = 11 ∨ number = 12 := by simpa [isTransient] using h
      rcases hnumber with rfl | rfl
      · exact .tryAgain
      · exact .noMemory
    | _ => cases h

/-- How long a process has to be waited for, if waiting for it comes to an end. -/
def Process.lasts? (process : Process) : Option Duration :=
  match process.ending with
  | .hangs => none
  | .exits _ after => some after
  | .waitFails _ after => some after

/-- Waiting for a process since `begun` is over at the deadline; on it counts as before it. -/
def Process.OverBy (process : Process) (begun deadline : Nat) : Prop :=
  ∃ span, process.lasts? = some span ∧ begun + span.nanoseconds ≤ deadline

/-- Starting a command line now fails for want of resources. -/
def Machine.Lacks (m : Machine) (command : CommandLine) : Prop :=
  ∃ error, (m.launch command).1 = .fails error ∧ error.Momentary

/-- The process that a start gave. -/
def Launch.process? : Launch → Option Process
  | .fails _ => none
  | .starts process => some process

theorem wholeMilli_le_wholeMilli_iff (s t : Nat) :
    wholeMilli s ≤ wholeMilli t ↔ s ≤ wholeMilli t := by
  constructor
  · exact Nat.le_trans (le_wholeMilli s)
  · intro h
    unfold wholeMilli Duration.perMilli at *
    omega

/-- Whether one wait is over when another is, is seen from its exact end: rounding both to the
clock changes nothing. -/
theorem wakeUp_le_wakeUp_iff (now : Nat) (a b : Duration) :
    wakeUp now a ≤ wakeUp now b ↔ now + a.nanoseconds ≤ wakeUp now b := by
  constructor
  · exact Nat.le_trans (le_wakeUp now a)
  · intro h
    by_cases ha : a.nanoseconds = 0
    · have hnow : wakeUp now a = now := if_pos ha
      omega
    · have hb : b.nanoseconds ≠ 0 := by
        intro hb
        have hnow : wakeUp now b = now := if_pos hb
        omega
      have hwake (d : Duration) (hd : d.nanoseconds ≠ 0) :
          wakeUp now d = wholeMilli (now + d.nanoseconds) := if_neg hd
      rw [hwake b hb] at h ⊢
      rw [hwake a ha]
      exact (wholeMilli_le_wholeMilli_iff _ _).2 h

namespace Executor

variable {retryDelay limit : Duration} {command : CommandLine} {program : String}
  {m after : Machine} {process : Process}

theorem endsBy_iff (process : Process) (now : Nat) (limit : Duration) :
    endsBy process now (wakeUp now limit) = true ↔ process.OverBy now (wakeUp now limit) := by
  unfold endsBy endOf Process.OverBy Process.lasts?
  cases process.ending with
  | hangs => simp
  | exits code span => simp [wakeUp_le_wakeUp_iff]
  | waitFails error span => simp [wakeUp_le_wakeUp_iff]

/-! ## Starts -/

/-- The starts of a run with their outcomes, and the instant of the last one.  Only a lack of
resources is worth a second start, and there is no third. -/
inductive Attempts (retryDelay : Duration) (command : CommandLine) (m : Machine) :
    List Launch → Nat → Prop where
  | once {outcome : Launch} (hfirst : (m.launch command).1 = outcome)
      (hfinal : ∀ error, outcome = .fails error → ¬ error.Momentary) :
      Attempts retryDelay command m [outcome] m.now
  | twice {error : SystemError} {outcome : Launch} (hfirst : (m.launch command).1 = .fails error)
      (hmomentary : error.Momentary)
      (hsecond : (((m.launch command).2.sleep retryDelay).launch command).1 = outcome) :
      Attempts retryDelay command m [.fails error, outcome] (wakeUp m.now retryDelay)

/-- The processes that the starts gave. -/
def processesOf (outcomes : List Launch) : List Process := outcomes.filterMap Launch.process?

variable {outcomes outcomes' : List Launch} {begun begun' : Nat}

/-- The outcomes of the starts are settled by the machine. -/
theorem Attempts.unique (h : Attempts retryDelay command m outcomes begun)
    (h' : Attempts retryDelay command m outcomes' begun') :
    outcomes = outcomes' ∧ begun = begun' := by
  cases h with
  | once hfirst hfinal =>
    cases h' with
    | once hfirst' => exact ⟨by rw [← hfirst, hfirst'], rfl⟩
    | twice hfirst' hmomentary => exact absurd hmomentary (hfinal _ (hfirst.symm.trans hfirst'))
  | twice hfirst hmomentary hsecond =>
    cases h' with
    | once hfirst' hfinal => exact absurd hmomentary (hfinal _ (hfirst'.symm.trans hfirst))
    | twice hfirst' _ hsecond' =>
      have herror := Launch.fails.inj (hfirst.symm.trans hfirst')
      have houtcome := hsecond.symm.trans hsecond'
      exact ⟨by rw [herror, houtcome], rfl⟩

/-- A lack of resources at the first start is what makes the difference between one start and
two. -/
theorem Attempts.first_cases (h : Attempts retryDelay command m outcomes begun) :
    (¬ m.Lacks command ∧ outcomes.length = 1 ∧ begun = m.now) ∨
      (m.Lacks command ∧ outcomes.length = 2 ∧ begun = wakeUp m.now retryDelay) := by
  cases h with
  | once hfirst hfinal =>
    have hstands : ¬ m.Lacks command := by
      rintro ⟨error, hfails, hmomentary⟩
      exact hfinal error (hfirst.symm.trans hfails) hmomentary
    exact .inl ⟨hstands, rfl, rfl⟩
  | twice hfirst hmomentary => exact .inr ⟨⟨_, hfirst, hmomentary⟩, rfl, rfl⟩

/-- All starts but the last failed: either the last one gives the only process, or none does. -/
theorem Attempts.process_cases (h : Attempts retryDelay command m outcomes begun) :
    (∃ process, outcomes.getLast? = some (.starts process) ∧ processesOf outcomes = [process]) ∨
      (∃ error, outcomes.getLast? = some (.fails error) ∧ processesOf outcomes = []) := by
  cases h with
  | @once outcome =>
    cases outcome with
    | starts process => exact .inl ⟨process, rfl, rfl⟩
    | fails error => exact .inr ⟨error, rfl, rfl⟩
  | @twice _ outcome =>
    cases outcome with
    | starts process => exact .inl ⟨process, rfl, rfl⟩
    | fails error => exact .inr ⟨error, rfl, rfl⟩

/-- A machine after `n` starts of one command line, the last of them at `begun`. -/
structure Tried (command : CommandLine) (m : Machine) (n begun : Nat) (after : Machine) : Prop where
  launches : after.launches = m.launches ++ List.replicate n command
  kills : after.kills = m.kills
  now : after.now = begun

theorem tried_launch (m : Machine) (command : CommandLine) :
    Tried command m 1 m.now (m.launch command).2 := by
  unfold Machine.launch
  cases m.script <;> exact ⟨rfl, rfl, rfl⟩

theorem tried_again (retryDelay : Duration) (command : CommandLine) (m : Machine) :
    Tried command m 2 (wakeUp m.now retryDelay)
      (((m.launch command).2.sleep retryDelay).launch command).2 := by
  have hone := tried_launch m command
  have hagain := tried_launch ((m.launch command).2.sleep retryDelay) command
  constructor
  · calc (((m.launch command).2.sleep retryDelay).launch command).2.launches
        = (m.launch command).2.launches ++ [command] := hagain.launches
      _ = m.launches ++ [command] ++ [command] := by rw [hone.launches]; rfl
      _ = m.launches ++ List.replicate 2 command := List.append_assoc _ _ _
  · exact hagain.kills.trans hone.kills
  · have hslept : ((m.launch command).2.sleep retryDelay).now = wakeUp m.now retryDelay := by
      show wakeUp (m.launch command).2.now retryDelay = _
      rw [hone.now]
    exact hagain.now.trans hslept

/-- What trying to start a process comes to: the process or the last failure, with the number of
attempts. -/
inductive Started (retryDelay : Duration) (command : CommandLine) (m : Machine) :
    Except (Nat × SystemError) Process × Machine → Prop where
  | failed {outcomes : List Launch} {begun : Nat} {error : SystemError} {after : Machine}
      (hattempts : Attempts retryDelay command m outcomes begun)
      (hlast : outcomes.getLast? = some (.fails error))
      (htried : Tried command m outcomes.length begun after) :
      Started retryDelay command m (.error (outcomes.length, error), after)
  | gave {outcomes : List Launch} {begun : Nat} {process : Process} {after : Machine}
      (hattempts : Attempts retryDelay command m outcomes begun)
      (hlast : outcomes.getLast? = some (.starts process))
      (htried : Tried command m outcomes.length begun after) :
      Started retryDelay command m (.ok process, after)

theorem start_started (retryDelay : Duration) (command : CommandLine) (m : Machine) :
    Started retryDelay command m (start retryDelay command m) := by
  have hone := tried_launch m command
  have htwo := tried_again retryDelay command m
  unfold start
  cases hlaunch : m.launch command with
  | mk outcome tried =>
    have hfirst : (m.launch command).1 = outcome := by rw [hlaunch]
    rw [hlaunch] at hone htwo
    cases outcome with
    | starts process => exact .gave (.once hfirst nofun) rfl hone
    | fails error =>
      by_cases htransient : error.isTransient = true
      · have hmomentary := error.momentary_iff.2 htransient
        simp only [htransient, if_true]
        cases hagain : (tried.sleep retryDelay).launch command with
        | mk outcome again =>
          have hsecond : (((m.launch command).2.sleep retryDelay).launch command).1 = outcome := by
            rw [hlaunch, hagain]
          have hattempts := Attempts.twice hfirst hmomentary hsecond
          rw [hagain] at htwo
          -- A second failure may be of any kind: it is never looked at.
          cases outcome with
          | starts process => exact .gave hattempts rfl htwo
          | fails error => exact .failed hattempts rfl htwo
      · have hfinal : ∀ error', Launch.fails error = .fails error' → ¬ error'.Momentary := by
          rintro _ ⟨⟩ hmomentary
          exact htransient (error.momentary_iff.1 hmomentary)
        simp only [htransient]
        exact .failed (.once hfirst hfinal) rfl hone

/-! ## Findings -/

/-- What a run that returns has found out. -/
inductive Finding where
  /-- No process was started; the last failure, and how often it was tried. -/
  | unstarted (attempts : Nat) (error : SystemError)
  /-- The process was seen to exit. -/
  | exited (code : Option Int)
  /-- Waiting for the process failed. -/
  | unwaited (error : SystemError)
  /-- The process was still there at the deadline. -/
  | overdue

namespace Finding

/-- The status that a finding calls for. -/
def status : Finding → RunStatus
  | exited code => if code = some 0 then .ok else if code = some 1 then .warning else .failed
  | _ => .failed

/-- The cause to be told for a finding. -/
def cause? (program : String) (limit : Duration) : Finding → Option RunError
  | unstarted attempts error => some (.spawn program attempts error)
  | exited code => if code = some 0 then none else some (.exit program code)
  | unwaited error => some (.wait program error)
  | overdue => some (.timeout program limit)

def result (finding : Finding) (program : String) (limit : Duration) : RunResult :=
  ⟨finding.status, finding.cause? program limit⟩

/-- How often a process is killed over a finding. -/
def kills : Finding → Nat
  | unwaited _ => 1
  | overdue => 1
  | _ => 0

theorem ofExit_eq (program : String) (limit : Duration) (code : Option Int) :
    RunResult.ofExit program code = (exited code).result program limit := by
  cases code with
  | none => rfl
  | some code =>
    by_cases hzero : code = 0
    · subst hzero
      rfl
    by_cases hone : code = 1
    · subst hone
      rfl
    simp [RunResult.ofExit, RunStatus.ofExitCode, RunResult.failed, result, status, cause?, hzero,
      hone]

/-- The finding that a result's cause speaks of. -/
def ofCause? : Option RunError → Option Finding
  | none => some (exited (some 0))
  | some .emptyCommand => none
  | some (.spawn _ attempts error) => some (unstarted attempts error)
  | some (.exit _ code) => some (exited code)
  | some (.wait _ error) => some (unwaited error)
  | some (.timeout _ _) => some overdue

theorem ofCause?_cause? (finding : Finding) (program : String) (limit : Duration) :
    ofCause? (finding.cause? program limit) = some finding := by
  cases finding with
  | exited code =>
    by_cases hzero : code = some 0
    · simp [cause?, hzero, ofCause?]
    · simp [cause?, hzero, ofCause?]
  | _ => rfl

end Finding

/-! ## Waiting -/

/-- What is found out about a process that is waited for since `begun`.  Without a limit it is its
end, if there is one; with a limit it is its end if that comes by the deadline. -/
inductive Awaited (limit : Duration) (process : Process) (begun : Nat) : Finding → Prop where
  | exited {code : Option Int} {span : Duration} (hending : process.ending = .exits code span)
      (hintime : limit = .zero ∨ process.OverBy begun (wakeUp begun limit)) :
      Awaited limit process begun (.exited code)
  | unwaited {error : SystemError} {span : Duration}
      (hending : process.ending = .waitFails error span)
      (hintime : limit = .zero ∨ process.OverBy begun (wakeUp begun limit)) :
      Awaited limit process begun (.unwaited error)
  | overdue (hlimited : limit ≠ .zero) (hlate : ¬ process.OverBy begun (wakeUp begun limit)) :
      Awaited limit process begun .overdue

variable {finding finding' : Finding}

theorem Awaited.overdue_iff (h : Awaited limit process begun finding) :
    finding = .overdue ↔ limit ≠ .zero ∧ ¬ process.OverBy begun (wakeUp begun limit) := by
  cases h with
  | exited hending hintime =>
    refine ⟨nofun, fun ⟨hlimited, hlate⟩ => ?_⟩
    exact (hintime.elim hlimited hlate).elim
  | unwaited hending hintime =>
    refine ⟨nofun, fun ⟨hlimited, hlate⟩ => ?_⟩
    exact (hintime.elim hlimited hlate).elim
  | overdue hlimited hlate => exact ⟨fun _ => ⟨hlimited, hlate⟩, fun _ => rfl⟩

theorem Awaited.unique (h : Awaited limit process begun finding)
    (h' : Awaited limit process begun finding') : finding = finding' := by
  by_cases hoverdue : finding = .overdue
  · rw [hoverdue]
    exact (h'.overdue_iff.2 (h.overdue_iff.1 hoverdue)).symm
  have hoverdue' : finding' ≠ .overdue := fun heq =>
    hoverdue (h.overdue_iff.2 (h'.overdue_iff.1 heq))
  -- Both are in time now, so that either is how the process ends.
  cases h with
  | overdue => exact absurd rfl hoverdue
  | exited hending =>
    cases h' with
    | overdue => exact absurd rfl hoverdue'
    | exited hending' =>
      cases hending.symm.trans hending'
      rfl
    | unwaited hending' => cases hending.symm.trans hending'
  | unwaited hending =>
    cases h' with
    | overdue => exact absurd rfl hoverdue'
    | exited hending' => cases hending.symm.trans hending'
    | unwaited hending' =>
      cases hending.symm.trans hending'
      rfl

/-- What waiting for a process comes to. -/
inductive Waited (limit : Duration) (program : String) (process : Process) (m : Machine) :
    Option RunResult × Machine → Prop where
  | endless {after : Machine} (hlimit : limit = .zero) (hhangs : process.ending = .hangs)
      (hlaunches : after.launches = m.launches) (hkills : after.kills = m.kills) :
      Waited limit program process m (none, after)
  | ended {finding : Finding} {after : Machine} (hawaited : Awaited limit process m.now finding)
      (hlaunches : after.launches = m.launches) (hkills : after.kills = m.kills + finding.kills)
      (hnow : limit ≠ .zero → after.now ≤ wakeUp m.now limit) :
      Waited limit program process m (some (finding.result program limit), after)

theorem await_waited (program : String) (m : Machine)
    (hintime : limit = .zero ∨ process.OverBy m.now (wakeUp m.now limit)) :
    Waited limit program process m (await program process m) := by
  have hnow {span : Duration} (hspan : process.lasts? = some span) (hlimited : limit ≠ .zero) :
      wakeUp m.now span ≤ wakeUp m.now limit := by
    obtain ⟨span', hspan', hle⟩ := hintime.resolve_left hlimited
    obtain rfl : span = span' := Option.some.inj (hspan.symm.trans hspan')
    exact (wakeUp_le_wakeUp_iff _ _ _).2 hle
  unfold await
  cases hending : process.ending with
  | hangs =>
    rcases hintime with hzero | ⟨span, hspan, -⟩
    · exact .endless hzero hending rfl rfl
    · simp [Process.lasts?, hending] at hspan
  | exits code span =>
    have hspan : process.lasts? = some span := by simp only [Process.lasts?, hending]
    show Waited limit program process m (some (.ofExit program code), _)
    rw [Finding.ofExit_eq program limit]
    exact .ended (.exited hending hintime) rfl rfl (hnow hspan)
  | waitFails error span =>
    have hspan : process.lasts? = some span := by simp only [Process.lasts?, hending]
    exact .ended (.unwaited hending hintime) rfl rfl (hnow hspan)

theorem watch_waited (limit : Duration) (program : String) (process : Process) (m : Machine) :
    Waited limit program process m (watch program limit process m) := by
  have hends := endsBy_iff process m.now limit
  unfold watch
  by_cases hzero : limit = .zero
  · rw [if_pos hzero]
    exact await_waited program m (.inl hzero)
  rw [if_neg hzero]
  by_cases hby : endsBy process m.now (wakeUp m.now limit) = true
  · rw [if_pos hby]
    exact await_waited program m (.inr (hends.1 hby))
  · rw [if_neg hby]
    have hlate : ¬ process.OverBy m.now (wakeUp m.now limit) := fun h => hby (hends.2 h)
    exact .ended (.overdue hzero hlate) rfl rfl (fun _ => Nat.le_refl _)

/-! ## Runs -/

/-- What a run of a command line finds out, with the starts that came before. -/
inductive Finds (retryDelay limit : Duration) (command : CommandLine) (m : Machine) :
    List Launch → Nat → Finding → Prop where
  | unstarted {outcomes : List Launch} {begun : Nat} {error : SystemError}
      (hattempts : Attempts retryDelay command m outcomes begun)
      (hlast : outcomes.getLast? = some (.fails error)) :
      Finds retryDelay limit command m outcomes begun (.unstarted outcomes.length error)
  | awaited {outcomes : List Launch} {begun : Nat} {process : Process} {finding : Finding}
      (hattempts : Attempts retryDelay command m outcomes begun)
      (hlast : outcomes.getLast? = some (.starts process))
      (hawaited : Awaited limit process begun finding) :
      Finds retryDelay limit command m outcomes begun finding

theorem Finds.attempts (h : Finds retryDelay limit command m outcomes begun finding) :
    Attempts retryDelay command m outcomes begun := by
  cases h with
  | unstarted hattempts => exact hattempts
  | awaited hattempts => exact hattempts

theorem Finds.unique (h : Finds retryDelay limit command m outcomes begun finding)
    (h' : Finds retryDelay limit command m outcomes' begun' finding') :
    outcomes = outcomes' ∧ begun = begun' ∧ finding = finding' := by
  obtain ⟨rfl, rfl⟩ := h.attempts.unique h'.attempts
  refine ⟨rfl, rfl, ?_⟩
  cases h with
  | unstarted hattempts hlast =>
    cases h' with
    | unstarted _ hlast' =>
      cases hlast.symm.trans hlast'
      rfl
    | awaited _ hlast' => cases hlast.symm.trans hlast'
  | awaited hattempts hlast hawaited =>
    cases h' with
    | unstarted _ hlast' => cases hlast.symm.trans hlast'
    | awaited _ hlast' hawaited' =>
      cases hlast.symm.trans hlast'
      exact hawaited.unique hawaited'

/-- A run that has found something out either got no process or waited for the only one. -/
theorem Finds.process_cases (h : Finds retryDelay limit command m outcomes begun finding) :
    (processesOf outcomes = [] ∧ ∃ error, finding = .unstarted outcomes.length error) ∨
      ∃ process, processesOf outcomes = [process] ∧ Awaited limit process begun finding := by
  have hprocesses := h.attempts.process_cases
  cases h with
  | unstarted hattempts hlast =>
    rcases hprocesses with ⟨process, hlast', -⟩ | ⟨error, -, hnone⟩
    · cases hlast.symm.trans hlast'
    · exact .inl ⟨hnone, _, rfl⟩
  | awaited hattempts hlast hawaited =>
    rcases hprocesses with ⟨process, hlast', hone⟩ | ⟨error, hlast', -⟩
    · cases hlast.symm.trans hlast'
      exact .inr ⟨_, hone, hawaited⟩
    · cases hlast.symm.trans hlast'

/-- What a run of a command line comes to. -/
inductive Course (retryDelay limit : Duration) (command : CommandLine) (m : Machine) :
    Option RunResult × Machine → Prop where
  | endless {outcomes : List Launch} {begun : Nat} {process : Process} {after : Machine}
      (hattempts : Attempts retryDelay command m outcomes begun)
      (hlast : outcomes.getLast? = some (.starts process))
      (hlimit : limit = .zero) (hhangs : process.ending = .hangs)
      (hlaunches : after.launches = m.launches ++ List.replicate outcomes.length command)
      (hkills : after.kills = m.kills) :
      Course retryDelay limit command m (none, after)
  | ended {outcomes : List Launch} {begun : Nat} {finding : Finding} {after : Machine}
      (hfinds : Finds retryDelay limit command m outcomes begun finding)
      (hlaunches : after.launches = m.launches ++ List.replicate outcomes.length command)
      (hkills : after.kills = m.kills + finding.kills)
      (hnow : limit ≠ .zero → after.now ≤ wakeUp begun limit) :
      Course retryDelay limit command m (some (finding.result command.program limit), after)

theorem run_course {line : String} (htokens : CommandLine.tokenize line = some command)
    (retryDelay limit : Duration) (m : Machine) :
    Course retryDelay limit command m (run retryDelay line limit m) := by
  have hstart := start_started retryDelay command m
  unfold run
  simp only [htokens]
  generalize start retryDelay command m = answer at hstart
  cases hstart with
  | @failed outcomes begun error after hattempts hlast htried =>
    have hnow : after.now ≤ wakeUp begun limit := by
      have hle := le_wakeUp begun limit
      have hbegun := htried.now
      omega
    exact .ended (.unstarted hattempts hlast) htried.launches htried.kills (fun _ => hnow)
  | @gave outcomes begun process started hattempts hlast htried =>
    have hwatch := watch_waited limit command.program process started
    show Course retryDelay limit command m (watch command.program limit process started)
    generalize watch command.program limit process started = answer at hwatch
    cases hwatch with
    | endless hlimit hhangs hlaunches hkills =>
      exact .endless hattempts hlast hlimit hhangs (hlaunches.trans htried.launches)
        (hkills.trans htried.kills)
    | ended hawaited hlaunches hkills hnow =>
      rw [htried.now] at hawaited hnow
      rw [htried.kills] at hkills
      exact .ended (.awaited hattempts hlast hawaited) (hlaunches.trans htried.launches) hkills hnow

theorem run_of_no_word {line : String} (htokens : CommandLine.tokenize line = none)
    (retryDelay limit : Duration) (m : Machine) :
    run retryDelay line limit m = (some (.failed .emptyCommand), m) := by
  simp only [run, htokens]

/-- A line without a word fails and starts nothing; any other line starts its command line, and
only that. -/
theorem run_cases (retryDelay : Duration) (line : String) (limit : Duration) (m : Machine) :
    run retryDelay line limit m = (some (.failed .emptyCommand), m) ∨
      ∃ command n, CommandLine.tokenize line = some command ∧
        (run retryDelay line limit m).2.launches = m.launches ++ List.replicate n command := by
  cases htokens : CommandLine.tokenize line with
  | none => exact .inl (run_of_no_word htokens retryDelay limit m)
  | some command =>
    right
    have hcourse := run_course htokens retryDelay limit m
    generalize run retryDelay line limit m = answer at hcourse
    cases hcourse with
    | @endless outcomes _ _ _ _ _ _ _ hlaunches => exact ⟨command, outcomes.length, rfl, hlaunches⟩
    | @ended outcomes _ _ _ _ hlaunches => exact ⟨command, outcomes.length, rfl, hlaunches⟩

end Executor

end TransferGateway
