import TransferGateway.Hook.Gateway
import TransferGateway.Proofs.Execution.Course

/-!
# The account of a run

Every run that returns can be accounted for: how often its command line was started, what became
of the process, what was killed, and which of all this the result tells.  No process that was
started is left behind: it was seen to exit, or it was killed.
-/

namespace TransferGateway.Executor

variable {retryDelay limit : Duration} {command : CommandLine} {m after : Machine}
  {outcomes : List Launch} {begun : Nat} {finding : Finding} {result : RunResult} {line : String}

/-- A run ends well with exit code zero alone, and with a warning with exit code one alone. -/
theorem Finding.status_iff (finding : Finding) :
    (finding.status = .ok ↔ finding = .exited (some 0)) ∧
      (finding.status = .warning ↔ finding = .exited (some 1)) := by
  cases finding with
  | exited code =>
    by_cases hzero : code = some 0
    · simp [status, hzero]
    · by_cases hone : code = some 1 <;> simp [status, hzero, hone]
  | _ => simp [status]

theorem Finding.exists_cause (program : String) (limit : Duration)
    (hfailed : finding.status = .failed) : ∃ cause, finding.cause? program limit = some cause := by
  cases finding with
  | exited code =>
    have hzero : code ≠ some 0 := by
      rintro rfl
      cases hfailed
    exact ⟨.exit program code, if_neg hzero⟩
  | unstarted attempts error => exact ⟨_, rfl⟩
  | unwaited error => exact ⟨_, rfl⟩
  | overdue => exact ⟨_, rfl⟩

/-- A run that got a process saw it exit, and killed nothing, or else has to kill it once. -/
theorem Awaited.kills_cases {process : Process} (h : Awaited limit process begun finding) :
    ((∃ code, finding = .exited code) ∧ finding.kills = 0) ∨
      ((finding = .overdue ∨ ∃ error, finding = .unwaited error) ∧ finding.kills = 1) := by
  cases h with
  | @exited code => exact .inl ⟨⟨code, rfl⟩, rfl⟩
  | @unwaited error => exact .inr ⟨.inr ⟨error, rfl⟩, rfl⟩
  | overdue => exact .inr ⟨.inl rfl, rfl⟩

/-- The account of a run that returned. -/
structure Account (retryDelay limit : Duration) (command : CommandLine) (m : Machine)
    (result : RunResult) (after : Machine) (outcomes : List Launch) (begun : Nat)
    (finding : Finding) : Prop where
  /-- The starts and the finding are those of the run, and no others are. -/
  found : ∀ outcomes' begun' finding',
    Finds retryDelay limit command m outcomes' begun' finding' ↔
      outcomes' = outcomes ∧ begun' = begun ∧ finding' = finding
  launches : after.launches = m.launches ++ List.replicate outcomes.length command
  attempts : outcomes.length = 1 ∨ outcomes.length = 2
  again_iff : outcomes.length = 2 ↔ m.Lacks command
  /-- A failure of the last start is final. -/
  unstarted : ∀ error, outcomes.getLast? = some (.fails error) →
    result = .failed (.spawn command.program outcomes.length error)
  one_process : (processesOf outcomes).length ≤ 1
  /-- A process is seen to exit, or it is killed once. -/
  disposed : ∀ process ∈ processesOf outcomes,
    ((∃ code, finding = .exited code) ∧ after.kills = m.kills) ∨
      ((finding = .overdue ∨ ∃ error, finding = .unwaited error) ∧ after.kills = m.kills + 1)
  spared : processesOf outcomes = [] → after.kills = m.kills
  ok_iff : result.status = .ok ↔ finding = .exited (some 0)
  warning_iff : result.status = .warning ↔ finding = .exited (some 1)
  told : result.cause = finding.cause? command.program limit
  /-- The cause names the finding. -/
  named : Finding.ofCause? result.cause = some finding

theorem account_of_finds (hfinds : Finds retryDelay limit command m outcomes begun finding)
    (hlaunches : after.launches = m.launches ++ List.replicate outcomes.length command)
    (hkills : after.kills = m.kills + finding.kills) :
    Account retryDelay limit command m (finding.result command.program limit) after outcomes begun
      finding where
  found outcomes' begun' finding' := by
    constructor
    · exact fun h => h.unique hfinds
    · rintro ⟨rfl, rfl, rfl⟩
      exact hfinds
  launches := hlaunches
  attempts := hfinds.attempts.first_cases.imp (fun h => h.2.1) (fun h => h.2.1)
  again_iff := by
    rcases hfinds.attempts.first_cases with ⟨hstands, hone, -⟩ | ⟨hlacks, htwo, -⟩
    · simp [hstands, hone]
    · simp [hlacks, htwo]
  unstarted error hlast := by
    have hfound : Finds retryDelay limit command m outcomes begun
        (.unstarted outcomes.length error) := .unstarted hfinds.attempts hlast
    obtain ⟨-, -, rfl⟩ := hfinds.unique hfound
    rfl
  one_process := by
    rcases hfinds.process_cases with ⟨hnone, -⟩ | ⟨process, hone, -⟩
    · simp [hnone]
    · simp [hone]
  disposed process hprocess := by
    rcases hfinds.process_cases with ⟨hnone, -⟩ | ⟨process', -, hawaited⟩
    · simp [hnone] at hprocess
    · rcases hawaited.kills_cases with ⟨hexited, hzero⟩ | ⟨hleft, hone⟩
      · exact .inl ⟨hexited, by rw [hkills, hzero, Nat.add_zero]⟩
      · exact .inr ⟨hleft, by rw [hkills, hone]⟩
  spared hspared := by
    rcases hfinds.process_cases with ⟨-, error, rfl⟩ | ⟨process, hone, -⟩
    · exact hkills
    · simp [hone] at hspared
  ok_iff := finding.status_iff.1
  warning_iff := finding.status_iff.2
  told := rfl
  named := finding.ofCause?_cause? command.program limit

theorem Account.exists_cause
    (h : Account retryDelay limit command m result after outcomes begun finding)
    (hfailed : result.status = .failed) : ∃ cause, result.cause = some cause := by
  have hfinding : finding.status = .failed := by
    cases hstatus : finding.status with
    | failed => rfl
    | ok => simp [h.ok_iff.2 (finding.status_iff.1.1 hstatus)] at hfailed
    | warning => simp [h.warning_iff.2 (finding.status_iff.2.1 hstatus)] at hfailed
  rw [h.told]
  exact Finding.exists_cause command.program limit hfinding

/-- A failure is passed on with its own cause, never with the one that stands in for a missing
cause. -/
theorem verdict_of_cause {cause : RunError} (text : String) (hfailed : result.status = .failed)
    (hcause : result.cause = some cause) :
    Gateway.verdict text result = .error (.ofRun cause) := by
  simp [Gateway.verdict, RunResult.isSuccess, hfailed, hcause]

theorem exists_account (htokens : CommandLine.tokenize line = some command)
    (hrun : run retryDelay line limit m = (some result, after)) :
    ∃ outcomes begun finding,
      Account retryDelay limit command m result after outcomes begun finding := by
  have hcourse := run_course htokens retryDelay limit m
  rw [hrun] at hcourse
  cases hcourse with
  | ended hfinds hlaunches hkills hnow => exact ⟨_, _, _, account_of_finds hfinds hlaunches hkills⟩

theorem launches_eq_iff (hrun : run retryDelay line limit m = (some result, after)) :
    after.launches = m.launches ↔ wordsOf line = [] := by
  rw [← CommandLine.tokenize_eq_none_iff]
  cases htokens : CommandLine.tokenize line with
  | none =>
    rw [run_of_no_word htokens] at hrun
    cases hrun
    exact ⟨fun _ => rfl, fun _ => rfl⟩
  | some command =>
    obtain ⟨outcomes, begun, finding, haccount⟩ := exists_account htokens hrun
    refine ⟨fun hsame => ?_, nofun⟩
    have hlength := congrArg List.length (haccount.launches.symm.trans hsame)
    have hattempts := haccount.attempts
    simp only [List.length_append, List.length_replicate] at hlength
    omega

theorem exists_cause_of_run (hrun : run retryDelay line limit m = (some result, after))
    (hfailed : result.status = .failed) : ∃ cause, result.cause = some cause := by
  cases htokens : CommandLine.tokenize line with
  | none =>
    rw [run_of_no_word htokens] at hrun
    cases hrun
    exact ⟨.emptyCommand, rfl⟩
  | some command =>
    obtain ⟨outcomes, begun, finding, haccount⟩ := exists_account htokens hrun
    exact haccount.exists_cause hfailed

/-- The account of every run that returns.  Nothing is started for a line without a word; for any
other line all the starts and the result are accounted for; and a failure always has a cause of
its own to pass on. -/
theorem run_accounted (hrun : run retryDelay line limit m = (some result, after)) :
    (after.launches = m.launches ↔ wordsOf line = []) ∧
    (wordsOf line = [] → result = .failed .emptyCommand ∧ after.kills = m.kills) ∧
    (∀ command, CommandLine.tokenize line = some command →
      ∃ outcomes begun finding,
        Account retryDelay limit command m result after outcomes begun finding) ∧
    (result.status = .failed → ∃ cause, result.cause = some cause ∧
      ∀ text, Gateway.verdict text result = .error (.ofRun cause)) := by
  refine ⟨launches_eq_iff hrun, fun hwords => ?_, fun command htokens => ?_, fun hfailed => ?_⟩
  · have htokens := (CommandLine.tokenize_eq_none_iff line).2 hwords
    rw [run_of_no_word htokens] at hrun
    cases hrun
    exact ⟨rfl, rfl⟩
  · exact exists_account htokens hrun
  · obtain ⟨cause, hcause⟩ := exists_cause_of_run hrun hfailed
    exact ⟨cause, hcause, fun text => verdict_of_cause text hfailed hcause⟩

/-- A machine on which the first start lacks resources; the process of the second cannot be
waited for, nor killed. -/
def unruly : Machine where
  script := [.fails (.number 11),
    .starts {
      ending := .waitFails (SystemError.kind ErrorKind.brokenPipe) (.ofMillis 5)
      killError := some (.number 3) }]

/-- The same machine once `convert --all` has been run on it. -/
def unrulyAfter : Machine where
  now := 105 * Duration.perMilli
  launches := [⟨"convert", ["--all"]⟩, ⟨"convert", ["--all"]⟩]
  kills := 1

theorem unruly_accounted :
    run (.ofMillis 100) "convert --all" .zero unruly =
      (some (.failed (.wait "convert" (SystemError.kind ErrorKind.brokenPipe))), unrulyAfter) ∧
    ∃ outcomes begun,
      Finds (.ofMillis 100) .zero ⟨"convert", ["--all"]⟩ unruly outcomes begun
        (.unwaited (SystemError.kind ErrorKind.brokenPipe)) ∧
      outcomes.length = 2 := by
  have htokens : CommandLine.tokenize "convert --all" = some ⟨"convert", ["--all"]⟩ := by
    decide +kernel
  have hrun : run (.ofMillis 100) "convert --all" .zero unruly =
      (some (.failed (.wait "convert" (SystemError.kind ErrorKind.brokenPipe))), unrulyAfter) := by
    simp only [run, htokens]
    rfl
  obtain ⟨-, -, haccounts, -⟩ := run_accounted hrun
  obtain ⟨outcomes, begun, finding, haccount⟩ := haccounts _ htokens
  have hfinding : .unwaited (SystemError.kind ErrorKind.brokenPipe) = finding :=
    Option.some.inj haccount.named
  have hfinds := (haccount.found outcomes begun _).2 ⟨rfl, rfl, hfinding⟩
  exact ⟨hrun, outcomes, begun, hfinds, haccount.again_iff.2 ⟨.number 11, rfl, .tryAgain⟩⟩

end TransferGateway.Executor
