import TransferGateway.Proofs.Execution.Course

/-!
# The watchdog

Whether a run times out depends on the clock alone.  With a limit every run returns, no later
than the deadline that the limit sets from the last start on, and it times out exactly when its
process is not over by then.  Without a limit nothing times out.  The bound counts instants as the
clock does, in whole milliseconds.
-/

namespace TransferGateway.Executor

variable {retryDelay limit : Duration} {command : CommandLine} {m : Machine}
  {outcomes : List Launch} {begun : Nat} {finding : Finding} {line : String}

/-- Of all findings only an overdue process is told as a timeout. -/
theorem Finding.timedOut_result_iff (finding : Finding) (program : String) (limit : Duration) :
    (finding.result program limit).timedOut = true ↔ finding = .overdue := by
  cases finding with
  | exited code =>
    by_cases hzero : code = some 0
    · simp [result, RunResult.timedOut, cause?, hzero]
    · simp [result, RunResult.timedOut, cause?, hzero, RunError.isTimeout]
  | _ => simp [result, RunResult.timedOut, cause?, RunError.isTimeout]

theorem Finds.overdue_iff {process : Process}
    (h : Finds retryDelay limit command m outcomes begun finding)
    (hprocess : process ∈ processesOf outcomes) :
    finding = .overdue ↔ limit ≠ .zero ∧ ¬ process.OverBy begun (wakeUp begun limit) := by
  rcases h.process_cases with ⟨hnone, -⟩ | ⟨process', hone, hawaited⟩
  · simp [hnone] at hprocess
  · obtain rfl : process = process' := by simpa [hone] using hprocess
    exact hawaited.overdue_iff

theorem Finds.exists_process (h : Finds retryDelay limit command m outcomes begun finding)
    (hkills : finding.kills ≠ 0) :
    ∃ process ∈ processesOf outcomes, Awaited limit process begun finding := by
  rcases h.process_cases with ⟨-, error, rfl⟩ | ⟨process, hone, hawaited⟩
  · exact absurd rfl hkills
  · exact ⟨process, by simp [hone], hawaited⟩

/-- A run under a limit: it is over by the deadline, and it times out just when a process is not
over by then. -/
structure Guarded (limit : Duration) (program : String) (outcomes : List Launch) (begun : Nat)
    (answer : Option RunResult × Machine) : Prop where
  intime : answer.2.now ≤ wakeUp begun limit
  returns : ∃ result, answer.1 = some result ∧
    (∀ process ∈ processesOf outcomes,
      result.timedOut = true ↔ ¬ process.OverBy begun (wakeUp begun limit)) ∧
    (result.timedOut = true →
      result = .failed (.timeout program limit) ∧ processesOf outcomes ≠ [])

/-- A run without a limit: it never times out, and it kills only what cannot be waited for. -/
structure Unguarded (m : Machine) (outcomes : List Launch)
    (answer : Option RunResult × Machine) : Prop where
  never : ∀ result, answer.1 = some result → result.timedOut = false
  spares : answer.2.kills ≠ m.kills →
    ∃ process ∈ processesOf outcomes, ∃ error span, process.ending = .waitFails error span

theorem guarded_of_finds {after : Machine} (hlimited : limit ≠ .zero)
    (hfinds : Finds retryDelay limit command m outcomes begun finding)
    (hnow : after.now ≤ wakeUp begun limit) :
    Guarded limit command.program outcomes begun
      (some (finding.result command.program limit), after) where
  intime := hnow
  returns := by
    refine ⟨_, rfl, fun process hprocess => ?_, fun htimedOut => ?_⟩
    · rw [finding.timedOut_result_iff, hfinds.overdue_iff hprocess]
      exact and_iff_right hlimited
    · obtain rfl := (finding.timedOut_result_iff _ _).1 htimedOut
      obtain ⟨process, hprocess, -⟩ := hfinds.exists_process (by simp [Finding.kills])
      exact ⟨rfl, List.ne_nil_of_mem hprocess⟩

theorem unguarded_of_finds {after : Machine} (hzero : limit = .zero)
    (hfinds : Finds retryDelay limit command m outcomes begun finding)
    (hkills : after.kills = m.kills + finding.kills) :
    Unguarded m outcomes (some (finding.result command.program limit), after) where
  never := by
    rintro _ ⟨⟩
    rw [← Bool.not_eq_true, finding.timedOut_result_iff]
    rintro rfl
    obtain ⟨process, hprocess, hawaited⟩ := hfinds.exists_process (by simp [Finding.kills])
    exact (hawaited.overdue_iff.1 rfl).1 hzero
  spares hkilled := by
    have hkilled : finding.kills ≠ 0 := by
      intro hnone
      rw [hnone] at hkills
      exact hkilled hkills
    obtain ⟨process, hprocess, hawaited⟩ := hfinds.exists_process hkilled
    cases hawaited with
    | exited => exact absurd rfl hkilled
    | @unwaited error span hending => exact ⟨process, hprocess, error, span, hending⟩
    | overdue hlimited => exact absurd hzero hlimited

/-- A limit is counted from the start that succeeded, after the pause if there was one; under it
every run returns by the deadline, and its process is timed out exactly if it is not over on the
deadline.  Without a limit there are no timeouts. -/
theorem watchdog_exact (htokens : CommandLine.tokenize line = some command)
    (retryDelay limit : Duration) (m : Machine) :
    ∃ outcomes begun, Attempts retryDelay command m outcomes begun ∧
      (m.Lacks command →
        begun = wakeUp m.now retryDelay ∧ m.now + retryDelay.nanoseconds ≤ begun) ∧
      (¬ m.Lacks command → begun = m.now) ∧
      (limit ≠ .zero →
        Guarded limit command.program outcomes begun (run retryDelay line limit m)) ∧
      (limit = .zero → Unguarded m outcomes (run retryDelay line limit m)) := by
  have hbegun {outcomes : List Launch} {begun : Nat}
      (hattempts : Attempts retryDelay command m outcomes begun) :
      (m.Lacks command →
        begun = wakeUp m.now retryDelay ∧ m.now + retryDelay.nanoseconds ≤ begun) ∧
      (¬ m.Lacks command → begun = m.now) := by
    rcases hattempts.first_cases with ⟨hstands, -, rfl⟩ | ⟨hlacks, -, rfl⟩
    · exact ⟨fun hlacks => absurd hlacks hstands, fun _ => rfl⟩
    · exact ⟨fun _ => ⟨rfl, le_wakeUp m.now retryDelay⟩, fun hstands => absurd hlacks hstands⟩
  have hcourse := run_course htokens retryDelay limit m
  generalize run retryDelay line limit m = answer at hcourse
  cases hcourse with
  | @endless outcomes begun process after hattempts hlast hzero hhangs hlaunches hkills =>
    obtain ⟨hpaused, hfirst⟩ := hbegun hattempts
    refine ⟨outcomes, begun, hattempts, hpaused, hfirst, fun hlimited => absurd hzero hlimited,
      fun _ => ⟨nofun, fun hkilled => ?_⟩⟩
    exact absurd hkills hkilled
  | @ended outcomes begun finding after hfinds hlaunches hkills hnow =>
    obtain ⟨hpaused, hfirst⟩ := hbegun hfinds.attempts
    exact ⟨outcomes, begun, hfinds.attempts, hpaused, hfirst,
      fun hlimited => guarded_of_finds hlimited hfinds (hnow hlimited),
      fun hzero => unguarded_of_finds hzero hfinds hkills⟩

/-- A machine on which the first start lacks resources and the process of the second exits with
code zero after the given time. -/
def belated (span : Duration) : Machine where
  script := [.fails (SystemError.kind ErrorKind.wouldBlock),
    .starts { ending := .exits (some 0) span }]

/-- Exiting on the deadline is in time, a nanosecond later is not. -/
theorem belated_watched :
    (∃ result, (run (.ofMillis 100) "convert" (.ofMillis 200) (belated (.ofMillis 200))).1 =
      some result ∧ ¬ result.timedOut = true) ∧
    ∃ result, (run (.ofMillis 100) "convert" (.ofMillis 200) (belated ⟨200000001⟩)).1 =
      some result ∧ result.timedOut = true := by
  have htokens : CommandLine.tokenize "convert" = some ⟨"convert", []⟩ := by decide +kernel
  have hreturns (span : Duration) :
      ∃ result, (run (.ofMillis 100) "convert" (.ofMillis 200) (belated span)).1 = some result ∧
        (result.timedOut = true ↔ ¬ 100000000 + span.nanoseconds ≤ 300000000) := by
    obtain ⟨outcomes, begun, hattempts, -, -, hguarded, -⟩ :=
      watchdog_exact htokens (.ofMillis 100) (.ofMillis 200) (belated span)
    have htwice : Attempts (.ofMillis 100) ⟨"convert", []⟩ (belated span) _ _ :=
      .twice rfl .wouldBlock rfl
    obtain ⟨rfl, rfl⟩ := hattempts.unique htwice
    obtain ⟨result, hresult, htimedOut, -⟩ := (hguarded nofun).returns
    have hbegun : wakeUp (belated span).now (.ofMillis 100) = 100000000 := by
      show wakeUp 0 (.ofMillis 100) = 100000000
      decide
    have hdeadline : wakeUp 100000000 (.ofMillis 200) = 300000000 := by decide
    rw [hbegun, hdeadline] at htimedOut
    have hover : Process.OverBy { ending := .exits (some 0) span } 100000000 300000000 ↔
        100000000 + span.nanoseconds ≤ 300000000 := by
      simp [Process.OverBy, Process.lasts?]
    exact ⟨result, hresult, (htimedOut _ (.head _)).trans (not_congr hover)⟩
  obtain ⟨prompt, hprompt, hintime⟩ := hreturns (.ofMillis 200)
  obtain ⟨late, hlate, hovertime⟩ := hreturns ⟨200000001⟩
  exact ⟨⟨prompt, hprompt, fun h => hintime.1 h (by decide)⟩, late, hlate, hovertime.2 (by decide)⟩

end TransferGateway.Executor
