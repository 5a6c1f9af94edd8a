import DeliveryDesk.Proofs.CommandLine.Execution

/-!
# Every failure is reported once

There are two ways to report a failure: a command complains of it by a notification, or it leaves it
to the program, which prints an error report in the end. `Concludes` lists how a run can conclude,
each time with the exit code and all reports on the error stream, and `failures_are_reported_once`
is the main result: these are all the ways there are. So a run fails exactly if the command has not
achieved what it is for, and then there is one report and not two; a run that succeeds only
complains where a change was accepted and the subscriptions could not be listed again.

The log goes to the error stream as well. Its records are no reports: they are there for some calls
that failed and not for others, and also where a command makes do without the answer and succeeds.
What there is of them is up to the log filter.
-/

namespace DeliveryDesk.CommandLine

open Console Errand

/-- How a run concludes: its exit code, and what is reported on the error stream. -/
inductive Concludes (v : Viewer) (verbose : Bool) (achieved : Prop) (t : List Event) :
    UInt8 → List String → Prop where
  | succeeded (h : achieved) : Concludes v verbose achieved t success []
  | reloadFailed (h : achieved) {fault : Fault} (reload : ReloadFails t fault) :
    Concludes v verbose achieved t success
      [complaint v (Notification.failure "load subscriptions" fault).message]
  | complained (h : ¬ achieved) (message : String) :
    Concludes v verbose achieved t failure [complaint v message]
  | reported (h : ¬ achieved) (message : String) (causes : List String) :
    Concludes v verbose achieved t failure (errorReport v verbose message causes)

/-- A complaint of a command and the report of its failure exclude each other. -/
theorem Conduct.concludes {v : Viewer} {achieved : List Event → Prop} {t : List Event}
    {r : Except Failure Unit} (h : Conduct v achieved t r) (verbose : Bool) :
    Concludes v verbose (achieved t) t (exitCode r)
      (Event.errors t ++ finalReport v verbose r) := by
  cases r with
  | ok done =>
    have achieves := h.ok_iff.mp rfl
    rw [finalReport, List.append_nil]
    rcases h.reports with nothing | ⟨fault, reload, complains⟩
    · rw [nothing]
      exact .succeeded achieves
    · rw [complains]
      exact .reloadFailed achieves reload
  | error failure =>
    have unachieved : ¬ achieved t := by
      intro achieves
      cases h.ok_iff.mpr achieves
    cases failure with
    | reported =>
      obtain ⟨message, complains⟩ := h.reports
      rw [complains]
      exact .complained unachieved message
    | failed message causes =>
      have silent : Event.errors t = [] := h.reports
      rw [silent]
      exact .reported unachieved message causes

variable {σ : Type}

/-- **Every failure is reported exactly once, and the exit code tells of it.** A command line that
is understood and whose command does without prompts comes to its end, whatever the service answers
and whatever the files hold. Apart from a warning about logging, the lines on the error stream are
what `Concludes` says; all else that is written there are log records that the filter lets
through. -/
theorem failures_are_reported_once (exchange : HttpRequest → σ → HttpOutcome × σ) (v : Viewer)
    (env : Environment) (rounds : Nat) (words : List String) (w : World σ) {i : Invocation}
    (parsed : Invocation.parse (w.environment env) words = .ok i)
    (unprompted : i.command.isUnprompted = true) :
    ∃ code reports records,
      (Run.play exchange (program v env rounds words) w).1 = some code ∧
      (Run.play exchange (program v env rounds words) w).2.errors =
        w.errors ++ unloggedWarning (i.viewer v) (w.environment env) i ++ reports ∧
      (Run.play exchange (program v env rounds words) w).2.log.written =
        w.log.written ++ records ∧
      (∀ record ∈ records, ∃ filter, logFilter? (w.environment env) i = some filter ∧
        w.log.admits filter record = true) ∧
      Concludes (i.viewer v) i.verbose
        (i.Achieves (w.environment env) (i.trace exchange v env rounds w))
        (i.trace exchange v env rounds w) code reports := by
  obtain ⟨r, conduct, hcode, -, herrors, hlog⟩ :=
    play_program exchange v parsed (execute_conduct rounds unprompted)
  obtain ⟨records, taken, hrecords⟩ := hlog
  refine ⟨exitCode r, _, records, hcode, herrors, ?_, ?_, conduct.concludes i.verbose⟩
  · rw [hrecords]
    rfl
  · exact fun record h => Log.takes_iff.mp (taken record h)

/-- Without a service the health cannot be shown, and the exit code says so. There is one report,
and a warning in the log. -/
theorem failures_are_reported_once_unreachable :
    ∃ i, Invocation.parse (bareWorld.environment namedFile) ["health"] = .ok i ∧
      i.command.isUnprompted = true ∧
      (Run.play unreachable (program {} namedFile 0 ["health"]) bareWorld).1 = some failure ∧
      (Run.play unreachable (program {} namedFile 0 ["health"]) bareWorld).2.errors =
        ["✗ Failed to load health status: request failed: error sending request"] ∧
      (Run.play unreachable (program {} namedFile 0 ["health"]) bareWorld).2.log.written =
        [HealthPanel.checkFailed Client.noAnswer] ∧
      ¬ i.Achieves (bareWorld.environment namedFile)
        (i.trace unreachable {} namedFile 0 bareWorld) := by
  have parsed : Invocation.parse (bareWorld.environment namedFile) ["health"] =
      .ok ⟨{}, defaultLogFilter, false, true, .health⟩ := by decide +kernel
  have failed : (Run.play unreachable (program {} namedFile 0 ["health"]) bareWorld).1 =
      some failure := by decide +kernel
  refine ⟨_, parsed, rfl, failed, by decide +kernel, by decide +kernel, ?_⟩
  obtain ⟨code, reports, records, hcode, -, -, -, concludes⟩ :=
    failures_are_reported_once unreachable {} namedFile 0 ["health"] bareWorld parsed rfl
  have hfailure : code = failure := Option.some.inj (hcode.symm.trans failed)
  cases concludes with
  | succeeded h => exact absurd hfailure (by decide)
  | reloadFailed h reload => exact absurd hfailure (by decide)
  | complained h message => exact h
  | reported h message causes => exact h

end DeliveryDesk.CommandLine
