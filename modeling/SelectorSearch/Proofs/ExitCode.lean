import SelectorSearch.CommandLine.Run
import SelectorSearch.Proofs.Conduct

/-!
# Exit Codes and Failures

Whether a search went well is decided twice: the exit code goes by the outcome of the session and
its malformed lines, the dialog by the sections that there are to show. Failures are shown in three
places, by the program for its configuration, and by the command for an error and for a report.

That all this agrees is proved in any host, with any launcher and any log (`SearchLine.endingIn`),
which takes in every way that a session can go. A run of the program is the case of the terminal
with the files around it (`SearchLine.run`).

## Main results

* `Terminal.filterMap_failure?_writes`: the failures that a terminal shows are the dialogs.
* `CommandLine.exitCode_eq_one_iff`: a command ends with one exactly if there is a dialog.
* `CommandLine.failures_endingIn`: what a run shows, and what it ends with.
-/

namespace SelectorSearch

/-! ### Failures on a terminal -/

/-- The text of a failure that is written, for a write that is one. -/
def TerminalWrite.failure? : TerminalWrite → Option String
  | .failure text => some text
  | _ => none

namespace Terminal

/-- What is done to the view shows no failure on the terminal. -/
theorem filterMap_failure?_showView (t : Terminal) (e : ViewEvent) :
    (t.showView e).2.filterMap TerminalWrite.failure? = [] := by
  have hwiping : t.wiping.filterMap TerminalWrite.failure? = [] := by
    rw [wiping]
    split <;> rfl
  cases e with
  | append text =>
      rw [showView, List.filterMap_append, hwiping]
      rfl
  | eraseStatus key => exact hwiping
  | _ => rfl

/-- What is done to the host shows a failure exactly if it is a dialog, and then the text of the
dialog. -/
theorem filterMap_failure?_present (asks : Bool) (t : Terminal) (e : HostEffect) :
    (t.present asks e).2.filterMap TerminalWrite.failure? = e.dialog?.toList := by
  cases e with
  | prompt caption initial => cases asks <;> rfl
  | openView => rfl
  | view e => exact filterMap_failure?_showView t e
  | dialog text => rfl

/-- The failures that a terminal shows are the dialogs among its `events`, in their order, whatever
is logged between them. -/
theorem filterMap_failure?_reactAll (asks : Bool) (t : Terminal) (events : List Event) :
    (reactAll asks t events).2.filterMap TerminalWrite.failure? =
      (events.filterMap Event.effect?).filterMap HostEffect.dialog? := by
  induction events generalizing t with
  | nil => rfl
  | cons e rest ih =>
      rw [reactAll_cons, List.filterMap_append, ih]
      cases e with
      | log r => rfl
      | effect e =>
          have hcons : (Event.effect e :: rest).filterMap Event.effect? =
              e :: rest.filterMap Event.effect? := rfl
          rw [react, filterMap_failure?_present, hcons, List.filterMap_cons]
          cases e.dialog? <;> rfl

/-- **The failures are the dialogs**: those that a new terminal shows for a command are the dialogs
among its `effects`. -/
theorem filterMap_failure?_writes (asks : Bool) (logging : Logging)
    (result : Except SearchError (Option SessionReport)) (effects : List HostEffect) :
    (writes asks (SearchCommand.events logging result effects)).filterMap
        TerminalWrite.failure? =
      effects.filterMap HostEffect.dialog? := by
  rw [writes, filterMap_failure?_reactAll, SearchCommand.filterMap_effect?_events]

end Terminal

namespace CommandLine

/-! ### Exit codes -/

/-- A session ends with one exactly if its report has something to tell. -/
theorem sessionExitCode_eq_one_iff (report : SessionReport) :
    sessionExitCode report = 1 ↔ report.errorMessage ≠ none := by
  by_cases hcancelled : report.outcome = .cancelled
  · simp [sessionExitCode, hcancelled, SessionReport.errorMessage_cancelled hcancelled]
  · rw [Ne, SessionReport.errorMessage_eq_none_iff hcancelled]
    cases h : report.outcome <;> simp_all [sessionExitCode]

/-- A session ends with 130 exactly if it was cancelled. -/
theorem sessionExitCode_eq_cancelled_iff (report : SessionReport) :
    sessionExitCode report = 130 ↔ report.outcome = .cancelled := by
  rw [sessionExitCode]
  cases report.outcome with
  | completed summary => cases report.malformed <;> simp
  | _ => simp

/-- There are three codes that a session ends with: zero, one and 130. -/
theorem sessionExitCode_cases (report : SessionReport) :
    sessionExitCode report = 0 ∨ sessionExitCode report = 1 ∨ sessionExitCode report = 130 := by
  rw [sessionExitCode]
  cases report.outcome with
  | completed summary => cases report.malformed <;> simp
  | _ => simp

/-- A command ends with one exactly if there is one dialog for its result. -/
theorem exitCode_eq_one_iff (result : Except SearchError (Option SessionReport)) :
    exitCode result = 1 ↔ (SearchCommand.dialogs result).length = 1 := by
  match result with
  | .error e => simp [exitCode, SearchCommand.dialogs]
  | .ok none => simp [exitCode, SearchCommand.dialogs]
  | .ok (some report) =>
    rw [exitCode, sessionExitCode_eq_one_iff, SearchCommand.dialogs]
    cases report.errorMessage <;> simp

/-- A command ends with 130 exactly if it had a session that was cancelled. -/
theorem exitCode_eq_cancelled_iff (result : Except SearchError (Option SessionReport)) :
    exitCode result = 130 ↔
      ∃ report, result = .ok (some report) ∧ report.outcome = .cancelled := by
  match result with
  | .error e => simp [exitCode]
  | .ok none => simp [exitCode]
  | .ok (some report) => simp [exitCode, sessionExitCode_eq_cancelled_iff]

/-- There are three codes that a command ends with: zero, one and 130. -/
theorem exitCode_cases (result : Except SearchError (Option SessionReport)) :
    exitCode result = 0 ∨ exitCode result = 1 ∨ exitCode result = 130 := by
  match result with
  | .error e => exact .inr (.inl rfl)
  | .ok none => exact .inl rfl
  | .ok (some report) => exact sessionExitCode_cases report

/-- There is never more than one dialog for the result of a command. -/
theorem length_dialogs_le (result : Except SearchError (Option SessionReport)) :
    (SearchCommand.dialogs result).length ≤ 1 := by
  match result with
  | .error e => exact Nat.le_refl 1
  | .ok none => exact Nat.zero_le 1
  | .ok (some report) =>
    rw [SearchCommand.dialogs]
    cases report.errorMessage <;> simp

/-- A command ends with zero or with 130 exactly if there is no dialog for its result. -/
theorem exitCode_eq_zero_or_cancelled_iff (result : Except SearchError (Option SessionReport)) :
    exitCode result = 0 ∨ exitCode result = 130 ↔ SearchCommand.dialogs result = [] := by
  have hone := exitCode_eq_one_iff result
  rw [← List.length_eq_zero_iff]
  constructor
  · intro h
    have hne : exitCode result ≠ 1 := by rcases h with h | h <;> simp [h]
    have hle := length_dialogs_le result
    have := mt hone.mpr hne
    omega
  · intro h
    have hne : exitCode result ≠ 1 := mt hone.mp (by simp [h])
    rcases exitCode_cases result with h0 | h1 | h130
    · exact .inl h0
    · exact absurd h1 hne
    · exact .inr h130

/-! ### Runs -/

namespace SearchLine

variable {line : SearchLine} {host : Host} {launch : Config → Launcher} {logging : Logging}

/-- The result of a command line in some host, with some `config` and the launcher that belongs to
it. -/
def resultIn (line : SearchLine) (host : Host) (launch : Config → Launcher) (config : Config) :
    Except SearchError (Option SessionReport) :=
  (line.command.run line.paths host (config.override line.overrides)
    (launch (config.override line.overrides))).2

/-- With a configuration that can be had, a run ends with the code of its result. -/
theorem exitCode_endingIn_ok (config : Config) :
    (line.endingIn host (.ok config) launch logging).exitCode =
      exitCode (line.resultIn host launch config) := rfl

/-- With a configuration that can be had, the failures that a run shows are the dialogs of its
result. -/
theorem filterMap_failure?_endingIn_ok (config : Config) :
    (line.endingIn host (.ok config) launch logging).writes.filterMap TerminalWrite.failure? =
      SearchCommand.dialogs (line.resultIn host launch config) := by
  rw [resultIn, ← SearchCommand.filterMap_dialog?_run]
  exact Terminal.filterMap_failure?_writes _ _ _ _

/-- A result without error and without report comes from a question that was dismissed, where there
was a scope. -/
theorem resultIn_eq_ok_none_iff (config : Config) :
    line.resultIn host launch config = .ok none ↔
      (∃ paths, line.command.scope line.paths host.activeFile host.folders = .ok paths) ∧
        host.answer (host.selection.getD "") = none :=
  SearchCommand.run_eq_ok_none_iff

end SearchLine

/-- **Every failure is shown once, and the exit code says so.** An accepted command line runs in
some host, with some outcome of reading the configuration, some launcher and some log; the program
is the case of the terminal. At most one failure is shown: the configuration that cannot be had, the
error of the command, or what its report has to tell. The exit code is one exactly if there is a
failure, and otherwise zero or 130: 130 exactly if the session was cancelled, and zero exactly if
the question was dismissed or the session completed without malformed lines. -/
theorem failures_endingIn (line : SearchLine) (host : Host) (loaded : Except ConfigError Config)
    (launch : Config → Launcher) (logging : Logging) :
    let ending := line.endingIn host loaded launch logging
    let failures := ending.writes.filterMap TerminalWrite.failure?
    let result := line.resultIn host launch
    failures.length ≤ 1 ∧
    (ending.exitCode = 1 ↔ failures.length = 1) ∧
    (ending.exitCode = 0 ∨ ending.exitCode = 130 ↔ failures = []) ∧
    (ending.exitCode = 130 ↔ ∃ config report, loaded = .ok config ∧
      result config = .ok (some report) ∧ report.outcome = .cancelled) ∧
    (ending.exitCode = 0 ↔ ∃ config, loaded = .ok config ∧
      ((∃ paths, line.command.scope line.paths host.activeFile host.folders = .ok paths) ∧
          host.answer (host.selection.getD "") = none ∨
        ∃ report summary, result config = .ok (some report) ∧
          report.outcome = .completed summary ∧ report.malformed = [])) ∧
    (∀ e, loaded = .error e → failures = [e.message]) ∧
    (∀ config, loaded = .ok config →
      (∀ e, result config = .error e → failures = [e.userMessage]) ∧
      ∀ report, result config = .ok (some report) → failures = report.errorMessage.toList) ∧
    ∀ words around, parse words = .ok line →
      CommandLine.run words around = line.endingIn (line.host around)
        (Config.load around.files (Config.searchPaths around.userSettings line.configFile))
        (fun config => config.launch around.files .onInterrupt around.environment)
        (line.logging around) := by
  have hprogram : ∀ words around, parse words = .ok line →
      CommandLine.run words around = line.endingIn (line.host around)
        (Config.load around.files (Config.searchPaths around.userSettings line.configFile))
        (fun config => config.launch around.files .onInterrupt around.environment)
        (line.logging around) := by
    intro words around hp
    rw [CommandLine.run, runIn, hp]
    rfl
  cases loaded with
  | error e =>
      intro ending failures result
      have hexit : ending.exitCode = 1 := rfl
      have hfailures : failures = [e.message] := rfl
      rw [hexit, hfailures]
      refine ⟨Nat.le_refl 1, by simp, by simp, by simp, by simp, ?_, by simp, hprogram⟩
      intro e' h
      rw [Except.error.inj h]
  | ok config =>
      intro ending failures result
      have hexit : ending.exitCode = exitCode (result config) :=
        SearchLine.exitCode_endingIn_ok config
      have hfailures : failures = SearchCommand.dialogs (result config) :=
        SearchLine.filterMap_failure?_endingIn_ok config
      rw [hexit, hfailures]
      refine ⟨length_dialogs_le _, exitCode_eq_one_iff _, exitCode_eq_zero_or_cancelled_iff _, ?_,
        ?_, by simp, ?_, hprogram⟩
      · rw [exitCode_eq_cancelled_iff]
        simp
      · rw [exitCode_eq_zero_iff, SearchLine.resultIn_eq_ok_none_iff]
        simp
      · intro config' h
        obtain rfl := Except.ok.inj h
        refine ⟨fun e he => ?_, fun report hreport => ?_⟩
        · rw [he, SearchCommand.dialogs]
        · rw [hreport, SearchCommand.dialogs]

end CommandLine

end SelectorSearch
