import SelectorSearch.Proofs.Lifecycle

/-!
# What a Session Makes of Its Queue

What arrives in the queue of a session is either taken out by a tick or still there. The messages
that were taken out say everything about a session: as long as it runs it has shown and counted all
of them, and once it has ended it has shown and counted those up to the first summary, and then
ended with some outcome. `Reached` has a constructor for each of the two.

A tick keeps a session in one of the two whatever the state of its surroundings, and nothing else
touches it.

## Main results

* `filterMap_appended?_shown`: what showing some messages appends to the view.
* `reached_step`, `reached_run`: a step and a run, by what they take out of the queue.
* `reached_finish`: a run along a schedule, to its end.
-/

namespace SelectorSearch

open Session

/-! ### Sessions by what they have drained -/

namespace Session

/-- What a session does last, if it has ended: it stops its worker and erases its status. -/
def lastEffects (s : Session) : List SessionEffect :=
  if s.report.isSome then [.stopWorker, .view (.eraseStatus statusKey)] else []

/-- Where a session can be that has `drained` some messages, with what it has done: it is open and
has shown them all, or it has ended. -/
inductive Reached (drained : List Message) : Session → List SessionEffect → Prop where
  | running (h : firstSummary? drained = none) :
      Reached drained (({} : Session).absorb (uptoSummary drained)) (shown (uptoSummary drained))
  | ended (outcome : SessionOutcome) :
      Reached drained ((({} : Session).absorb (uptoSummary drained)).finish outcome.state outcome).1
        (shown (uptoSummary drained) ++ [.stopWorker, .view (.eraseStatus statusKey)])

/-- A new session has drained nothing and done nothing. -/
theorem reached_new : Reached [] {} [] := .running rfl

namespace Reached

variable {drained : List Message} {s : Session} {effects : List SessionEffect}

/-- A session without report has shown and counted all that it has `drained`, and no summary was
among it. -/
theorem of_open (h : Reached drained s effects) (hopen : s.report = none) :
    firstSummary? drained = none ∧ s = ({} : Session).absorb drained ∧ effects = shown drained := by
  cases h with
  | running hnone =>
      rw [uptoSummary_of_none hnone]
      exact ⟨hnone, rfl, rfl⟩
  | ended outcome => cases hopen

/-- A session has shown the messages up to the first summary, and then done what is done last. -/
theorem effects_eq (h : Reached drained s effects) :
    effects = shown (uptoSummary drained) ++ s.lastEffects := by
  cases h with
  | running => exact (List.append_nil _).symm
  | ended outcome => rfl

/-- A session has counted the messages up to the first summary, and no others. -/
theorem stats_eq (h : Reached drained s effects) :
    s.machine.stats = ((uptoSummary drained).foldl count {}).stats := by
  cases h with
  | running => rfl
  | ended outcome => exact SessionMachine.stats_transition _ _

/-- A session keeps the malformed lines up to the first summary, in their order. -/
theorem malformed_eq (h : Reached drained s effects) :
    s.malformed = (uptoSummary drained).filterMap malformedText? := by
  cases h with
  | running => rfl
  | ended outcome => rfl

/-- The report of a session has its counters and its malformed lines. -/
theorem of_report (h : Reached drained s effects) {report : SessionReport}
    (hreport : s.report = some report) :
    report.stats = s.machine.stats ∧ report.malformed = s.malformed := by
  cases h with
  | running => cases hreport
  | ended outcome =>
      obtain rfl := Option.some.inj hreport
      exact ⟨rfl, rfl⟩

end Reached

end Session

/-! ### What the view shows -/

/-- The text that an effect appends to the view, if it does. -/
def SessionEffect.appended? : SessionEffect → Option String
  | .view (.append text) => some text
  | _ => none

/-- Showing a message `m` appends its rendered body, if it has one, and nothing else. -/
theorem filterMap_appended?_events (m : Message) :
    (m.events.map SessionEffect.view).filterMap SessionEffect.appended? = m.render.body.toList := by
  cases m <;> rfl

/-- Showing some messages appends their rendered bodies, in their order. -/
theorem filterMap_appended?_shown (messages : List Message) :
    (shown messages).filterMap SessionEffect.appended? = messages.filterMap (·.render.body) := by
  induction messages with
  | nil => rfl
  | cons m rest ih =>
      rw [← List.singleton_append, shown_append, List.filterMap_append, ih, List.filterMap_append]
      congr 1
      rw [shown, List.flatMap_singleton, filterMap_appended?_events]
      cases hbody : m.render.body <;> simp [hbody]

/-- What a session does last appends nothing to the view. -/
theorem filterMap_appended?_lastEffects (s : Session) :
    s.lastEffects.filterMap SessionEffect.appended? = [] := by
  rw [lastEffects]
  split <;> rfl

/-- A session has appended to the view the bodies of the messages up to the first summary, in their
order. -/
theorem Session.Reached.appended_eq {drained : List Message} {s : Session}
    {effects : List SessionEffect} (h : Reached drained s effects) :
    effects.filterMap SessionEffect.appended? =
      (uptoSummary drained).filterMap (·.render.body) := by
  rw [h.effects_eq, List.filterMap_append, filterMap_appended?_shown,
    filterMap_appended?_lastEffects, List.append_nil]

/-! ### Steps and runs -/

namespace SessionWorld

variable {w : SessionWorld} {drained : List Message} {effects : List SessionEffect}

/-- What a tick of a session without report takes is what it does not leave in the queue. -/
theorem queued_eq_taken_append {s : Session} (h : s.report = none)
    (around : Session.Surroundings) : around.queued = around.taken ++ s.leftQueued around := by
  cases hc : around.closed <;> simp [Surroundings.taken, leftQueued, drains, h, hc]

/-- A tick of a session without report shows and counts what it takes, up to the first summary, and
so reaches the next place. -/
theorem reached_tick (hnone : firstSummary? drained = none) (around : Session.Surroundings) :
    Reached (drained ++ around.taken) ((({} : Session).absorb drained).tick around).1
      (shown drained ++ ((({} : Session).absorb drained).tick around).2) := by
  have hupto : uptoSummary (drained ++ around.taken) = drained ++ uptoSummary around.taken :=
    uptoSummary_append_of_none hnone _
  obtain ⟨-, htaken, htick⟩ | ⟨outcome, -, htick⟩ :=
    tick_cases (s := ({} : Session).absorb drained) rfl around
  · rw [htick, ← absorb_append, ← shown_append, ← hupto]
    exact .running (by rw [firstSummary?_append, hnone, htaken]; rfl)
  · rw [htick, ← absorb_append, ← List.append_assoc, ← shown_append, ← hupto]
    exact .ended outcome

/-- One step takes some messages out of the queue, and the session has drained them after it. -/
theorem reached_step (h : Reached drained w.session effects) (s : SessionStep) :
    ∃ taken, w.around.queued ++ s.message?.toList = taken ++ (w.step s).1.around.queued ∧
      Reached (drained ++ taken) (w.step s).1.session (effects ++ (w.step s).2) := by
  by_cases hs : s = .tick
  · subst hs
    cases hreport : w.session.report with
    | none =>
        obtain ⟨hnone, hsession, rfl⟩ := h.of_open hreport
        refine ⟨w.around.taken, ?_, ?_⟩
        · simpa [SessionStep.message?, step] using queued_eq_taken_append hreport w.around
        · rw [step, hsession]
          exact reached_tick hnone w.around
    | some report =>
        refine ⟨[], ?_, ?_⟩
        · simp [SessionStep.message?, step, leftQueued_of_finished hreport]
        · simpa [step, tick_of_finished hreport] using h
  · refine ⟨[], ?_, ?_⟩
    · cases s <;> simp_all [step, SessionStep.message?]
    · rw [step_report hs]
      cases s <;> simp_all [step]

/-- **A run takes some messages out of the queue**, and the session has drained them after it, by
induction on its steps. -/
theorem reached_run (h : Reached drained w.session effects) (steps : List SessionStep) :
    ∃ taken, w.around.queued ++ steps.filterMap SessionStep.message? =
        taken ++ (w.run steps).1.around.queued ∧
      Reached (drained ++ taken) (w.run steps).1.session (effects ++ (w.run steps).2) := by
  induction steps generalizing w drained effects with
  | nil => exact ⟨[], by simp, by simpa using h⟩
  | cons s rest ih =>
      obtain ⟨now, hnow, hstep⟩ := reached_step h s
      obtain ⟨later, hlater, hrest⟩ := ih hstep
      have hmessages : (s :: rest).filterMap SessionStep.message? =
          s.message?.toList ++ rest.filterMap SessionStep.message? := by
        cases hs : s.message? <;> simp [hs]
      refine ⟨now ++ later, ?_, ?_⟩
      · rw [hmessages, ← List.append_assoc, hnow, List.append_assoc, hlater, run_cons,
          List.append_assoc]
      · rw [run_cons, ← List.append_assoc, ← List.append_assoc]
        exact hrest

/-- A run of a new session: what was queued or arrived is what was `drained` and what is left, and
the session is where the drained messages lead. -/
theorem reached_run_new (around : Session.Surroundings) (steps : List SessionStep) :
    ∃ drained, around.queued ++ steps.filterMap SessionStep.message? =
        drained ++ (({ around } : SessionWorld).run steps).1.around.queued ∧
      Reached drained (({ around } : SessionWorld).run steps).1.session
        (({ around } : SessionWorld).run steps).2 := by
  simpa using @reached_run { around } [] [] reached_new steps

/-- A run along a `schedule` drains some of what is queued or arrives in it, and ends with its
report. -/
theorem reached_runAll (h : Reached drained w.session effects) {ticks : Nat}
    {schedule : List Moment} {f : FinishedRun}
    (hf : w.runAll effects ticks schedule = some f) :
    f.world.session.report = some f.report ∧
      ∃ taken, taken <+: w.around.queued ++ schedule.flatMap Moment.pushed ∧
        Reached (drained ++ taken) f.world.session f.effects := by
  induction schedule generalizing w drained effects ticks with
  | nil =>
      obtain ⟨report, hreport, rfl⟩ := Option.map_eq_some_iff.mp hf
      obtain ⟨taken, hqueued, hreached⟩ := @reached_step
        { w with around := w.around.after { closes := true } } drained effects h .tick
      refine ⟨hreport, taken, ⟨_, hqueued.symm.trans ?_⟩, hreached⟩
      simp [SessionStep.message?, Session.Surroundings.after]
  | cons m rest ih =>
      obtain ⟨taken, hqueued, hreached⟩ := @reached_step
        { w with around := w.around.after m } drained effects h .tick
      have harrived : w.around.queued ++ m.pushed = taken ++
          (step { w with around := w.around.after m } .tick).1.around.queued := by
        simpa [SessionStep.message?, Session.Surroundings.after] using hqueued
      rw [List.flatMap_cons, ← List.append_assoc, harrived, List.append_assoc]
      simp only [runAll] at hf
      split at hf
      · next report hreport =>
          obtain rfl := Option.some.inj hf
          exact ⟨hreport, taken, List.prefix_append _ _, hreached⟩
      · obtain ⟨hreport, later, hlater, hend⟩ := ih hreached hf
        refine ⟨hreport, taken ++ later, List.prefix_append_right_inj _ |>.mpr hlater, ?_⟩
        rwa [← List.append_assoc]

/-- The run of a new session along a `schedule` drains some of the messages that arrive in it, and
ends with its report. -/
theorem reached_finish (schedule : List Moment) :
    (finish schedule).world.session.report = some (finish schedule).report ∧
      ∃ drained, drained <+: schedule.flatMap Moment.pushed ∧
        Reached drained (finish schedule).world.session (finish schedule).effects := by
  have hrun : runAll {} [] 0 schedule = some (finish schedule) := (Option.some_get _).symm
  simpa using reached_runAll reached_new hrun

end SessionWorld

end SelectorSearch
