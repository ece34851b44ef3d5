import SelectorSearch.Session.Run

/-!
# The Life of a Session

A session ends once. Six ways lead there, through a closed view, a summary and four final statuses
of the worker, and all of them end in the same act: the state becomes that of the outcome, the
worker is stopped, the status of the view is erased, and the report is kept. `tick_cases` says this
once for all six.

Whatever happens around a session, its life therefore has two parts. Before the end every tick
leaves it running and does none of these things (`IsOpen.tick`); after it no tick does anything
(`finished_run`).

## Main results

* `tick_cases`: what a tick can make of a session without report.
* `open_or_ends`: a run leaves the session open, or has a first tick that finishes.
* `ends_once_then_rests`: what holds before that tick, what it does, and what holds after it.
-/

namespace SelectorSearch

/-- Whether an effect belongs to the end of a session: it stops the worker, or erases the status. -/
def SessionEffect.isEnding : SessionEffect → Bool
  | .stopWorker => true
  | .view (.eraseStatus _) => true
  | .view _ => false

/-- Showing messages ends nothing: none of the effects that `shown` gives is an ending one. -/
theorem isEnding_of_mem_shown {messages : List Message} {e : SessionEffect}
    (h : e ∈ shown messages) : e.isEnding = false := by
  obtain ⟨v, hv, rfl⟩ := List.mem_map.mp h
  obtain ⟨m, -, hm⟩ := List.mem_flatMap.mp hv
  obtain hs | hb := List.mem_append.mp hm
  · obtain ⟨text, -, rfl⟩ := by simpa using hs
    rfl
  · obtain ⟨text, -, rfl⟩ := by simpa using hb
    rfl

/-! ### States and outcomes -/

namespace SessionOutcome

theorem state_eq_completed_iff (o : SessionOutcome) :
    o.state = .completed ↔ ∃ summary, o = .completed summary := by
  cases o <;> simp [state]

theorem state_eq_cancelled_iff (o : SessionOutcome) : o.state = .cancelled ↔ o = .cancelled := by
  cases o <;> simp [state]

theorem state_eq_failed_iff (o : SessionOutcome) :
    o.state = .failed ↔ (∃ code, o = .abnormalExit code) ∨ (∃ reason, o = .failed reason) ∨
      ∃ message, o = .workerError message := by
  cases o <;> simp [state]

end SessionOutcome

/-! ### One tick -/

namespace Session

variable {s : Session} {around : Surroundings} {report : SessionReport}

/-- A session that has not ended: its state is `running`, and it has no report. -/
structure IsOpen (s : Session) : Prop where
  no_report : s.report = none
  running : s.machine.state = .running

/-- Messages do not change the state of a machine, whatever they do to its counters. -/
theorem state_count (machine : SessionMachine) (m : Message) :
    (count machine m).state = machine.state := by
  obtain ⟨state, stats⟩ := machine
  change (count ⟨state, stats⟩ m).state = state
  cases m <;> rfl

theorem state_absorb (s : Session) (messages : List Message) :
    (s.absorb messages).machine.state = s.machine.state := by
  change (messages.foldl count s.machine).state = _
  induction messages generalizing s with
  | nil => rfl
  | cons m rest ih => exact (ih { s with machine := count s.machine m }).trans (state_count _ m)

/-- Messages leave an open session open, since only a tick makes a report. -/
theorem IsOpen.absorb (h : s.IsOpen) (messages : List Message) : (s.absorb messages).IsOpen where
  no_report := h.no_report
  running := (state_absorb s messages).trans h.running

/-- The messages that a tick of a session without report takes from the queue: all, or none if the
view is closed. -/
def Surroundings.taken (around : Surroundings) : List Message :=
  if around.closed then [] else around.queued

/-- **What a tick can make of a session without report**: it shows the messages that it takes and
goes on, or it shows those up to the first summary and ends with an `outcome`. With the view closed
it is cancelled. -/
theorem tick_cases (h : s.report = none) (around : Surroundings) :
    (around.closed = false ∧ firstSummary? around.taken = none ∧
      s.tick around = (s.absorb (uptoSummary around.taken), shown (uptoSummary around.taken))) ∨
    ∃ outcome, (around.closed = true → outcome = .cancelled) ∧
      s.tick around = (((s.absorb (uptoSummary around.taken)).finish outcome.state outcome).1,
        shown (uptoSummary around.taken) ++ [.stopWorker, .view (.eraseStatus statusKey)]) := by
  cases hc : around.closed with
  | true =>
      have htaken : around.taken = [] := by simp [Surroundings.taken, hc]
      refine .inr ⟨.cancelled, fun _ => rfl, ?_⟩
      simp [tick, h, hc, htaken, uptoSummary, finish, SessionOutcome.state]
  | false =>
      have htaken : around.taken = around.queued := by simp [Surroundings.taken, hc]
      have htick : s.tick around = s.conclude around.status around.queued := by
        simp [tick, h, hc]
      rw [htick, htaken]
      cases hq : firstSummary? around.queued with
      | some done =>
          exact .inr ⟨.completed done, by simp, conclude_of_some hq s around.status⟩
      | none =>
          rw [uptoSummary_of_none hq]
          cases ho : around.status.outcome? with
          | none =>
              refine .inl ⟨rfl, rfl, ?_⟩
              rw [conclude_of_none hq, obey_of_none ho, List.append_nil]
          | some outcome =>
              exact .inr ⟨outcome, by simp, by rw [conclude_of_none hq, obey_of_some ho]; rfl⟩

/-- What the tick does that ends a session with a `report`: its answer, what it leaves, and its
effects and calls in their order. -/
structure Ends (s : Session) (around : Surroundings) (report : SessionReport) : Prop where
  answers : s.answer around = .finished report
  keeps : (s.tick around).1.report = some report
  /-- The worker is stopped once and the status erased once, after everything else. -/
  effects : ∃ before, (s.tick around).2 =
      before ++ [.stopWorker, .view (.eraseStatus statusKey)] ∧ ∀ e ∈ before, e.isEnding = false
  state : (s.tick around).1.machine.state = report.outcome.state
  stats : report.stats = (s.tick around).1.machine.stats
  malformed : report.malformed = (s.tick around).1.malformed
  /-- With the view closed nothing is shown and the queue is left as it is. -/
  closed : around.closed = true → report.outcome = .cancelled ∧
    (s.tick around).2 = [.stopWorker, .view (.eraseStatus statusKey)] ∧
    s.leftQueued around = around.queued

/-- A tick leaves an open session open and ends nothing, or it `Ends` the session. -/
theorem IsOpen.tick (h : s.IsOpen) (around : Surroundings) :
    (s.answer around = .pending ∧ (s.tick around).1.IsOpen ∧
      ∀ e ∈ (s.tick around).2, e.isEnding = false) ∨
    ∃ report, s.Ends around report := by
  have hopen := h.absorb (uptoSummary around.taken)
  obtain ⟨-, -, htick⟩ | ⟨outcome, hclosed, htick⟩ := tick_cases h.no_report around
  · refine .inl ⟨?_, ?_, ?_⟩
    · rw [Session.answer, htick, hopen.no_report]
    · rw [htick]
      exact hopen
    · rw [htick]
      exact fun e he => isEnding_of_mem_shown he
  · have hreport := finish_report (s.absorb (uptoSummary around.taken)) outcome.state outcome
    refine .inr ⟨⟨outcome, (s.absorb (uptoSummary around.taken)).machine.stats,
      (s.absorb (uptoSummary around.taken)).malformed⟩, ?_⟩
    constructor
    · rw [Session.answer, htick, hreport]
    · rw [htick, hreport]
    · rw [htick]
      exact ⟨shown (uptoSummary around.taken), rfl, fun e he => isEnding_of_mem_shown he⟩
    · rw [htick]
      simp [finish, SessionMachine.transition, hopen.running, SessionState.isTerminal]
    · rw [htick]
      exact (SessionMachine.stats_transition _ _).symm
    · rw [htick]
      rfl
    · intro hc
      have htaken : around.taken = [] := by simp [Surroundings.taken, hc]
      rw [htick, htaken]
      exact ⟨hclosed hc, rfl, by simp [leftQueued, drains, hc]⟩

end Session

/-! ### Runs -/

namespace SessionWorld

open Session

variable {w : SessionWorld} {report : SessionReport}

/-- No tick of a run finishes: the session is open after it, every answer is `pending`, and nothing
has ended. -/
structure StaysOpen (w : SessionWorld) (steps : List SessionStep) : Prop where
  pending : ∀ t ∈ w.ticks steps, t.answer = .pending
  isOpen : (w.run steps).1.session.IsOpen
  effects : ∀ e ∈ (w.run steps).2, e.isEnding = false

/-- Two runs `a` and `b` in which no tick finishes make one run in which none does. -/
theorem StaysOpen.append {a b : List SessionStep} (ha : w.StaysOpen a)
    (hb : (w.run a).1.StaysOpen b) : w.StaysOpen (a ++ b) := by
  refine ⟨?_, ?_, ?_⟩
  · rw [ticks_append]
    exact fun t ht => (List.mem_append.mp ht).elim (ha.pending t) (hb.pending t)
  · rw [run_append]
    exact hb.isOpen
  · rw [run_append]
    exact fun e he => (List.mem_append.mp he).elim (ha.effects e) (hb.effects e)

/-- One step of an open session leaves it open, unless it is a tick that `Ends` it. -/
theorem isOpen_step (h : w.session.IsOpen) (s : SessionStep) :
    w.StaysOpen [s] ∨ s = .tick ∧ ∃ report, w.session.Ends w.around report := by
  by_cases hs : s = .tick
  · subst hs
    obtain ⟨hanswer, hopen, heffects⟩ | hends := h.tick w.around
    · refine .inl ⟨by simpa [ticks_tick, tickRecord] using hanswer, hopen, ?_⟩
      simpa [run_cons, step] using heffects
    · exact .inr ⟨rfl, hends⟩
  · refine .inl ⟨by simp [ticks_of_ne hs], ?_, ?_⟩
    · rw [run_cons, run_nil, step_report hs]
      exact h
    · cases s <;> simp_all [run_cons, step]

/-- **A run of an open session leaves it open**, or has a first tick that `Ends` it. -/
theorem open_or_ends (h : w.session.IsOpen) (steps : List SessionStep) :
    w.StaysOpen steps ∨
    ∃ before after report, steps = before ++ .tick :: after ∧ w.StaysOpen before ∧
      (w.run before).1.session.Ends (w.run before).1.around report := by
  induction steps generalizing w with
  | nil => exact .inl ⟨by simp, h, by simp⟩
  | cons s rest ih =>
      obtain hstep | ⟨rfl, report, hends⟩ := isOpen_step h s
      · obtain hrest | ⟨before, after, report, rfl, hbefore, hends⟩ := ih hstep.isOpen
        · exact .inl (hstep.append hrest)
        · exact .inr ⟨s :: before, after, report, rfl, hstep.append hbefore, by rwa [run_cons]⟩
      · exact .inr ⟨[], rest, report, rfl, ⟨by simp, h, by simp⟩, hends⟩

/-- A session that has a report rests, whatever happens around it: its ticks call nothing and answer
with the report, and what is queued stays in the queue. -/
theorem finished_run (h : w.session.report = some report) (steps : List SessionStep) :
    (w.run steps).1.session = w.session ∧ (w.run steps).2 = [] ∧
      (w.run steps).1.around.queued = w.around.queued ++ steps.filterMap SessionStep.message? ∧
      ∀ t ∈ w.ticks steps, t = ⟨.finished report, []⟩ := by
  induction steps generalizing w with
  | nil => simp
  | cons s rest ih =>
      have hsession : (w.step s).1.session = w.session := by
        cases s with
        | tick => simp [step, tick_of_finished h]
        | _ => rfl
      have heffects : (w.step s).2 = [] := by
        cases s with
        | tick => simp [step, tick_of_finished h]
        | _ => rfl
      have hqueued : (w.step s).1.around.queued =
          w.around.queued ++ (SessionStep.message? s).toList := by
        cases s <;> simp [step, SessionStep.message?, leftQueued_of_finished h]
      obtain ⟨ihsession, iheffects, ihqueued, ihticks⟩ := ih (hsession ▸ h)
      refine ⟨?_, ?_, ?_, ?_⟩
      · rw [run_cons, ihsession, hsession]
      · rw [run_cons, heffects, iheffects, List.append_nil]
      · rw [run_cons, ihqueued, hqueued]
        cases hm : SessionStep.message? s <;> simp [hm]
      · by_cases hs : s = .tick
        · subst hs
          rw [ticks_tick]
          refine List.forall_mem_cons.mpr ⟨?_, ihticks⟩
          rw [tickRecord, answer_of_finished h, calls_of_finished h]
        · rwa [ticks_of_ne hs]

/-- **A session ends once, and then rests.** As long as no tick finishes, the session runs, has no
report, and neither stops the worker nor erases the status. The first tick that finishes does both
once, after everything else it does to the view, and leaves the state of its outcome and a report
with the counters and malformed lines of the session; if the view is closed it does nothing else.
Every later tick answers with this report and makes no call at all, so the session stays as it is
and later messages stay in the queue. -/
theorem ends_once_then_rests (around : Surroundings) (steps : List SessionStep) :
    let start : SessionWorld := { around }
    let w := (start.run steps).1
    ((∀ t ∈ start.ticks steps, t.answer = .pending) ∧ w.session.machine.state = .running ∧
      w.session.report = none ∧ ∀ e ∈ (start.run steps).2, e.isEnding = false) ∨
    ∃ before after report, steps = before ++ .tick :: after ∧
      (∀ t ∈ start.ticks before, t.answer = .pending) ∧
      (∀ e ∈ (start.run before).2, e.isEnding = false) ∧
      let v := (start.run before).1
      let ended := (v.step .tick).1
      v.session.machine.state = .running ∧ v.session.report = none ∧
      v.session.Ends v.around report ∧
      (ended.session.machine.state = .completed ↔ ∃ done, report.outcome = .completed done) ∧
      (ended.session.machine.state = .cancelled ↔ report.outcome = .cancelled) ∧
      (ended.session.machine.state = .failed ↔ (∃ code, report.outcome = .abnormalExit code) ∨
        (∃ reason, report.outcome = .failed reason) ∨
        ∃ message, report.outcome = .workerError message) ∧
      (∀ t ∈ ended.ticks after, t = ⟨.finished report, []⟩) ∧
      w.session = ended.session ∧
      (start.run steps).2 = (start.run before).2 ++ (v.step .tick).2 ∧
      w.around.queued = ended.around.queued ++ after.filterMap SessionStep.message? := by
  intro start w
  obtain hopen | ⟨before, after, report, rfl, hbefore, hends⟩ :=
    @open_or_ends start ⟨rfl, rfl⟩ steps
  · exact .inl ⟨hopen.pending, hopen.isOpen.running, hopen.isOpen.no_report, hopen.effects⟩
  · refine .inr ⟨before, after, report, rfl, hbefore.pending, hbefore.effects, ?_⟩
    intro v ended
    have hstate : ended.session.machine.state = report.outcome.state := hends.state
    obtain ⟨hsession, hnone, hqueued, hticks⟩ :=
      @finished_run ended report hends.keeps after
    have hrun : start.run (before ++ .tick :: after) =
        ((ended.run after).1,
          (start.run before).2 ++ ((v.step .tick).2 ++ (ended.run after).2)) := by
      rw [run_append, run_cons]
    refine ⟨hbefore.isOpen.running, hbefore.isOpen.no_report, hends, ?_, ?_, ?_, hticks, ?_, ?_,
      ?_⟩
    · rw [hstate, SessionOutcome.state_eq_completed_iff]
    · rw [hstate, SessionOutcome.state_eq_cancelled_iff]
    · rw [hstate, SessionOutcome.state_eq_failed_iff]
    · rw [← hsession]
      exact congrArg (fun p => p.1.session) hrun
    · rw [hrun, hnone, List.append_nil]
    · rw [← hqueued]
      exact congrArg (fun p => p.1.around.queued) hrun

end SessionWorld

end SelectorSearch
