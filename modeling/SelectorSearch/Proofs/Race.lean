import SelectorSearch.Session.Race

/-!
# No Message is Lost in a Race

The worker may queue a message, and even publish its final status, between any two looks of a
tick. Two facts keep the session right all the same. A final status is only published once all
messages are queued, and a tick takes the status before it drains the queue; so a tick that has
taken a final status drains everything that is left. And a tick stops at a summary, so a summary
decides even when the status is final already.

While the session runs, `Running` says that the messages of the worker are those that were
applied, those in the queue and those not queued yet, in this order. Once it has ended, `Ended`
says that it has shown exactly the messages up to the first summary. Every act keeps a race in one
of the two.

## Main results

* `running_step`, `ended_step`: what one act does to a race that runs or has ended.
* `run_stands`: every run from the start leaves a race that runs or has ended.
* `effects_and_outcome_of_race`: what the session of an ended race has done and reported.
-/

namespace SelectorSearch

open Session

/-- The outcome that the `messages` of a worker and its `final` status call for. A summary comes
first. -/
def dueOutcome (messages : List Message) (final : WorkerStatus) : Option SessionOutcome :=
  (firstSummary? messages).map SessionOutcome.completed <|> final.outcome?

namespace Race

/-- A race whose session runs, and has `applied` some of the messages of the worker; all others are
queued or pending. -/
structure Running (messages : List Message) (final : WorkerStatus) (applied : List Message)
    (r : Race) : Prop where
  session : r.session = ({} : Session).absorb applied
  noSummary : firstSummary? applied = none
  order : messages = applied ++ (r.queued ++ r.pending)
  final_eq : r.final = final
  published : r.published = true → r.pending = []
  /-- A tick that knows the final status will find all messages in the queue. -/
  taken : ∀ status, r.tick = .tookStatus status →
    status = .running ∨ status = final ∧ r.pending = []

/-- A race whose session has ended with the outcome that is due, after showing all messages that it
should. -/
structure Ended (messages : List Message) (final : WorkerStatus) (effects : List SessionEffect)
    (r : Race) : Prop where
  tick : r.tick = .idle
  report : ∃ outcome, dueOutcome messages final = some outcome ∧
    r.session.report = some ⟨outcome,
      (({} : Session).absorb (uptoSummary messages)).machine.stats,
      (({} : Session).absorb (uptoSummary messages)).malformed⟩
  effects_eq : effects =
    shown (uptoSummary messages) ++ [.stopWorker, .view (.eraseStatus statusKey)]

/-- Where a race can be after some `effects` of its session: it runs with what it has shown, or it
has ended. -/
def Stands (messages : List Message) (final : WorkerStatus) (effects : List SessionEffect)
    (r : Race) : Prop :=
  (∃ applied, Running messages final applied r ∧ effects = shown applied) ∨
    Ended messages final effects r

variable {messages applied : List Message} {final : WorkerStatus} {r r' : Race}
  {effects more : List SessionEffect}

/-- A race starts with nothing applied, and everything still pending. -/
theorem running_start (messages : List Message) (final : WorkerStatus) :
    Running messages final [] (start messages final) where
  session := by simp [start]
  noSummary := rfl
  order := rfl
  final_eq := rfl
  published := by simp [start]
  taken := by simp [start]

/-- The session of a running race has no report yet. -/
theorem Running.report (h : Running messages final applied r) : r.session.report = none := by
  rw [h.session]
  rfl

/-! ### Draining -/

/-- What a summary among the queued messages makes of a running race: the session ends with it,
whatever the `status` is. -/
theorem Running.ended_of_summary (h : Running messages final applied r) {done : Summary}
    (hdone : firstSummary? r.queued = some done) (status : WorkerStatus) :
    Ended messages final (shown applied ++ (r.session.conclude status r.queued).2)
      { r with
        session := (r.session.conclude status r.queued).1, tick := .idle, queued := [] } := by
  have hupto : uptoSummary messages = applied ++ uptoSummary r.queued := by
    rw [h.order, uptoSummary_append_of_none h.noSummary, uptoSummary_append_of_some hdone]
  have hdue : dueOutcome messages final = some (.completed done) := by
    simp [dueOutcome, h.order, firstSummary?_append, h.noSummary, hdone]
  refine ⟨rfl, ⟨_, hdue, ?_⟩, ?_⟩
  · simp only [conclude_of_some hdone, finish_report, h.session, ← absorb_append, ← hupto]
  · simp only [conclude_of_some hdone, hupto, shown_append, List.append_assoc]

/-- What a `final` status makes of a running race without summary: the session ends as the status
says, with all messages shown. -/
theorem Running.ended_of_final (h : Running messages final applied r)
    (hnone : firstSummary? r.queued = none) (hpending : r.pending = [])
    {outcome : SessionOutcome} (hout : final.outcome? = some outcome) :
    Ended messages final (shown applied ++ (r.session.conclude final r.queued).2)
      { r with session := (r.session.conclude final r.queued).1, tick := .idle, queued := [] } := by
  have horder : messages = applied ++ r.queued := by
    simpa [hpending] using h.order
  have hnone' : firstSummary? messages = none := by
    simp [horder, firstSummary?_append, h.noSummary, hnone]
  have hupto : uptoSummary messages = applied ++ r.queued := by
    rw [uptoSummary_of_none hnone', horder]
  have hdue : dueOutcome messages final = some outcome := by
    simp [dueOutcome, hnone', hout]
  refine ⟨rfl, ⟨_, hdue, ?_⟩, ?_⟩
  · simp only [conclude_of_none hnone, obey_of_some hout, finish_report, h.session,
      ← absorb_append, ← hupto]
  · simp only [conclude_of_none hnone, obey_of_some hout, hupto, shown_append,
      List.append_assoc]
    rfl

/-- Without summary in the queue and without a final `status` the session goes on, with the queued
messages applied. -/
theorem Running.running_of_none (h : Running messages final applied r)
    (hnone : firstSummary? r.queued = none) {status : WorkerStatus}
    (hout : status.outcome? = none) :
    Running messages final (applied ++ r.queued)
      { r with
        session := (r.session.conclude status r.queued).1, tick := .idle, queued := [] } where
  session := by
    simp only [conclude_of_none hnone, obey_of_none hout, h.session, absorb_append]
  noSummary := by simp [firstSummary?_append, h.noSummary, hnone]
  order := by simpa using h.order
  final_eq := h.final_eq
  published := h.published
  taken := by simp

/-! ### One act -/

/-- **One act of a running race leaves it running or ends it**, and in either case the effects are
those that it should have had so far. A drain relies on what the look at the status has
established. -/
theorem running_step {s : RaceStep} (h : Running messages final applied r)
    (hs : r.step? s = some (r', more)) : Stands messages final (shown applied ++ more) r' := by
  cases s with
  | push =>
      simp only [step?] at hs
      split at hs
      · next m rest hpending =>
          obtain ⟨rfl, rfl⟩ := Prod.mk.inj (Option.some.inj hs)
          refine .inl ⟨applied, ⟨h.session, h.noSummary, ?_, h.final_eq, ?_, ?_⟩, by simp⟩
          · simp [h.order, hpending]
          · intro hp
            simp [h.published hp] at hpending
          · intro status htook
            refine (h.taken status htook).imp_right fun hfinal => ?_
            simp [hfinal.2] at hpending
      · cases hs
  | publish =>
      simp only [step?] at hs
      split at hs
      · next hc =>
          obtain ⟨rfl, rfl⟩ := Prod.mk.inj (Option.some.inj hs)
          simp only [Bool.and_eq_true, List.isEmpty_iff] at hc
          exact .inl ⟨applied, ⟨h.session, h.noSummary, h.order, h.final_eq, fun _ => hc.1,
            h.taken⟩, by simp⟩
      · cases hs
  | askView =>
      simp only [step?, h.report] at hs
      split at hs
      · obtain ⟨rfl, rfl⟩ := Prod.mk.inj (Option.some.inj hs)
        exact .inl ⟨applied, ⟨h.session, h.noSummary, h.order, h.final_eq, h.published,
          by simp⟩, by simp⟩
      · cases hs
  | takeStatus =>
      simp only [step?] at hs
      split at hs
      · obtain ⟨rfl, rfl⟩ := Prod.mk.inj (Option.some.inj hs)
        refine .inl ⟨applied, ⟨h.session, h.noSummary, h.order, h.final_eq, h.published, ?_⟩,
          by simp⟩
        rintro _ ⟨⟩
        by_cases hp : r.published = true
        · exact .inr ⟨by simp [status, hp, h.final_eq], h.published hp⟩
        · exact .inl (by simp [status, hp])
      · cases hs
  | drain =>
      simp only [step?] at hs
      split at hs
      · next status htook =>
          obtain ⟨rfl, rfl⟩ := Prod.mk.inj (Option.some.inj hs)
          cases hq : firstSummary? r.queued with
          | some done => exact .inr (h.ended_of_summary hq status)
          | none =>
              cases hout : status.outcome? with
              | none =>
                  refine .inl ⟨_, h.running_of_none hq hout, ?_⟩
                  simp [conclude_of_none hq, obey_of_none hout, shown_append]
              | some outcome =>
                  obtain rfl | ⟨rfl, hpending⟩ := h.taken status htook
                  · cases hout
                  · exact .inr (h.ended_of_final hq hpending hout)
      · cases hs

/-- When a session has a report and no tick is under way, no act does anything to it. -/
theorem rests_step {s : RaceStep} (hreport : r.session.report.isSome = true) (ht : r.tick = .idle)
    (hs : r.step? s = some (r', more)) :
    r'.session = r.session ∧ r'.tick = .idle ∧ more = [] := by
  cases s with
  | push =>
      simp only [step?] at hs
      split at hs <;> cases hs
      exact ⟨rfl, ht, rfl⟩
  | publish =>
      simp only [step?] at hs
      split at hs <;> cases hs
      exact ⟨rfl, ht, rfl⟩
  | askView =>
      simp only [step?, ht, hreport, if_true] at hs
      cases hs
      exact ⟨rfl, ht, rfl⟩
  | takeStatus => simp [step?, ht] at hs
  | drain => simp [step?, ht] at hs

/-- One act of an ended race does nothing to its session and has no effects. -/
theorem ended_step {s : RaceStep} (h : Ended messages final effects r)
    (hs : r.step? s = some (r', more)) : Ended messages final (effects ++ more) r' := by
  have hreport : r.session.report.isSome = true := by
    obtain ⟨_, -, hr⟩ := h.report
    simp [hr]
  obtain ⟨hsession, ht, rfl⟩ := rests_step hreport h.tick hs
  exact ⟨ht, hsession ▸ h.report, by simpa using h.effects_eq⟩

/-! ### Runs -/

/-- Some acts take a race from where it `Stands` to where it stands after them, by induction on the
acts. -/
theorem stands_run {steps : List RaceStep} (h : Stands messages final effects r)
    (hs : r.run? steps = some (r', more)) : Stands messages final (effects ++ more) r' := by
  induction steps generalizing r effects more with
  | nil =>
      obtain ⟨rfl, rfl⟩ := Prod.mk.inj (Option.some.inj hs)
      simpa using h
  | cons s rest ih =>
      simp only [run?, Option.bind_eq_bind, Option.bind_eq_some_iff] at hs
      obtain ⟨⟨r₁, now⟩, hstep, ⟨r₂, later⟩, hrest, heq⟩ := hs
      obtain ⟨rfl, rfl⟩ := Prod.mk.inj (Option.some.inj heq)
      rw [← List.append_assoc]
      refine ih ?_ hrest
      obtain ⟨applied, hrun, rfl⟩ | hend := h
      · exact running_step hrun hstep
      · exact .inr (ended_step hend hstep)

/-- **Every run from the start leaves a race that runs or has ended**, whatever the order of the
acts. -/
theorem run_stands {steps : List RaceStep}
    (h : (start messages final).run? steps = some (r, effects)) :
    Stands messages final effects r :=
  stands_run (.inl ⟨[], running_start messages final, rfl⟩) h

/-- Once the worker has published a `final` status, the next tick ends the session, even if nothing
else happens. -/
theorem report_of_published {steps : List RaceStep}
    (h : (start messages final).run? steps = some (r, effects))
    (hfinal : final.isFinished = true) (hp : r.published = true) (ht : r.tick = .idle)
    (hr : r.session.report = none) :
    ∃ r' more, r.run? [.askView, .takeStatus, .drain] = some (r', more) ∧
      r'.session.report.isSome = true := by
  obtain ⟨applied, hrun, -⟩ | hend := run_stands h
  · obtain ⟨r', htick, hsession, -⟩ := tick_of_uninterrupted hr ht
    refine ⟨r', _, htick, ?_⟩
    obtain ⟨outcome, hout⟩ : ∃ outcome, final.outcome? = some outcome :=
      Option.isSome_iff_exists.mp (final.isSome_outcome?.trans hfinal)
    have hstatus : r.status = final := by simp [status, hp, hrun.final_eq]
    rw [hsession, hstatus, Session.tick, hr]
    cases hq : firstSummary? r.queued with
    | some done => simp [conclude_of_some hq, finish_report]
    | none => simp [conclude_of_none hq, obey_of_some hout, finish_report]
  · obtain ⟨_, -, hreport⟩ := hend.report
    cases hr.symm.trans hreport

/-- **A race is judged right.** Whenever the session has a report, it has shown exactly the messages
up to the first summary, each once and in the order of the worker, and then has ended once. Its
outcome is the first summary, if there is one, and what the final status says otherwise. A tick
after the final status is published does end the session. -/
theorem effects_and_outcome_of_race {steps : List RaceStep}
    (h : (start messages final).run? steps = some (r, effects)) :
    (∀ report, r.session.report = some report →
      effects = shown (uptoSummary messages) ++
        [.stopWorker, .view (.eraseStatus statusKey)] ∧
      (∀ done, firstSummary? messages = some done → report.outcome = .completed done) ∧
      (firstSummary? messages = none → final.outcome? = some report.outcome) ∧
      report.stats = ((uptoSummary messages).foldl count {}).stats ∧
      report.malformed = (uptoSummary messages).filterMap malformedText?) ∧
    (final.isFinished = true → r.published = true → r.tick = .idle → r.session.report = none →
      ∃ r' more, r.run? [.askView, .takeStatus, .drain] = some (r', more) ∧
        r'.session.report.isSome = true) := by
  refine ⟨fun report hreport => ?_, report_of_published h⟩
  obtain ⟨applied, hrun, -⟩ | hend := run_stands h
  · cases hrun.report.symm.trans hreport
  · obtain ⟨outcome, hdue, hr⟩ := hend.report
    obtain rfl := Option.some.inj (hr.symm.trans hreport)
    refine ⟨hend.effects_eq, fun done hdone => ?_, fun hnone => ?_, rfl, rfl⟩
    · simpa [dueOutcome, hdone] using hdue.symm
    · simpa [dueOutcome, hnone] using hdue

/-- The summary and the exit of the process may both fall between the look at the status and the
drain of one tick. A process that exits without a summary is noticed by the next tick. -/
theorem race_of_late_summary :
    (∃ r effects report,
      (start [.malformed "noise", .complete ⟨"Done", 0, 0⟩, .malformed "late"]
          (.exited (some 1))).run?
        [.push, .askView, .takeStatus, .push, .push, .publish, .drain] = some (r, effects) ∧
      r.session.report = some report ∧ report.outcome = .completed ⟨"Done", 0, 0⟩ ∧
      report.malformed = ["noise"]) ∧
    ∃ r effects r' more,
      (start [.malformed "noise"] (.exited (some 1))).run?
        [.askView, .takeStatus, .push, .publish, .drain] = some (r, effects) ∧
      r.session.report = none ∧
      r.run? [.askView, .takeStatus, .drain] = some (r', more) ∧
      r'.session.report.isSome = true := by
  constructor
  · have h : (start [.malformed "noise", .complete ⟨"Done", 0, 0⟩, .malformed "late"]
        (.exited (some 1))).run?
      [.push, .askView, .takeStatus, .push, .push, .publish, .drain] = some (_, _) := rfl
    obtain ⟨-, hsummary, -, -, hmalformed⟩ := (effects_and_outcome_of_race h).1 _ rfl
    exact ⟨_, _, _, h, rfl, hsummary _ rfl, hmalformed⟩
  · have h : (start [.malformed "noise"] (.exited (some 1))).run?
      [.askView, .takeStatus, .push, .publish, .drain] = some (_, _) := rfl
    obtain ⟨r', more, hrun, hreport⟩ := (effects_and_outcome_of_race h).2 rfl rfl rfl rfl
    exact ⟨_, _, r', more, h, rfl, hrun, hreport⟩

end Race

end SelectorSearch
