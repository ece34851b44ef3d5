import SelectorSearch.Session.Report
import SelectorSearch.View

/-!
# Sessions

A session shows the messages of one search in a result view. It is driven by ticks. A tick of a
session that has ended repeats its report and does nothing else. Any other tick first asks whether
the view is closed, which cancels the session; then it takes the status of the worker, and only
after that the messages that wait in the queue. A worker publishes its last status after its last
message, so in this order a final status is never read without all messages being there.

The messages are applied up to the first summary, which completes the session; what comes after
it is dropped. Without a summary the status decides.

An end happens once: the state becomes final, the worker is stopped, the status of the view is
erased, and the report is kept.

## Main results

* `tick_of_finished`: a session that has ended does nothing more.
* `applyAll_eq`: the loop over the drained messages applies those up to the first summary.
* `conclude_of_some`, `conclude_of_none`: a summary decides, and without one the status.
-/

namespace SelectorSearch

/-- What a session does to the world around it: it does something to its view, or stops its
worker. -/
inductive SessionEffect where
  | view (e : ViewEvent)
  | stopWorker
  deriving DecidableEq, Repr

/-- A session between ticks: its machine, the malformed lines that it keeps, and its report once it
has ended. -/
structure Session where
  machine : SessionMachine := {}
  /-- The malformed lines that were shown to the session. -/
  malformed : List String := []
  /-- The report of a session that has ended. -/
  report : Option SessionReport := none
  deriving DecidableEq, Repr

/-- The messages up to the first summary, with it. These are the messages that a session shows and
applies. -/
def uptoSummary : List Message → List Message
  | [] => []
  | m :: rest => if m.isTerminal then [m] else m :: uptoSummary rest

/-- The first summary among some `messages`, which ends the session that drains them. -/
def firstSummary? (messages : List Message) : Option Summary :=
  messages.findSome? Message.summary?

/-- What showing some `messages` does to the view: the status and the text of each one, in their
order. -/
def shown (messages : List Message) : List SessionEffect :=
  (messages.flatMap Message.events).map SessionEffect.view

@[simp] theorem shown_nil : shown [] = [] := rfl

theorem shown_append (a b : List Message) : shown (a ++ b) = shown a ++ shown b := by
  simp [shown]

theorem firstSummary?_cons (m : Message) (rest : List Message) :
    firstSummary? (m :: rest) = (m.summary? <|> firstSummary? rest) := by
  cases h : m.summary? <;> simp [firstSummary?, h]

/-- The first summary of two parts `a` and `b` is that of `a`, if there is one, and otherwise that
of `b`. -/
theorem firstSummary?_append (a b : List Message) :
    firstSummary? (a ++ b) = (firstSummary? a <|> firstSummary? b) := by
  simp [firstSummary?, List.findSome?_append]

/-- Messages `a` without summary are all shown, and those of `b` after them up to the first
summary. -/
theorem uptoSummary_append_of_none {a : List Message} (h : firstSummary? a = none)
    (b : List Message) : uptoSummary (a ++ b) = a ++ uptoSummary b := by
  induction a with
  | nil => rfl
  | cons m rest ih =>
      obtain ⟨hm, hrest⟩ : m.summary? = none ∧ firstSummary? rest = none := by
        simpa [firstSummary?_cons] using h
      simp [uptoSummary, Message.isTerminal_eq, hm, ih hrest]

/-- Messages `b` after a summary in `a` are not shown. -/
theorem uptoSummary_append_of_some {a : List Message} {done : Summary}
    (h : firstSummary? a = some done) (b : List Message) :
    uptoSummary (a ++ b) = uptoSummary a := by
  induction a with
  | nil => cases h
  | cons m rest ih =>
      cases hm : m.summary? with
      | some s => simp [uptoSummary, Message.isTerminal_eq, hm]
      | none =>
          rw [firstSummary?_cons, hm] at h
          simp [uptoSummary, Message.isTerminal_eq, hm, ih h]

/-- Messages without summary are all shown, since `uptoSummary` cuts behind a summary only. -/
theorem uptoSummary_of_none {a : List Message} (h : firstSummary? a = none) :
    uptoSummary a = a := by
  simpa [uptoSummary] using uptoSummary_append_of_none h []

namespace Session

/-! ### Messages -/

/-- The session after an operation on its machine, with all else as it was. -/
def record (s : Session) (op : SessionMachine.Operation) : Session :=
  { s with machine := (s.machine.apply op).1 }

/-- What a message does to the session. A summary changes nothing by itself and is handed on, so
that the tick can end the session with it. -/
def apply (s : Session) : Message → Session × Option Summary
  | .countedFiles c => (s.record (.total c.numberOfFiles), none)
  | .processingFile p => (s.record (.progress p.fileNumber p.numberOfFiles), none)
  | .foundMatch m => (s.record (.found m.matchCount), none)
  | .complete done => (s, some done)
  | .unrecognized .. => (s, none)
  | .malformed raw => ({ s.record .malformed with malformed := s.malformed ++ [raw] }, none)

/-- Shows and applies one message after another, until one of them is a summary, which is handed
on. -/
def applyAll (s : Session) : List Message → Session × List SessionEffect × Option Summary
  | [] => (s, [], none)
  | m :: rest =>
    match s.apply m with
    | (s, some done) => (s, shown [m], some done)
    | (s, none) =>
      let (s, more, done) := s.applyAll rest
      (s, shown [m] ++ more, done)

/-! ### Ticks -/

/-- The end of a session: its machine moves to the final `state`, the worker is stopped, the status
of the view is erased, and the report is made. -/
def finish (s : Session) (state : SessionState) (outcome : SessionOutcome) :
    Session × List SessionEffect :=
  let machine := (s.machine.transition state).1
  let report := ⟨outcome, machine.stats, s.malformed⟩
  ({ s with machine, report := some report },
    [.stopWorker, .view (.eraseStatus statusKey)])

/-- What a final status of the worker makes of a session without summary: it ends in the state and
with the outcome that belong to the status. -/
def obey (s : Session) : WorkerStatus → Session × List SessionEffect
  | .running => (s, [])
  | .exited code => s.finish .failed (.abnormalExit code)
  | .failed reason => s.finish .failed (.failed reason)
  | .errored message => s.finish .failed (.workerError message)
  | .stopped => s.finish .cancelled .cancelled

/-- The last part of a tick: what the messages that were `queued` and the `status` of the worker,
which was taken before them, make of the session. -/
def conclude (s : Session) (status : WorkerStatus) (queued : List Message) :
    Session × List SessionEffect :=
  let (s, effects, done) := s.applyAll queued
  let (s, last) :=
    match done with
    | some summary => s.finish .completed (.completed summary)
    | none => s.obey status
  (s, effects ++ last)

/-- What the world around a session looks like at a tick: the view, the status of the worker, and
the queue. -/
structure Surroundings where
  closed : Bool := false
  status : WorkerStatus := .running
  queued : List Message := []
  deriving DecidableEq, Repr

/-- Whether a tick takes the messages of the queue, which it does unless the session has ended or
the view is `closed`. -/
def drains (s : Session) (closed : Bool) : Bool :=
  s.report.isNone && !closed

/-- One tick. A session that has ended does nothing; with the view closed it is cancelled; otherwise
it concludes with the status and the queue. -/
def tick (s : Session) (around : Surroundings) : Session × List SessionEffect :=
  if s.report.isSome then (s, [])
  else if around.closed then s.finish .cancelled .cancelled
  else s.conclude around.status around.queued

/-- What a tick leaves in the queue: nothing if it drains, and everything otherwise. -/
def leftQueued (s : Session) (around : Surroundings) : List Message :=
  if s.drains around.closed then [] else around.queued

/-- What a tick answers to its caller: that the session goes on, or the report of its end. -/
inductive Answer where
  /-- The session goes on. -/
  | pending
  | finished (report : SessionReport)
  deriving DecidableEq, Repr

/-- A call that a tick makes on the view, the worker or the queue, to look at it or to change it. -/
inductive Call where
  | isClosed
  | status
  | drainAll
  | effect (e : SessionEffect)
  deriving DecidableEq, Repr

/-- What a tick answers: the report, as soon as the session has one, and so at every tick after
that. -/
def answer (s : Session) (around : Surroundings) : Answer :=
  match (s.tick around).1.report with
  | some report => .finished report
  | none => .pending

/-- The calls of a tick, in their order: it looks at the view, then at the worker, then takes the
queue, and then shows what it has taken. -/
def calls (s : Session) (around : Surroundings) : List Call :=
  if s.report.isSome then []
  else
    let looks := if around.closed then [Call.isClosed] else [.isClosed, .status, .drainAll]
    looks ++ (s.tick around).2.map .effect

/-! ### Messages all at once -/

/-- What a message does to the counters, apart from anything that it does to the view. -/
def count (machine : SessionMachine) : Message → SessionMachine
  | .countedFiles c => (machine.apply (.total c.numberOfFiles)).1
  | .processingFile p => (machine.apply (.progress p.fileNumber p.numberOfFiles)).1
  | .foundMatch m => (machine.apply (.found m.matchCount)).1
  | .complete _ => machine
  | .unrecognized .. => machine
  | .malformed _ => (machine.apply .malformed).1

/-- The text of a malformed line, which a session keeps for its report. -/
def malformedText? : Message → Option String
  | .malformed raw => some raw
  | _ => none

/-- The session after some `messages`: its counters and the malformed lines that it keeps, with all
else as it was. -/
def absorb (s : Session) (messages : List Message) : Session :=
  { s with
    machine := messages.foldl count s.machine
    malformed := s.malformed ++ messages.filterMap malformedText? }

@[simp] theorem absorb_nil (s : Session) : s.absorb [] = s := by
  simp [absorb]

/-- Messages in two parts are absorbed one part after the other. -/
theorem absorb_append (s : Session) (a b : List Message) :
    s.absorb (a ++ b) = (s.absorb a).absorb b := by
  simp [absorb]

/-- What one message `m` leaves: its count in the machine, and its text if it is malformed. -/
theorem absorb_singleton (s : Session) (m : Message) :
    s.absorb [m] = { s with
      machine := count s.machine m
      malformed := s.malformed ++ (malformedText? m).toList } := by
  cases h : malformedText? m <;> simp [absorb, h]

/-- One message is applied by absorbing it, and handed on if it is a summary. -/
theorem apply_eq (s : Session) (m : Message) : s.apply m = (s.absorb [m], m.summary?) := by
  rw [absorb_singleton]
  cases m with
  | malformed raw =>
      rw [apply, record, count, malformedText?]
      rfl
  | _ => simp [apply, record, count, malformedText?, Message.summary?]

/-- **The loop over drained messages**: it absorbs and shows those up to the first summary, and
hands that one on. -/
theorem applyAll_eq (s : Session) (messages : List Message) :
    s.applyAll messages =
      (s.absorb (uptoSummary messages), shown (uptoSummary messages), firstSummary? messages) := by
  induction messages generalizing s with
  | nil => simp [applyAll, uptoSummary, firstSummary?]
  | cons m rest ih =>
      rw [applyAll, apply_eq]
      cases hm : m.summary? with
      | some done => simp [uptoSummary, firstSummary?_cons, Message.isTerminal_eq, hm]
      | none =>
          simp [uptoSummary, firstSummary?_cons, Message.isTerminal_eq, hm, ih,
            ← absorb_append, ← shown_append]

/-! ### Ends -/

/-- **A session that has a report does nothing more at a tick**, whatever is around it. -/
theorem tick_of_finished {s : Session} {r : SessionReport} (h : s.report = some r)
    (around : Surroundings) : s.tick around = (s, []) := by
  simp [tick, h]

/-- A session that has a report makes no call at a tick, not even to look at its view. -/
theorem calls_of_finished {s : Session} {r : SessionReport} (h : s.report = some r)
    (around : Surroundings) : s.calls around = [] := by
  simp [calls, h]

/-- A session that has a report answers with that report at every tick. -/
theorem answer_of_finished {s : Session} {r : SessionReport} (h : s.report = some r)
    (around : Surroundings) : s.answer around = .finished r := by
  simp [answer, tick_of_finished h, h]

/-- A session that has a report leaves the queue alone. -/
theorem leftQueued_of_finished {s : Session} {r : SessionReport} (h : s.report = some r)
    (around : Surroundings) : s.leftQueued around = around.queued := by
  simp [leftQueued, drains, h]

/-- A final status ends the session with the `outcome` that it dictates, in the state of that
outcome. -/
theorem obey_of_some {status : WorkerStatus} {outcome : SessionOutcome}
    (h : status.outcome? = some outcome) (s : Session) :
    s.obey status = s.finish outcome.state outcome := by
  cases status <;> cases h <;> rfl

/-- A status that dictates no outcome, which is `running`, lets the session go on. -/
theorem obey_of_none {status : WorkerStatus} (h : status.outcome? = none) (s : Session) :
    s.obey status = (s, []) := by
  cases status <;> first | rfl | cases h

/-- The report of a session that ends has the given `outcome`, and the counters and malformed lines
so far. -/
theorem finish_report (s : Session) (state : SessionState) (outcome : SessionOutcome) :
    (s.finish state outcome).1.report = some ⟨outcome, s.machine.stats, s.malformed⟩ := by
  simp [finish, SessionMachine.stats_transition]

/-- **A tick that finds a summary shows the messages up to it and ends the session with it**,
whatever the `status` is. -/
theorem conclude_of_some {queued : List Message} {done : Summary}
    (h : firstSummary? queued = some done) (s : Session) (status : WorkerStatus) :
    s.conclude status queued =
      (((s.absorb (uptoSummary queued)).finish .completed (.completed done)).1,
        shown (uptoSummary queued) ++ [.stopWorker, .view (.eraseStatus statusKey)]) := by
  simp [conclude, applyAll_eq, h, finish]

/-- A tick that finds no summary among what is `queued` shows all messages and obeys the
`status`. -/
theorem conclude_of_none {queued : List Message} (h : firstSummary? queued = none) (s : Session)
    (status : WorkerStatus) :
    s.conclude status queued =
      (((s.absorb queued).obey status).1, shown queued ++ ((s.absorb queued).obey status).2) := by
  simp [conclude, applyAll_eq, h, uptoSummary_of_none h]

end Session

end SelectorSearch
