import SelectorSearch.Session

/-!
# Runs of a Session

A session and what surrounds it, as they change over time: messages arrive in the queue, the
worker changes its status, the view is closed or opened, and ticks happen in between. A schedule
gives what happens before each tick; after its last moment the view is closed, so every run ends.

## Main results

* `run_cons`: a run goes on from where its first step leads.
* `step_report`: only a tick can end a session.
* `runAll_isSome`: a run along a schedule has a report.
-/

namespace SelectorSearch

/-- A session with its surroundings, between two things that happen to them. -/
structure SessionWorld where
  session : Session := {}
  around : Session.Surroundings := {}
  deriving DecidableEq, Repr

/-- What can happen to a session and around it: a message is queued, a status is published, the view
is closed or opened, or there is a tick. -/
inductive SessionStep where
  | push (m : Message)
  | setStatus (status : WorkerStatus)
  | setClosed (closed : Bool)
  | tick
  deriving DecidableEq, Repr

/-- The message that a step queues, if it is a `push`. -/
def SessionStep.message? : SessionStep → Option Message
  | .push m => some m
  | _ => none

namespace SessionWorld

/-- One step, with what the session does in it. Only a tick makes the session do anything. -/
def step (w : SessionWorld) : SessionStep → SessionWorld × List SessionEffect
  | .push m => ({ w with around.queued := w.around.queued ++ [m] }, [])
  | .setStatus status => ({ w with around.status := status }, [])
  | .setClosed closed => ({ w with around.closed := closed }, [])
  | .tick =>
    let (session, effects) := w.session.tick w.around
    ({ session, around := { w.around with queued := w.session.leftQueued w.around } }, effects)

/-- Several steps, one after another, with all that the session does in them. -/
def run (w : SessionWorld) (steps : List SessionStep) : SessionWorld × List SessionEffect :=
  steps.foldl
    (fun (w, effects) s =>
      let (w, more) := w.step s
      (w, effects ++ more))
    (w, [])

@[simp] theorem run_nil (w : SessionWorld) : w.run [] = (w, []) := rfl

/-- A run goes on from where its first step leads, and what is done in it comes first. -/
theorem run_cons (w : SessionWorld) (s : SessionStep) (rest : List SessionStep) :
    w.run (s :: rest) =
      (((w.step s).1.run rest).1, (w.step s).2 ++ ((w.step s).1.run rest).2) := by
  suffices h : ∀ (v : SessionWorld) (before : List SessionEffect) (steps : List SessionStep),
      steps.foldl (fun (w, effects) s => ((w.step s).1, effects ++ (w.step s).2)) (v, before) =
        ((v.run steps).1, before ++ (v.run steps).2) from h _ _ rest
  intro v before steps
  induction steps generalizing v before with
  | nil => simp
  | cons t more ih =>
    have hrun : v.run (t :: more) =
        (((v.step t).1.run more).1, (v.step t).2 ++ ((v.step t).1.run more).2) := ih _ _
    rw [List.foldl_cons, ih, hrun, List.append_assoc]

/-- A run in two parts `a` and `b`: the second part goes on from where the first one leads. -/
theorem run_append (w : SessionWorld) (a b : List SessionStep) :
    w.run (a ++ b) = (((w.run a).1.run b).1, (w.run a).2 ++ ((w.run a).1.run b).2) := by
  induction a generalizing w with
  | nil => simp
  | cons s rest ih => rw [List.cons_append, run_cons, ih, run_cons, List.append_assoc]

/-- A tick of a run, as its caller and its surroundings see it. -/
structure TickRecord where
  answer : Session.Answer
  calls : List Session.Call
  deriving DecidableEq, Repr

/-- The record of the tick that would come now: its answer and its calls. -/
def tickRecord (w : SessionWorld) : TickRecord :=
  ⟨w.session.answer w.around, w.session.calls w.around⟩

/-- The records of the ticks of a run, in their order. The other steps change the surroundings of
the ticks. -/
def ticks (w : SessionWorld) : List SessionStep → List TickRecord
  | [] => []
  | .tick :: rest => w.tickRecord :: ticks (w.step .tick).1 rest
  | s :: rest => ticks (w.step s).1 rest

@[simp] theorem ticks_nil (w : SessionWorld) : w.ticks [] = [] := rfl

theorem ticks_tick (w : SessionWorld) (rest : List SessionStep) :
    w.ticks (.tick :: rest) = w.tickRecord :: (w.step .tick).1.ticks rest := rfl

/-- A step that is no tick adds no record; it only changes what the next ticks find. -/
theorem ticks_of_ne {s : SessionStep} (h : s ≠ .tick) (w : SessionWorld)
    (rest : List SessionStep) : w.ticks (s :: rest) = (w.step s).1.ticks rest := by
  cases s with
  | tick => exact absurd rfl h
  | _ => rfl

/-- The ticks of a run in two parts: those of `b` are the ticks of a run from where `a` leads. -/
theorem ticks_append (w : SessionWorld) (a b : List SessionStep) :
    w.ticks (a ++ b) = w.ticks a ++ (w.run a).1.ticks b := by
  induction a generalizing w with
  | nil => rfl
  | cons s rest ih =>
    rw [List.cons_append, run_cons]
    by_cases hs : s = .tick
    · rw [hs, ticks_tick, ticks_tick, ih, List.cons_append]
    · rw [ticks_of_ne hs, ticks_of_ne hs, ih]

/-- A step that is no tick leaves the session alone, so that only a tick can end it. -/
theorem step_report {w : SessionWorld} {s : SessionStep} (h : s ≠ .tick) :
    (w.step s).1.session = w.session := by
  cases s <;> simp_all [step]

end SessionWorld

/-! ### Schedules -/

/-- What happens between two ticks: the messages that are queued, the status that is published, and
whether the view is closed. -/
structure Moment where
  pushed : List Message := []
  status : Option WorkerStatus := none
  closes : Bool := false
  deriving DecidableEq, Repr

/-- The surroundings after a moment: new messages come last in the queue, and a status or a closed
view replaces what was there. -/
def Session.Surroundings.after (around : Session.Surroundings) (m : Moment) :
    Session.Surroundings :=
  { closed := around.closed || m.closes
    status := m.status.getD around.status
    queued := around.queued ++ m.pushed }

/-- A session that ran to its end: its world, its report, all that it did, and the number of its
ticks. -/
structure FinishedRun where
  world : SessionWorld
  report : SessionReport
  effects : List SessionEffect
  /-- The number of ticks. -/
  ticks : Nat
  deriving Repr

namespace SessionWorld

/-- The run along a schedule, one tick after each moment, until there is a report. Behind the
schedule comes one more moment, at which the view is closed. -/
def runAll (w : SessionWorld) (effects : List SessionEffect) (ticks : Nat) :
    List Moment → Option FinishedRun
  | [] =>
    let (w, more) := step { w with around := w.around.after { closes := true } } .tick
    w.session.report.map fun report => ⟨w, report, effects ++ more, ticks + 1⟩
  | m :: rest =>
    let (w, more) := step { w with around := w.around.after m } .tick
    match w.session.report with
    | some report => some ⟨w, report, effects ++ more, ticks + 1⟩
    | none => runAll w (effects ++ more) (ticks + 1) rest

/-- A tick with the view closed leaves a report, because the session is cancelled if it has none. -/
theorem report_tick_of_closed {w : SessionWorld} (h : w.around.closed = true) :
    (w.step .tick).1.session.report.isSome = true := by
  simp only [step, Session.tick, h]
  split <;> simp_all [Session.finish]

/-- **A run along any schedule has a report**, since the view is closed in the end. -/
theorem runAll_isSome (w : SessionWorld) (effects : List SessionEffect) (ticks : Nat)
    (schedule : List Moment) : (w.runAll effects ticks schedule).isSome = true := by
  induction schedule generalizing w effects ticks with
  | nil =>
    simp only [runAll, Option.isSome_map]
    exact report_tick_of_closed (by simp [Session.Surroundings.after])
  | cons m rest ih =>
    simp only [runAll]
    split
    · rfl
    · exact ih _ _ _

/-- The run of a new session along a `schedule`, which always comes to an end. -/
def finish (schedule : List Moment) : FinishedRun :=
  (runAll {} [] 0 schedule).get (runAll_isSome ..)

end SessionWorld

end SelectorSearch
