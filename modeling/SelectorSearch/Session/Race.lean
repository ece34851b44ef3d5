import SelectorSearch.Session

/-!
# The Race of a Worker and a Session

A worker queues its messages one at a time and then publishes one final status. Meanwhile a
session ticks, and a tick looks at its surroundings three times: it asks whether the view is
closed, takes the status, and drains the queue. Between any two of these looks the worker may go
on. A `Race` is the state of both; its steps are the single looks and the single acts of the
worker, so a list of steps is one way in which they can be interleaved. A tick of a session that
has ended looks at nothing.

A step that is not possible is `none`.

## Main results

* `tick_of_uninterrupted`: a tick that is not interrupted is the tick of the session.
-/

namespace SelectorSearch

/-- What a tick has seen so far. It looks at the view first, then at the status, and takes the queue
last. -/
inductive TickProgress where
  | idle
  /-- The view is open. -/
  | askedView
  /-- The view is open and the worker has this status. -/
  | tookStatus (status : WorkerStatus)
  deriving DecidableEq, Repr

/-- A session and its worker, with what the worker is still going to queue, and a tick that may be
in the middle. -/
structure Race where
  session : Session := {}
  tick : TickProgress := .idle
  /-- What the worker has not queued yet. -/
  pending : List Message
  queued : List Message := []
  /-- Everything that the worker has queued. -/
  pushed : List Message := []
  /-- The status that the worker publishes after its last message. -/
  final : WorkerStatus
  published : Bool := false
  deriving DecidableEq, Repr

/-- A single act of either side: the worker queues a message or publishes its status, and a tick
does one of its three parts. -/
inductive RaceStep where
  /-- The worker queues its next message. -/
  | push
  /-- The worker publishes its final status. -/
  | publish
  /-- A tick begins. Unless the session has ended, it finds the view open. -/
  | askView
  | takeStatus
  /-- A tick drains the queue and concludes. -/
  | drain
  deriving DecidableEq, Repr

namespace Race

/-- The race at its beginning: the worker is going to queue these `messages`, and then to publish
its `final` status. -/
def start (messages : List Message) (final : WorkerStatus) : Race :=
  { pending := messages, final }

/-- What the worker has published: its final status once it has, and `running` before that. -/
def status (r : Race) : WorkerStatus :=
  if r.published then r.final else .running

/-- One act, with what the session does in it, and `none` where the act is not possible, as the
drain of a tick that has taken no status. -/
def step? (r : Race) : RaceStep → Option (Race × List SessionEffect)
  | .push =>
    match r.pending with
    | m :: rest =>
      some ({ r with pending := rest, queued := r.queued ++ [m], pushed := r.pushed ++ [m] }, [])
    | [] => none
  | .publish =>
    if r.pending.isEmpty && !r.published then some ({ r with published := true }, []) else none
  | .askView =>
    if r.tick = .idle then
      some (if r.session.report.isSome then r else { r with tick := .askedView }, [])
    else none
  | .takeStatus =>
    if r.tick = .askedView then some ({ r with tick := .tookStatus r.status }, []) else none
  | .drain =>
    match r.tick with
    | .tookStatus status =>
      let (session, effects) := r.session.conclude status r.queued
      some ({ r with session, tick := .idle, queued := [] }, effects)
    | _ => none

/-- Some acts, one after another, with all that the session does in them. -/
def run? (r : Race) : List RaceStep → Option (Race × List SessionEffect)
  | [] => some (r, [])
  | s :: rest => do
    let (r, effects) ← r.step? s
    let (r, more) ← r.run? rest
    return (r, effects ++ more)

/-- **The three parts of a tick with nothing in between are the tick of the session**, which finds
the status and the queue of the race. -/
theorem tick_of_uninterrupted {r : Race} (hs : r.session.report = none) (ht : r.tick = .idle) :
    ∃ r', r.run? [.askView, .takeStatus, .drain] =
        some (r', (r.session.tick ⟨false, r.status, r.queued⟩).2) ∧
      r'.session = (r.session.tick ⟨false, r.status, r.queued⟩).1 ∧ r'.queued = [] := by
  refine ⟨{ r with
    session := (r.session.conclude r.status r.queued).1, tick := .idle, queued := [] }, ?_⟩
  simp [run?, step?, hs, ht, status, Session.tick]

end Race

end SelectorSearch
