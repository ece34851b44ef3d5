import SelectorSearch.Session.Race

/-!
# A Race in Front of a View That May Be Closed

A `Race` in which the result view can be closed and opened at any moment. A tick notices only by
its first look: if the view is closed then, the session is cancelled and the tick looks at nothing
else. Everything else is as in the race.

## Main results

* `act_of_open`: where no tick finds the view closed, an act is that of the race.
-/

namespace SelectorSearch

/-- A session with its worker and its view, which may be `closed` at any moment. -/
structure WatchedRace where
  race : Race
  /-- Whether the result view is closed. -/
  closed : Bool := false
  deriving DecidableEq, Repr

/-- A single act: one of the race, or the view is closed or opened. -/
inductive WatchedStep where
  | act (s : RaceStep)
  | setClosed (closed : Bool)
  deriving DecidableEq, Repr

namespace WatchedRace

/-- The race at its beginning, with the view open and everything still to be queued. -/
def start (messages : List Message) (final : WorkerStatus) : WatchedRace :=
  { race := .start messages final }

/-- Whether a tick that begins now ends the session because the view is closed. -/
def cancels (w : WatchedRace) : Bool :=
  w.closed && w.race.tick = .idle && w.race.session.report.isNone

/-- The race after a tick that has found the view closed: the session has ended, and all else is as
before. -/
def cancel (w : WatchedRace) : WatchedRace :=
  { w with race.session := (w.race.session.finish .cancelled .cancelled).1 }

/-- One act, with what the session does in it. The first look of a tick at a closed view cancels the
session; every other act is that of the race. -/
def step? (w : WatchedRace) : WatchedStep → Option (WatchedRace × List SessionEffect)
  | .setClosed closed => some ({ w with closed }, [])
  | .act s =>
    if s = .askView ∧ w.cancels = true then
      some (w.cancel, (w.race.session.finish .cancelled .cancelled).2)
    else (w.race.step? s).map fun (race, effects) => ({ w with race }, effects)

/-- Some acts, one after another, with all that the session does in them. -/
def run? (w : WatchedRace) : List WatchedStep → Option (WatchedRace × List SessionEffect)
  | [] => some (w, [])
  | s :: rest => do
    let (w, effects) ← w.step? s
    let (w, more) ← w.run? rest
    return (w, effects ++ more)

/-- **An open view changes nothing**: where no tick would find the view closed, an act is that of
the `Race`. -/
theorem act_of_open {w : WatchedRace} (h : w.cancels = false) (s : RaceStep) :
    w.step? (.act s) =
      (w.race.step? s).map fun (race, effects) => ({ w with race }, effects) := by
  simp [step?, h]

end WatchedRace

end SelectorSearch
