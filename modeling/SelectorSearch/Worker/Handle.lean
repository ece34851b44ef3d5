import SelectorSearch.Worker.Pump

/-!
# Handles of Workers

A started worker as others see it. Its pump runs by itself; when it is done, its status is
published. Others can read what is published and can ask the worker to stop, which they also do by
letting go of it. The pump notices that between two other things it does, if at all.

A step that is not possible is `none`.
-/

namespace SelectorSearch

/-- A started worker: its `pump`, whether it was `asked` to stop, and the status that others can
read. -/
structure WorkerHandle where
  pump : Pump := {}
  /-- Whether somebody asked the worker to stop. -/
  asked : Bool := false
  published : WorkerStatus := .running
  deriving DecidableEq, Repr

/-- A single act of a worker, or on it. The worker runs its pump and publishes; all that others can
do is ask. -/
inductive HandleStep where
  /-- The pump takes a step. -/
  | pump (e : PumpEvent)
  /-- The status of the pump is published. -/
  | publish
  /-- Somebody asks the worker to stop, or lets go of it. -/
  | ask
  deriving DecidableEq, Repr

namespace WorkerHandle

/-- Asks the worker to stop. The demand stays until the pump notices it, which may be never. -/
def ask (h : WorkerHandle) : WorkerHandle :=
  { h with asked := true }

/-- One act, and `none` where it is not possible. The pump stops only if it was asked to, and a
status is published once, when it is final. -/
def step? (h : WorkerHandle) : HandleStep → Option WorkerHandle
  | .pump e =>
    if e = .stop ∧ h.asked = false then none
    else (h.pump.step? e).map fun pump => { h with pump }
  | .publish =>
    if h.pump.status.isFinished && !h.published.isFinished then
      some { h with published := h.pump.status }
    else none
  | .ask => some h.ask

/-- Some acts, one after another, and `none` as soon as one of the `steps` is not possible. -/
def run? (h : WorkerHandle) (steps : List HandleStep) : Option WorkerHandle :=
  steps.foldlM step? h

end WorkerHandle

end SelectorSearch
