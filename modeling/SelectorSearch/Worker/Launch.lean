import SelectorSearch.Host
import SelectorSearch.Process.Spawn
import SelectorSearch.Worker.Record

/-!
# Launching a Search

From a request to what surrounds its session: the process is started, a worker follows it, and the
session ticks at a fixed interval from the start on. The view is closed at once, or when the
process interrupts the one that started it, or not at all.

## Main results

* `launch_ok_iff`: a search is launched exactly if the system finds what to run.
-/

namespace SelectorSearch

/-- When a view is closed, if it is. -/
inductive Closing where
  | never
  | atOnce
  /-- When the process interrupts the one that started it. -/
  | onInterrupt
  deriving DecidableEq, Repr

/-- The time at which a view is closed, over the life of the process. -/
def Closing.time? (c : Closing) (l : Life) : Option Nat :=
  match c with
  | .never => none
  | .atOnce => some 0
  | .onInterrupt => l.interrupts.head?

namespace Config

/-- What surrounds the session of a process, from its start until nothing happens any more. -/
def schedule (c : Config) (closing : Closing) (program : Program) : List Moment :=
  let record := Worker.record program (c.terminateTimeoutMs.toNat * millisecond) none
  record.schedule (closing.time? (program [])) (c.tickInterval.toNat * millisecond)

/-- Launches a search in a file tree and an `environment`. -/
def launch (c : Config) (t : FileTree) (closing : Closing)
    (environment : Shell.Environment := {}) : Launcher := fun request =>
  (spawn t (request.invocation t) environment).map (c.schedule closing)

/-- **A search is launched** exactly if the system finds what to run, and where: whether it is
depends neither on the `environment` nor on when the view is closed. -/
theorem launch_ok_iff {c : Config} {t : FileTree} {closing : Closing}
    {environment : Shell.Environment} {request : SearchRequest} :
    (∃ schedule, c.launch t closing environment request = .ok schedule) ↔
      ∃ found, (request.invocation t).prepare t = .ok found := by
  rw [← @spawn_ok_iff t (request.invocation t) environment, launch]
  cases spawn t (request.invocation t) environment <;> simp [Except.map]

end Config

end SelectorSearch
