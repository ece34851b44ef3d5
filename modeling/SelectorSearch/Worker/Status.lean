/-!
# The Status of a Worker

A worker supervises one run of the search tool. Its status is what the session may know about
that run; every status but running is final.
-/

namespace SelectorSearch

/-- The life of a worker as the session sees it: `running`, and then one of four ways to be done. -/
inductive WorkerStatus where
  | running
  /-- The process ended by itself, with this exit code or by a signal. -/
  | exited (code : Option Int)
  /-- The process wrote something to its error output that is no message, and was terminated. -/
  | failed (reason : String)
  /-- The process could not be supervised. -/
  | errored (message : String)
  /-- The process was stopped on demand. -/
  | stopped
  deriving DecidableEq, Repr

/-- Whether a status is final. Every status but `running` is, since nothing is published after
it. -/
def WorkerStatus.isFinished : WorkerStatus → Bool
  | .running => false
  | _ => true

end SelectorSearch
