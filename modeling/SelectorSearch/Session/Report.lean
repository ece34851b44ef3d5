import SelectorSearch.Message
import SelectorSearch.Session.State
import SelectorSearch.Worker.Status

/-!
# Session Reports

How a session ended, with its final counters and the malformed lines in the order of their
arrival, and the text of the one dialog that tells the user about it, if there is anything to
tell.

## Main results

* `errorMessage_cancelled`: a cancelled session is silent.
* `errorMessage_eq_none_iff`: a session that was not cancelled is silent exactly when it
  completed without malformed lines.
-/

namespace SelectorSearch

/-- How a session ended, with what belongs to that end. -/
inductive SessionOutcome where
  /-- The summary arrived. -/
  | completed (summary : Summary)
  /-- The process ended before the summary. -/
  | abnormalExit (code : Option Int)
  /-- The process wrote something to its error output that is no message. -/
  | failed (reason : String)
  /-- The process could not be supervised. -/
  | workerError (message : String)
  /-- The result view was closed, or the process was stopped. -/
  | cancelled
  deriving DecidableEq, Repr

/-- The state in which an outcome leaves the session: all that is neither completed nor cancelled
has failed. -/
def SessionOutcome.state : SessionOutcome → SessionState
  | .completed _ => .completed
  | .cancelled => .cancelled
  | _ => .failed

/-- The outcome that the final status of a worker dictates when no summary has arrived, and `none`
for `running`. -/
def WorkerStatus.outcome? : WorkerStatus → Option SessionOutcome
  | .running => none
  | .exited code => some (.abnormalExit code)
  | .failed reason => some (.failed reason)
  | .errored message => some (.workerError message)
  | .stopped => some .cancelled

/-- The final statuses are those that dictate an outcome. -/
theorem WorkerStatus.isSome_outcome? (s : WorkerStatus) : s.outcome?.isSome = s.isFinished := by
  cases s <;> rfl

/-- The end of a session: its outcome, its counters, and its malformed lines. -/
structure SessionReport where
  outcome : SessionOutcome
  stats : SessionStats
  /-- The malformed lines in the order of their arrival. -/
  malformed : List String
  deriving DecidableEq, Repr

/-! ### The dialog -/

/-- How a process ended before the summary: by an exit code, or without one by a signal. -/
def exitDescription : Option Int → String
  | some code => "exit code " ++ toString code
  | none => "terminated by signal"

/-- The section of the dialog on the process, for the two outcomes that have one: an exit without
summary, and an error of the worker. -/
def SessionOutcome.section? : SessionOutcome → Option String
  | .abnormalExit code => some
    ("Element Finder CLI exited before completing the search (" ++ exitDescription code ++ ").")
  | .workerError message => some ("Element Finder could not finish the search: " ++ message)
  | _ => none

/-- What the process wrote that is no message: the malformed lines, and at their end the reason of a
failure. -/
def SessionReport.invalid (r : SessionReport) : List String :=
  match r.outcome with
  | .failed reason => r.malformed ++ [reason]
  | _ => r.malformed

/-- The section of the dialog on what the process wrote, if there is anything to tell. -/
def invalidSection? : List String → Option String
  | [] => none
  | lines => some ("Invalid response from Element Finder CLI:\n" ++ String.intercalate "\n" lines)

/-- The sections of the dialog, that on the process before that on what it wrote. -/
def SessionReport.sections (r : SessionReport) : List String :=
  r.outcome.section?.toList ++ (invalidSection? r.invalid).toList

/-- The text of the dialog, if the session needs one: a cancelled session does not, and neither does
one without sections. -/
def SessionReport.errorMessage (r : SessionReport) : Option String :=
  if r.outcome = .cancelled then none
  else match r.sections with
    | [] => none
    | sections => some (String.intercalate "\n\n" sections)

/-- A cancelled session is silent, whatever its malformed lines are. -/
theorem SessionReport.errorMessage_cancelled {r : SessionReport} (h : r.outcome = .cancelled) :
    r.errorMessage = none := by
  simp [errorMessage, h]

/-- A session that was not cancelled is silent exactly if it completed without malformed lines. -/
theorem SessionReport.errorMessage_eq_none_iff {r : SessionReport} (h : r.outcome ≠ .cancelled) :
    r.errorMessage = none ↔ (∃ s, r.outcome = .completed s) ∧ r.malformed = [] := by
  obtain ⟨outcome, stats, malformed⟩ := r
  cases outcome <;> cases malformed <;>
    simp_all [errorMessage, sections, invalid, invalidSection?, SessionOutcome.section?]

end SelectorSearch
