import SelectorSearch.Session.Report
import SelectorSearch.Text.Style

/-!
# The Log

Beside what it shows to its user, the program logs what it does. A line of the log has a level, and
only lines up to some level are written: by default warnings and errors, more with flags on the
command line, and whatever the variable `RUST_LOG` says if it is set.

The log goes to the standard error, where the titles, the progress and the failures go as well.

## Main results

* `LogRecord.toList_text`: a line of the log starts with a control sequence.
* `Logging.keeps_of_default`: a run without flags and without the variable logs its warnings.
-/

namespace SelectorSearch

/-! ### Lines of the log -/

/-- How much a line of the log matters, the gravest level first. -/
inductive LogLevel where
  | error
  | warn
  | info
  | debug
  | trace
  deriving DecidableEq, Repr

namespace LogLevel

/-- The number of levels up to this one, so that a graver level has a smaller rank. -/
def rank : LogLevel → Nat
  | error => 1
  | warn => 2
  | info => 3
  | debug => 4
  | trace => 5

/-- The name of a level in a setting. -/
def name : LogLevel → String
  | error => "error"
  | warn => "warn"
  | info => "info"
  | debug => "debug"
  | trace => "trace"

/-- How a level stands in a line: its name in capitals, with five places and a colour. -/
def label : LogLevel → String
  | error => styled "31" "0" "ERROR"
  | warn => styled "33" "0" " WARN"
  | info => styled "32" "0" " INFO"
  | debug => styled "34" "0" "DEBUG"
  | trace => styled "35" "0" "TRACE"

/-- Every level, the gravest one first. -/
def all : List LogLevel := [error, warn, info, debug, trace]

end LogLevel

/-- A line of the log before it is written down. -/
structure LogRecord where
  level : LogLevel
  /-- The part of the program that logs. -/
  origin : String
  message : String
  /-- Values with their names. -/
  values : List (String × String) := []
  deriving DecidableEq, Repr

namespace LogRecord

/-- A value with its name, behind what stands before it. -/
def valueText (value : String × String) : String :=
  " " ++ italic value.1 ++ dim "=" ++ value.2

/-- A line of the log: the time `now`, the level, the origin, the message and the values. -/
def text (now : String) (r : LogRecord) : String :=
  dim now ++ " " ++ r.level.label ++ " " ++ dim r.origin ++ dim ":" ++ " " ++ r.message
    ++ String.join (r.values.map valueText) ++ "\n"

/-- A line of the log starts with a control sequence, whatever the time `now` is, and never with a
carriage return. -/
theorem toList_text (now : String) (r : LogRecord) :
    ∃ rest, (r.text now).toList = '\x1b' :: rest := by
  obtain ⟨rest, hdim⟩ := toList_styled "2" "0" now
  simp only [text, String.toList_append, dim, hdim, List.cons_append]
  exact ⟨_, rfl⟩

end LogRecord

/-! ### What is logged -/

/-- What of the log is written, and the name that the session has in it. -/
structure Logging where
  /-- The last level that is written; nothing if no line is. -/
  level : Option LogLevel := none
  session : String := "00000000-0000-0000-0000-000000000000"
  deriving DecidableEq, Repr

namespace Logging

/-- Whether a line is written, which its level decides. -/
def keeps (l : Logging) (r : LogRecord) : Bool :=
  l.level.any fun last => r.level.rank ≤ last.rank

/-- The last level that is written for a number of flags on the command line. -/
def ofVerbosity : Nat → LogLevel
  | 0 => .warn
  | 1 => .info
  | 2 => .debug
  | _ => .trace

/-- What the value of `RUST_LOG` says, if it can be read: a level by its name or its number, with
`off` and zero for no level, and errors only for an empty value. Values that treat parts of the
program differently are not told apart from those that cannot be read. -/
def ofSetting? (value : String) : Option (Option LogLevel) :=
  let value := value.toLower
  if value.isEmpty then some (some .error)
  else if value = "off" || value = "0" then some none
  else (LogLevel.all.find? fun l => l.name = value || toString l.rank = value).map some

/-- What is logged where the variables have the values in `bindings`, with a number of flags on the
command line. A value of `RUST_LOG` that can be read takes precedence over the flags. -/
def ofBindings (bindings : List (String × String)) (verbosity : Nat) : Logging :=
  { level := ((bindings.lookup "RUST_LOG").bind ofSetting?).getD (some (ofVerbosity verbosity)) }

/-- **A run without flags and without the variable `RUST_LOG` writes its warnings and errors**, and
nothing else. -/
theorem keeps_of_default {bindings : List (String × String)}
    (h : bindings.lookup "RUST_LOG" = none) (r : LogRecord) :
    (ofBindings bindings 0).keeps r = true ↔ r.level = .error ∨ r.level = .warn := by
  rw [ofBindings, h]
  cases hlevel : r.level <;> simp [keeps, ofVerbosity, LogLevel.rank, hlevel]

/-- With the variable at `off` nothing is written, whatever the flags are. -/
example (verbosity : Nat) (r : LogRecord) :
    (ofBindings [("RUST_LOG", "off")] verbosity).keeps r = false := by
  have h : ofSetting? "off" = some none := by cbv
  simp [ofBindings, keeps, h]

end Logging

/-! ### What the driver of a session logs -/

/-- The text of an exit code, which a process that was ended by a signal does not have. -/
def exitCodeText : Option Int → String
  | some code => "Some(" ++ toString code ++ ")"
  | none => "None"

/-- What the driver of a session logs at its end, before it erases the status of the view: an exit
without a summary, or an error of the worker. The other ends are told elsewhere, or to nobody. -/
def SessionOutcome.logged? (session : String) : SessionOutcome → Option LogRecord
  | .abnormalExit code =>
    some
      { level := .warn
        origin := "element_finder::session::driver"
        message := "element-finder exited without completing"
        values := [("session", session), ("code", exitCodeText code)] }
  | .workerError message =>
    some
      { level := .error
        origin := "element_finder::session::driver"
        message := "element-finder worker failed"
        values := [("session", session), ("error", message)] }
  | .completed _ | .failed _ | .cancelled => none

end SelectorSearch
