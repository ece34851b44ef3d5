import SelectorSearch.Host
import SelectorSearch.Log
import SelectorSearch.Text.Truncate
import SelectorSearch.Text.Utf8

/-!
# The Terminal

A terminal as the host of a command. Results go to the standard output and all else, which is
titles, progress, questions and failures, to the standard error, so that results can be piped.

The progress status stays on the last line until it is wiped. The terminal wipes it before it
writes anything else below it, and only if it is there. The log goes to the standard error as well,
past the terminal: a line of the log is written behind whatever is on the last line.

## Main results

* `results_showView`: the standard output receives exactly the text of the results.
* `reactAll_append`: events in two parts are written one part after the other.
-/

namespace SelectorSearch

/-- One thing written to a terminal, with what it is for. -/
inductive TerminalWrite where
  /-- Text of the results, for the standard output. -/
  | results (text : String)
  /-- Wipes the last line. -/
  | wipe
  /-- A status, with the cursor left behind it. -/
  | status (text : String)
  /-- The name of a view, on a line of its own. -/
  | title (text : String)
  /-- A failure, on a line of its own. -/
  | failure (text : String)
  /-- A question, with the answer that an empty line gives. -/
  | question (caption initial : String)
  /-- A line of the log. -/
  | log (r : LogRecord)
  deriving DecidableEq, Repr

/-! ### Text of the writes -/

/-- How much of an answer a question shows, in characters. -/
def shownAnswerLimit : Nat := 40

namespace TerminalWrite

/-- What the standard output receives of a write, which is text of results only. -/
def output : TerminalWrite → String
  | results text => text
  | _ => ""

/-- The sequence that takes the cursor to the front of its line and clears the line. -/
def clearLine : String := "\r\x1b[2K"

/-- What the standard error receives at the time `now`, which titles, failures and lines of the log
carry. -/
def error (now : String) : TerminalWrite → String
  | results _ => ""
  | wipe => clearLine
  | status text => dim text
  | title text => dim now ++ " " ++ bold (blue "[SEARCH]") ++ " " ++ cyan text ++ "\n"
  | failure text => dim now ++ " " ++ bold (red "[ERROR]") ++ " " ++ red text ++ "\n"
  | question caption "" => bold caption ++ " "
  | question caption initial =>
    bold caption ++ " [" ++ dim (Text.truncate initial shownAnswerLimit) ++ "] "
  | log r => r.text now

/-- What the standard output receives from some `writes`, one after another. -/
def outputText (writes : List TerminalWrite) : String :=
  String.join (writes.map output)

/-- What the standard error receives from some `writes`, one after another, at the time `now`. -/
def errorText (now : String) (writes : List TerminalWrite) : String :=
  String.join (writes.map (error now))

end TerminalWrite

/-! ### The terminal as a host -/

/-- What a terminal knows of itself: whether a status is shown. -/
structure Terminal where
  /-- Whether a status is on display. -/
  statusShown : Bool := false
  deriving DecidableEq, Repr

namespace Terminal

/-- What is written before anything goes below the status: a wipe, if a status is shown. -/
def wiping (t : Terminal) : List TerminalWrite :=
  if t.statusShown then [.wipe] else []

/-- Does one thing to the result view. A terminal has no use for settings. -/
def showView (t : Terminal) : ViewEvent → Terminal × List TerminalWrite
  | .name title => (t, [.title title])
  | .append text => (⟨false⟩, t.wiping ++ [.results text])
  | .setStatus _ text => (⟨true⟩, [.wipe, .status text])
  | .eraseStatus _ => (⟨false⟩, t.wiping)
  | .scratch _ | .syntaxFile _ | .setting .. => (t, [])

/-- Does one thing to the host. A question is asked only if nothing has answered it already. -/
def present (asks : Bool) (t : Terminal) : HostEffect → Terminal × List TerminalWrite
  | .prompt caption initial => (t, if asks then [.question caption initial] else [])
  | .openView => (⟨false⟩, [])
  | .view e => t.showView e
  | .dialog text => (t, [.failure text])

/-- One thing that reaches the terminal: something that a command does to its host, or a line of the
log, of which the host knows nothing. -/
inductive Event where
  | effect (e : HostEffect)
  | log (r : LogRecord)
  deriving DecidableEq, Repr

/-- What an event does to the host, which a line of the log does not. -/
def Event.effect? : Event → Option HostEffect
  | effect e => some e
  | log _ => none

/-- What a terminal makes of an event: itself after it, and what it writes for it. -/
def react (asks : Bool) (t : Terminal) : Event → Terminal × List TerminalWrite
  | .effect e => t.present asks e
  | .log r => (t, [.log r])

/-- What a terminal makes of several events, one after another. -/
def reactAll (asks : Bool) (t : Terminal) : List Event → Terminal × List TerminalWrite
  | [] => (t, [])
  | e :: rest =>
    let (t, writes) := t.react asks e
    let (t, more) := reactAll asks t rest
    (t, writes ++ more)

/-- What a new terminal writes for some `events`. -/
def writes (asks : Bool) (events : List Event) : List TerminalWrite :=
  (reactAll asks {} events).2

/-- What the first line of an input answers to a question. An empty line stands for the text that
the question shows; an input that ends at once, or is no text, dismisses the question. -/
def answer? (input : List UInt8) (initial : String) : Option String :=
  let line := input.takeWhile (· ≠ 0x0A)
  if input.isEmpty then none
  else (Utf8.decode? line).map fun chars =>
    let text := (chars.reverse.dropWhile (· = '\r')).reverse
    if text.isEmpty then initial else String.ofList text

/-- The standard output receives exactly the text that an event `e` adds to the results. -/
theorem results_showView (t : Terminal) (e : ViewEvent) :
    TerminalWrite.outputText (t.showView e).2 = e.body := by
  cases t with | mk statusShown =>
  cases e <;> cases statusShown <;>
    simp [showView, wiping, TerminalWrite.outputText, TerminalWrite.output, ViewEvent.body,
      String.join]

/-- What is written for the first one of several events, and then for the `rest` from where it
leads. -/
theorem reactAll_cons (asks : Bool) (t : Terminal) (e : Event) (rest : List Event) :
    reactAll asks t (e :: rest) =
      ((reactAll asks (t.react asks e).1 rest).1,
        (t.react asks e).2 ++ (reactAll asks (t.react asks e).1 rest).2) := rfl

/-- **Events may be cut anywhere**: for `a` and `b` together it is written what is written for `a`,
and then what the terminal that `a` leaves writes for `b`. -/
theorem reactAll_append (asks : Bool) (t : Terminal) (a b : List Event) :
    reactAll asks t (a ++ b) =
      ((reactAll asks (reactAll asks t a).1 b).1,
        (reactAll asks t a).2 ++ (reactAll asks (reactAll asks t a).1 b).2) := by
  induction a generalizing t with
  | nil => rfl
  | cons e rest ih => simp only [List.cons_append, reactAll_cons, ih, List.append_assoc]

end Terminal

end SelectorSearch
