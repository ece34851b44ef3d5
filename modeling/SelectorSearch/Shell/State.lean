import SelectorSearch.FileTree
import SelectorSearch.Process.Life
import SelectorSearch.Shell.Command
import SelectorSearch.Shell.Format

/-!
# The State of a Shell

What a shell knows while it runs a script, and what it leaves behind: the log of everything that
can be seen from outside. Commands take no time, except that a round of a loop takes a millisecond
and that a script may sleep; so a shell notices signals only when its clock moves.

## Main results

* `Descriptors.lookup_set`, `Descriptors.lookup_close`: what is done to one descriptor leaves the
  others alone.
-/

namespace SelectorSearch.Shell

/-! ### Holding pipes -/

/-- When a pipe is let go of: at some time, or never. -/
inductive Hold where
  | upTo (time : Nat)
  | forever
  deriving DecidableEq, Repr

/-- The later one of two times at which a pipe is let go of. -/
def Hold.later : Hold → Hold → Hold
  | .upTo a, .upTo b => .upTo (max a b)
  | _, _ => .forever

/-- The time at which a pipe is let go of, if there is one. -/
def Hold.time? : Hold → Option Nat
  | .upTo t => some t
  | .forever => none

/-- What can be seen of a shell and its children from outside. -/
structure Log where
  /-- What was written, last first. -/
  writings : List Writing := []
  interrupts : List Nat := []
  output : Hold := .upTo 0
  error : Hold := .upTo 0
  deriving Repr

/-! ### Descriptors -/

/-- What a descriptor stands for, be it something to write to or something to read. -/
inductive Target where
  /-- Swallows what is written and has nothing to read. -/
  | nothing
  | pipe (s : Stream)
  /-- Keeps what is written for the script that asked for it. -/
  | captured
  /-- Has something to read, which whoever has it open uses up together. -/
  | source (number : Nat)
  /-- Keeps what is written in the file at a place. -/
  | file (place : List String)
  deriving DecidableEq, Repr

/-- The open descriptors, each with what it stands for. -/
abbrev Descriptors := List (Nat × Target)

/-- The descriptors with `n` standing for a target `t`. -/
def Descriptors.set (ds : Descriptors) (n : Nat) (t : Target) : Descriptors :=
  (n, t) :: ds.filter (·.1 ≠ n)

/-- The descriptors without `n`, which stands for nothing any more. -/
def Descriptors.close (ds : Descriptors) (n : Nat) : Descriptors :=
  ds.filter (·.1 ≠ n)

/-- Whether a pipe is among what the descriptors stand for. -/
def Descriptors.holds (ds : Descriptors) (s : Stream) : Bool :=
  ds.any (·.2 = .pipe s)

/-- Where pairs are kept or dropped by their keys, a key that is kept has the value that it had. -/
theorem lookup_filter {α β : Type} [BEq α] [LawfulBEq α] (keep : α → Bool) (pairs : List (α × β))
    (key : α) :
    (pairs.filter fun p => keep p.1).lookup key =
      if keep key then pairs.lookup key else none := by
  induction pairs with
  | nil => split <;> rfl
  | cons p rest ih =>
      obtain ⟨other, value⟩ := p
      rw [List.filter_cons, List.lookup_cons]
      by_cases hkey : key = other
      · subst hkey
        by_cases hkeep : keep key <;> simp [hkeep, ih]
      · have hne : (key == other) = false := beq_false_of_ne hkey
        by_cases hother : keep other <;> simp [hother, hne, ih, List.lookup_cons]

namespace Descriptors

/-- A descriptor `n` that is closed stands for nothing, and all others for what they stood for. -/
theorem lookup_close (ds : Descriptors) (n m : Nat) :
    (ds.close n).lookup m = if m = n then none else ds.lookup m := by
  rw [close, lookup_filter (· ≠ n)]
  by_cases h : m = n <;> simp [h]

/-- **A descriptor `n` that is set stands for its new target**, and all others for what they stood
for. -/
theorem lookup_set (ds : Descriptors) (n m : Nat) (target : Target) :
    (ds.set n target).lookup m = if m = n then some target else ds.lookup m := by
  have hclose : (ds.filter (·.1 ≠ n)).lookup m = _ := ds.lookup_close n m
  rw [set, List.lookup_cons, hclose]
  by_cases h : m = n
  · simp [h]
  · simp [h, beq_false_of_ne h]

end Descriptors

/-- What a process has open at its start: an input with nothing to read, and the two pipes. -/
def standardDescriptors : Descriptors :=
  [(0, .nothing), (1, .pipe .output), (2, .pipe .error)]

/-! ### Programs and what surrounds them -/

/-- A call of a program by a script: the files that are there, the arguments, the variables that the
program sees, and its standard input. -/
structure Call where
  files : FileTree := {}
  args : List String := []
  bindings : List (String × String) := []
  input : List UInt8 := []

/-- What a call leaves behind: what was written to which stream, in its order, and the exit code. -/
structure Outcome where
  written : List (Stream × List UInt8) := []
  code : Nat := 0
  deriving DecidableEq, Repr

/-- What a process finds at its start beside the files. -/
structure Environment where
  bindings : List (String × String) := []
  /-- The program that starts the process, for a script that calls it again. -/
  parent : Option (Call → Outcome) := none

/-! ### Shells -/

/-- A child in the background: its number, and when and how it ends, if it does. -/
structure Job where
  number : Nat
  ended : Option (Nat × ExitStatus)
  deriving DecidableEq, Repr

/-- The child after a signal, which ends it if it still runs and the signal ends processes. -/
def Job.sent (j : Job) (time : Nat) (signal : Signal) : Job :=
  let runs := j.ended.all fun (t, _) => time < t
  if runs && signal.isFatal then { j with ended := some (time, .signal signal) } else j

/-- A shell between two commands: its files, its variables, its descriptors, its clock, and all that
is arranged. -/
structure State where
  clock : Nat := 0
  files : FileTree := {}
  /-- The name of the script. -/
  name : String := "sh"
  args : List String := []
  bindings : List (String × String) := []
  /-- The variables that programs see. -/
  exported : List String := []
  functions : List (String × Command) := []
  /-- The last one first. -/
  jobs : List Job := []
  /-- The exit code of the last command. -/
  status : Nat := 0
  /-- Whether a failure ends the shell. -/
  stopsOnFailure : Bool := false
  /-- Whether the present command may fail, because its result is asked for. -/
  tolerant : Bool := false
  /-- The line of the present command. -/
  line : Nat := 0
  /-- What to do at a signal; number zero stands for the end. -/
  traps : List (Nat × List Char) := []
  descriptors : Descriptors := standardDescriptors
  /-- The signals that have not been noticed yet, in the order of time. -/
  pending : List Sending := []
  log : Log := {}
  /-- What was captured, last piece first. -/
  captured : List (List UInt8) := []
  /-- What is left to read of each source. -/
  sources : Array (List UInt8) := #[]
  /-- The program that started the shell, if it can be called again. -/
  parent : Option (Call → Outcome) := none

/-- Why a command does not come to its end. -/
inductive Interruption where
  /-- The process is at its end. -/
  | ended (s : ExitStatus)
  /-- The process still runs when nobody looks any more. -/
  | unfinished
  | breaks
  | continues
  | returns
  deriving DecidableEq, Repr

/-- An action of a shell, which changes its state and may be interrupted. -/
abbrev Action := EStateM Interruption State

/-- How long a process is looked at, in ticks of the clock. -/
def horizon : Nat := 20000 * millisecond

/-- The process number of a shell. -/
def ownNumber : Nat := 1001

/-- The process number of whoever started the shell. -/
def parentNumber : Nat := 1000

/-- The path at which the system has the program of whoever started the shell. -/
def parentPath : String := "/proc/" ++ toString parentNumber ++ "/exe"

/-! ### Writing -/

/-- Writes to a descriptor; whether that is possible. -/
def write (descriptor : Nat) (bytes : List UInt8) : Action Bool := do
  let s ← get
  match s.descriptors.lookup descriptor with
  | none => return false
  | some (.pipe stream) =>
    if !bytes.isEmpty then
      set { s with log.writings := ⟨s.clock, stream, bytes⟩ :: s.log.writings }
    return true
  | some .captured =>
    set { s with captured := bytes :: s.captured }
    return true
  | some (.file place) =>
    set { s with files := s.files.appendAt place bytes }
    return true
  | some _ => return true

/-- Opens some `bytes` to be read as an input. -/
def openSource (bytes : List UInt8) : Action Target :=
  modifyGet fun s => (.source s.sources.size, { s with sources := s.sources.push bytes })

/-- Takes from the standard input what a function takes from all that is left there. -/
def takeInput (take : List UInt8 → List UInt8) : Action (List UInt8) :=
  modifyGet fun s =>
    match s.descriptors.lookup 0 with
    | some (.source number) =>
      let left := s.sources.getD number []
      let taken := take left
      (taken, { s with sources := s.sources.setIfInBounds number (left.drop taken.length) })
    | _ => ([], s)

/-- Writes a line about an error of a program. -/
def complain (text : String) : Action Unit := do
  let _ ← write 2 (bytesOfString (text ++ "\n"))

/-- Writes a line about an error of the script, which names the script and the line. -/
def complainHere (text : String) : Action Unit := do
  let s ← get
  complain (s.name ++ ": " ++ toString s.line ++ ": " ++ text)

/-- The last command ended with this `code`. -/
def setStatus (code : Nat) : Action Unit :=
  modify fun s => { s with status := code }

/-- The end of the process with a `code`. -/
def exitWith {α : Type} (code : Nat) : Action α :=
  throw (Interruption.ended (.code (code % 256)))

/-! ### Holding -/

/-- The log after some descriptors were open until some time. -/
def Log.hold (log : Log) (ds : Descriptors) (h : Hold) : Log :=
  { log with
    output := if ds.holds .output then log.output.later h else log.output
    error := if ds.holds .error then log.error.later h else log.error }

/-- The shell after its descriptors were open until now. -/
def State.held (s : State) : State :=
  { s with log := s.log.hold s.descriptors (.upTo s.clock) }

/-! ### Shells within -/

/-- How an action came to its end, by what interrupted it. -/
def endOf (s : State) : Interruption → Option ExitStatus
  | .ended status => some status
  | .unfinished => none
  | .breaks | .continues | .returns => some (.code s.status)

/-- Runs an action in a shell of its own: when and how it ends, if it does. No signal reaches that
shell, and of its changes only those to the outside remain. -/
def inOwnShell (body : Action Unit) : Action (Option (Nat × ExitStatus)) := do
  let s ← get
  let start := { s with pending := [], jobs := [], traps := s.traps.filter (·.2.isEmpty) }
  let (after, status) : State × Option ExitStatus := match body.run start with
    | .ok () t => (t, some (.code t.status))
    | .error e t => (t, endOf t e)
  let hold := if status.isSome then Hold.upTo after.clock else .forever
  set { s with
    log := after.log.hold after.descriptors hold
    files := { s.files with top := after.files.top }
    captured := after.captured
    sources := after.sources }
  return status.map (after.clock, ·)

end SelectorSearch.Shell
