import SelectorSearch.Process.Signal

/-!
# The Life of a Process

What can be seen of a process from outside, on a clock that starts with the process and counts
microseconds: what it writes to its two output pipes, when it interrupts the process that started
it, when and how it ends, and when the last holder of each pipe lets go of it, which may be a
child that lives on.

A program is a process that has not been started: its life depends on the signals that it will be
sent.
-/

namespace SelectorSearch

/-- The number of clock ticks in a millisecond. -/
def millisecond : Nat := 1000

/-- How a process ended: with a code, or by a signal. -/
inductive ExitStatus where
  | code (n : Nat)
  | signal (s : Signal)
  deriving DecidableEq, Repr

/-- The exit code, unless a signal ended the process. -/
def ExitStatus.code? : ExitStatus → Option Nat
  | .code n => some n
  | .signal _ => none

/-- The number of the signal that ended the process, if one did. -/
def ExitStatus.signal? : ExitStatus → Option Nat
  | .code _ => none
  | .signal s => some s.number

/-- The code by which a script sees how a process ended, which is above 128 for a signal. -/
def ExitStatus.visibleCode : ExitStatus → Nat
  | .code n => n
  | .signal s => 128 + s.number

/-- The two output pipes of a process. -/
inductive Stream where
  | output
  | error
  deriving DecidableEq, Repr

/-- Something written to a pipe, and when. -/
structure Writing where
  time : Nat
  stream : Stream
  bytes : List UInt8
  deriving DecidableEq, Repr

/-- The life of a process: what it writes, when its pipes are closed, and how it ends. -/
structure Life where
  /-- In the order of time. -/
  writings : List Writing := []
  /-- When the process interrupts the one that started it. -/
  interrupts : List Nat := []
  /-- When and how the process ends, if it does. -/
  ended : Option (Nat × ExitStatus) := none
  /-- When the last holder of the standard output lets go of it, if that happens. -/
  outputCloses : Option Nat := none
  /-- When the last holder of the error output lets go of it, if that happens. -/
  errorCloses : Option Nat := none
  deriving DecidableEq, Repr

/-- When the last holder of a pipe lets go of it, if that ever happens. -/
def Life.closes (l : Life) : Stream → Option Nat
  | .output => l.outputCloses
  | .error => l.errorCloses

/-- What is written to one of the pipes, in its order. -/
def Life.written (l : Life) (stream : Stream) : List Writing :=
  l.writings.filter (·.stream = stream)

/-- A signal, and when it is sent. -/
structure Sending where
  time : Nat
  signal : Signal
  deriving DecidableEq, Repr

/-- A process that has not been started, as the life that it leads under any signals. -/
abbrev Program := (sent : List Sending) → Life

/-- Timed things in the order of their times; what happens at the same time keeps its order. -/
def orderByTime {α : Type} (time : α → Nat) (l : List α) : List α :=
  l.mergeSort fun a b => time a ≤ time b

end SelectorSearch
