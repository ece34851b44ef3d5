/-!
# Signals

The signals of the operating system, by number, with their names and with what they do to a
process that has made no arrangements for them.
-/

namespace SelectorSearch

/-- A signal, by its number. -/
structure Signal where
  number : Nat
  deriving DecidableEq, Repr

namespace Signal

/-- The signal of the user's interruption. -/
def interrupt : Signal := ⟨2⟩

/-- The signal that ends a process whatever it has arranged. -/
def kill : Signal := ⟨9⟩

/-- The signal that asks a process to end. -/
def terminate : Signal := ⟨15⟩

/-- The names of signals, each with its number. -/
def names : List (String × Nat) :=
  [("HUP", 1), ("INT", 2), ("QUIT", 3), ("ILL", 4), ("TRAP", 5), ("ABRT", 6), ("BUS", 7),
    ("FPE", 8), ("KILL", 9), ("USR1", 10), ("SEGV", 11), ("USR2", 12), ("PIPE", 13),
    ("ALRM", 14), ("TERM", 15), ("STKFLT", 16), ("CHLD", 17), ("CONT", 18), ("STOP", 19),
    ("TSTP", 20), ("TTIN", 21), ("TTOU", 22), ("URG", 23), ("XCPU", 24), ("XFSZ", 25),
    ("VTALRM", 26), ("PROF", 27), ("WINCH", 28), ("POLL", 29), ("PWR", 30), ("SYS", 31)]

/-- The signal of a name or a number, if there is one. -/
def ofText? (text : String) : Option Signal :=
  match names.lookup text with
  | some n => some ⟨n⟩
  | none =>
    if text.toList.all Char.isDigit ∧ text ≠ "" then text.toNat?.map Signal.mk else none

/-- Whether the signal ends a process that has made no arrangements: all do but those about
children, continuation, urgent data, the window, and those that only stop the process. -/
def isFatal (s : Signal) : Bool :=
  1 ≤ s.number && s.number ≤ 64 && s.number ∉ [17, 18, 19, 20, 21, 22, 23, 28]

/-- What a shell says about a child that a signal ended; it is silent about an interruption and a
broken pipe. -/
def description? (s : Signal) : Option String :=
  [(1, "Hangup"), (3, "Quit"), (4, "Illegal instruction"), (5, "Trace/breakpoint trap"),
    (6, "Aborted"), (7, "Bus error"), (8, "Floating point exception"), (9, "Killed"),
    (10, "User defined signal 1"), (11, "Segmentation fault"), (12, "User defined signal 2"),
    (14, "Alarm clock"), (15, "Terminated")].lookup s.number

end Signal

end SelectorSearch
