import SelectorSearch.Invocation
import SelectorSearch.Launch
import SelectorSearch.Shell.Run

/-!
# Starting Processes

How an invocation becomes a process. The system refuses a text with a NUL character, then changes
to the working directory, then looks for the program, and last takes the arguments. Whatever does
not exist on the way, the working directory included, makes the executable count as not found.

## Main results

* `spawn_ok_iff`: a process starts exactly if the system finds what to run, and where.
-/

namespace SelectorSearch

/-- The first length of an argument, in bytes, that the system does not take. -/
def maxArgumentBytes : Nat := 131072

/-- The error of a launch that the system refused, where two reasons have errors of their own. -/
def LaunchError.ofRefusal (executable : Path) : OsError → LaunchError
  | .notFound => .executableNotFound executable
  | .permissionDenied => .permissionDenied executable
  | e => .refused e.message

namespace Invocation

/-- All texts of an invocation that the system is given. -/
def systemTexts (i : Invocation) : List String :=
  i.executable.text :: i.arguments ++ (i.workingDirectory.map Path.text).toList

/-- Whether one of the `systemTexts` has a NUL character, which the system cannot be given. -/
def hasNul (i : Invocation) : Bool :=
  i.systemTexts.any fun text => text.toList.contains '\x00'

/-- The tree seen from the directory in which the process runs, and the tool that it runs. -/
def prepare (i : Invocation) (t : FileTree) : Except OsError (FileTree × Shell.Tool) := do
  if i.hasNul then throw .nulByte
  let t ← match i.workingDirectory with
    | some folder => t.changeDirectory folder
    | none => .ok t
  let tool ← Shell.findProgram t i.executable.text
  if i.arguments.any (maxArgumentBytes ≤ ·.utf8ByteSize) then throw .listTooLong
  return (t, tool)

end Invocation

namespace Shell

/-- How many calls the run of a script is given. -/
def allFuel : Nat := 1000000

/-- The end of a process with a `code`, and with what its script wants to be done at the end. -/
def leave (code : Nat) : Action Unit := do
  let s ← get
  match s.traps.lookup 0 with
  | some action =>
    set { s with traps := [], status := code }
    runText allFuel action
  | none => pure ()
  exitWith code

/-- A whole process, from its start to its end. -/
def runProcess (name : String) (tool : Tool) (args : List String) : Action Unit := do
  let code ←
    try
      runTool allFuel true name tool args
      pure (← get).status
    catch
      | .ended (.code n) => pure n
      | .ended s => throw (Interruption.ended s)
      | .unfinished => throw Interruption.unfinished
      | _ => pure (← get).status
  leave code

/-- The life of a process, as its log and its end tell it. -/
def lifeOf (s : State) (end_ : Option ExitStatus) : Life :=
  let hold := if end_.isSome then Hold.upTo s.clock else .forever
  let log := s.log.hold s.descriptors hold
  { writings := orderByTime Writing.time log.writings.reverse
    interrupts := log.interrupts.reverse
    ended := end_.map (s.clock, ·)
    outputCloses := log.output.time?
    errorCloses := log.error.time? }

/-- The program that runs a `tool` in an environment, under whatever signals it is sent. -/
def programOf (environment : Environment) (t : FileTree) (name : String) (tool : Tool)
    (args : List String) : Program :=
  fun sent =>
    let start : State :=
      { files := t
        pending := orderByTime Sending.time sent
        bindings := environment.bindings
        exported := environment.bindings.map Prod.fst
        parent := environment.parent }
    match (runProcess name tool args).run start with
    | .ok () s => lifeOf s (some (.code s.status))
    | .error e s => lifeOf s (endOf s e)

end Shell

/-- Starts the process of an invocation in an `environment`, which has no part in whether the
process starts. -/
def spawn (t : FileTree) (i : Invocation) (environment : Shell.Environment := {}) :
    Except LaunchError Program :=
  match i.prepare t with
  | .error e => .error (.ofRefusal i.executable e)
  | .ok (t, tool) => .ok (Shell.programOf environment t i.executable.text tool i.arguments)

/-- **A process starts** exactly if the system finds what to run, and where, whatever the
`environment` is. -/
theorem spawn_ok_iff {t : FileTree} {i : Invocation} {environment : Shell.Environment} :
    (∃ program, spawn t i environment = .ok program) ↔ ∃ found, i.prepare t = .ok found := by
  rw [spawn]
  cases i.prepare t <;> simp

end SelectorSearch
