import SelectorSearch.Process.Life

/-!
# Child Processes

A running child as the process that started it sees it: it may take the two pipes once, read from
them, wait for the end of the child, kill it, or ask it to end and kill it when it does not. The
clock is that of whoever does these things, and goes on when they have to wait.

Something that never happens cannot be waited for; it is `none`.

## Main results

* `Child.wait_of_wait`: once a child has been waited for, waiting again tells the same.
* `Child.hasNumber_of_kill`, `Child.hasNumber_of_terminate`: a child that was killed or asked to end
  is sent no further signals.
-/

namespace SelectorSearch

/-- What is known of one pipe of a child: whether it was taken, and how far it was read. -/
structure PipeState where
  taken : Bool := false
  /-- The number of bytes that were read. -/
  consumed : Nat := 0
  deriving DecidableEq, Repr

/-- A child process: its program, the signals that were sent to it, and how far it was read and
waited for. -/
structure Child where
  program : Program
  clock : Nat := 0
  /-- The signals that were sent. -/
  sent : List Sending := []
  /-- How the child ended, once somebody has waited for it. -/
  reaped : Option ExitStatus := none
  output : PipeState := {}
  error : PipeState := {}

namespace Child

/-- The life of the child under the signals that were sent so far. -/
def life (c : Child) : Life :=
  c.program c.sent

/-- Whether the child still has a process number, which it loses when somebody has waited for it. -/
def hasNumber (c : Child) : Bool :=
  c.reaped.isNone

/-- What is known of a pipe of the child. -/
def pipe (c : Child) : Stream → PipeState
  | .output => c.output
  | .error => c.error

/-- Changes what is known of a pipe of the child. -/
def setPipe (c : Child) (stream : Stream) (p : PipeState) : Child :=
  match stream with
  | .output => { c with output := p }
  | .error => { c with error := p }

/-- Takes a pipe of the child, and says whether it was there to take. -/
def takePipe (c : Child) (stream : Stream) : Child × Bool :=
  (c.setPipe stream { c.pipe stream with taken := true }, !(c.pipe stream).taken)

/-- The child at a later `time`, or at its own if that is later. -/
def waitUntil (c : Child) (time : Nat) : Child :=
  { c with clock := max c.clock time }

/-! ### Reading -/

/-- The bytes of a pipe that are not read yet, each with the time of its writing. -/
def unread (c : Child) (stream : Stream) : List (UInt8 × Nat) :=
  let all := (c.life.written stream).flatMap fun w => w.bytes.map (·, w.time)
  all.drop (c.pipe stream).consumed

/-- The child after some `bytes` of a pipe were read, which is when the last of them was there. -/
def consume (c : Child) (stream : Stream) (bytes : List (UInt8 × Nat)) : Child :=
  let p := c.pipe stream
  let c := c.setPipe stream { p with consumed := p.consumed + bytes.length }
  c.waitUntil ((bytes.map Prod.snd).foldl max 0)

/-- Reads a pipe to its end, if it has one. -/
def readAll (c : Child) (stream : Stream) : Option (Child × List UInt8) := do
  let closes ← c.life.closes stream
  let bytes := c.unread stream
  return ((c.consume stream bytes).waitUntil closes, bytes.map Prod.fst)

/-- Reads a line of a pipe, with its line feed, or what is left if there is none. -/
def readLine (c : Child) (stream : Stream) : Option (Child × List UInt8) :=
  let unread := c.unread stream
  let line := unread.takeWhile fun (b, _) => b ≠ 0x0A
  if line.length < unread.length then
    let line := unread.take (line.length + 1)
    some (c.consume stream line, line.map Prod.fst)
  else c.readAll stream

/-! ### Ends -/

/-- Waits for the end of the child, if it has one, and tells how it ended. -/
def wait (c : Child) : Option (Child × ExitStatus) :=
  match c.reaped with
  | some status => some (c, status)
  | none => do
    let (time, status) ← c.life.ended
    return ({ c.waitUntil time with reaped := some status }, status)

/-- The child with a `signal` on its way, from the present time on. -/
def send (c : Child) (signal : Signal) : Child :=
  { c with sent := c.sent ++ [⟨c.clock, signal⟩] }

/-- Kills the child and waits for its end. -/
def kill (c : Child) : Option Child :=
  if c.hasNumber then (c.send .kill).wait.map Prod.fst else some c

/-- Asks the child to end, and kills it if it does not in time. -/
def terminate (c : Child) (timeout : Nat) : Option Child :=
  if c.hasNumber then
    let asked := c.send .terminate
    let inTime := asked.life.ended.any fun (time, _) => time ≤ c.clock + timeout
    if inTime then asked.wait.map Prod.fst
    else (asked.waitUntil (c.clock + timeout)).kill
  else some c

/-- **Waiting again changes nothing** about the child `d`, and tells the same `status`. -/
theorem wait_of_wait {c d : Child} {status : ExitStatus} (h : c.wait = some (d, status)) :
    d.wait = some (d, status) ∧ d.hasNumber = false := by
  rw [wait] at h
  split at h
  case h_1 s hreaped =>
      obtain ⟨rfl, rfl⟩ := Prod.mk.inj (Option.some.inj h)
      rw [wait, hreaped, hasNumber, hreaped]
      exact ⟨rfl, rfl⟩
  case h_2 =>
      obtain ⟨⟨time, s⟩, -, hd⟩ := Option.bind_eq_some_iff.mp h
      obtain ⟨rfl, rfl⟩ := Prod.mk.inj (Option.some.inj hd)
      exact ⟨rfl, rfl⟩

/-- **A child that was killed has no number any more**, so that no signal can reach another process
in its place. -/
theorem hasNumber_of_kill {c d : Child} (h : c.kill = some d) : d.hasNumber = false := by
  rw [kill] at h
  split at h
  case isTrue =>
      obtain ⟨⟨d', status⟩, hwait, rfl⟩ := Option.map_eq_some_iff.mp h
      exact (wait_of_wait hwait).2
  case isFalse hnumber =>
      obtain rfl := Option.some.inj h
      exact eq_false_of_ne_true hnumber

/-- A child that was asked to end has no number any more either, whether it ended or was killed. -/
theorem hasNumber_of_terminate {c d : Child} {timeout : Nat} (h : c.terminate timeout = some d) :
    d.hasNumber = false := by
  rw [terminate] at h
  split at h
  case isTrue =>
      dsimp only at h
      split at h
      · obtain ⟨⟨d', status⟩, hwait, rfl⟩ := Option.map_eq_some_iff.mp h
        exact (wait_of_wait hwait).2
      · exact hasNumber_of_kill h
  case isFalse hnumber =>
      obtain rfl := Option.some.inj h
      exact eq_false_of_ne_true hnumber

end Child

end SelectorSearch
