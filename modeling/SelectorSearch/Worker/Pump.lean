import SelectorSearch.LineDecoder
import SelectorSearch.Worker.Status

/-!
# The Pump

The pump is what a worker does with the two output pipes of its process. It takes one thing at a
time: a demand to stop, a read of either pipe, the end of the process, or the end of its patience.

What comes through the standard output is decoded and queued, malformed lines included. So are
the messages that come through the error output; but a line there that is no message is fatal.
The process is then terminated, the standard output is not looked at any more, and the error
output is read on, for all the lines that are no messages, until it ends or patience does. The
status at the end gives all these lines.

When both pipes are at their end the pump waits for the process. It obeys a demand to stop as long
as nothing was fatal.

A step that the pump does not take in its state is `none`.

## Main results

* `step?_finished`: a finished pump takes no step.
* `status_of_stop`: a pump that obeys a demand to stop is stopped.
* `queued_prefix`: what is queued stays queued.
-/

namespace SelectorSearch

/-- What one read of a pipe brings: a `chunk` of bytes, the end of the pipe, or a failure. -/
inductive PipeRead where
  | bytes (chunk : List UInt8)
  | endOfFile
  /-- The read failed; the pipe counts as at its end. -/
  | failed
  deriving DecidableEq, Repr

/-- One of the two pipes of the process, with the `LineDecoder` that its bytes go through. -/
structure Channel where
  decoder : LineDecoder := {}
  isOpen : Bool := true
  deriving DecidableEq, Repr

/-- The channel after a read, and the messages that the read completes. The end of the pipe and a
failed read complete the line that has no line feed, and close the channel. -/
def Channel.take (c : Channel) : PipeRead → Channel × List Message
  | .bytes chunk =>
    let (decoder, messages) := c.decoder.feed chunk
    ({ c with decoder }, messages)
  | .endOfFile | .failed =>
    let (decoder, last) := c.decoder.finish
    ({ decoder, isOpen := false }, last.toList)

/-- The texts of the lines among some `messages` that are `Message.malformed`, in their order. -/
def malformedTexts (messages : List Message) : List String :=
  messages.filterMap fun
    | .malformed raw => some raw
    | _ => none

/-- The `messages` that are not malformed, in their order, among them those of unknown status. -/
def wellFormed (messages : List Message) : List Message :=
  messages.filter fun m => !m.isMalformed

@[simp] theorem malformedTexts_nil : malformedTexts [] = [] := rfl

@[simp] theorem wellFormed_nil : wellFormed [] = [] := rfl

theorem malformedTexts_append (a b : List Message) :
    malformedTexts (a ++ b) = malformedTexts a ++ malformedTexts b := by
  simp [malformedTexts]

theorem wellFormed_append (a b : List Message) :
    wellFormed (a ++ b) = wellFormed a ++ wellFormed b := by
  simp [wellFormed]

/-- A text is among the `malformedTexts` exactly if its malformed line is among the messages. -/
theorem mem_malformedTexts {messages : List Message} {raw : String} :
    raw ∈ malformedTexts messages ↔ Message.malformed raw ∈ messages := by
  simp only [malformedTexts, List.mem_filterMap]
  constructor
  · rintro ⟨m, hm, hraw⟩
    cases m <;> cases hraw
    exact hm
  · exact fun h => ⟨_, h, rfl⟩

/-- There are `malformedTexts` exactly if one of the messages is `Message.malformed`. -/
theorem malformedTexts_ne_nil_iff {messages : List Message} :
    malformedTexts messages ≠ [] ↔ ∃ raw, Message.malformed raw ∈ messages := by
  simp only [← mem_malformedTexts]
  exact ⟨List.exists_mem_of_ne_nil _, fun ⟨_, h⟩ => List.ne_nil_of_mem h⟩

/-- Where `malformedTexts` finds nothing among some messages, none of them is malformed. -/
theorem isMalformed_of_malformedTexts {messages : List Message} (h : malformedTexts messages = [])
    {m : Message} (hm : m ∈ messages) : m.isMalformed = false := by
  cases m with
  | malformed raw => exact absurd (mem_malformedTexts.mpr hm) (h ▸ List.not_mem_nil)
  | _ => rfl

/-- Where `malformedTexts` finds nothing among some messages, `wellFormed` leaves nothing out. -/
theorem wellFormed_eq_self {messages : List Message} (h : malformedTexts messages = []) :
    wellFormed messages = messages := by
  refine List.filter_eq_self.mpr fun m hm => ?_
  rw [isMalformed_of_malformedTexts h hm]
  rfl

/-- What a pump is about: it reads both pipes, drains the error output, or is done with a status. -/
inductive PumpPhase where
  /-- Reads both pipes, and waits for the process when both are at their end. -/
  | reading
  /-- Met something fatal, and reads the rest of the error output; the fatal lines so far. -/
  | draining (lines : List String)
  | finished (status : WorkerStatus)
  deriving DecidableEq, Repr

/-- What can happen to a pump. Each event is one thing that the pump waits for, and the first one
that comes is the one it takes. -/
inductive PumpEvent where
  | stop
  | output (r : PipeRead)
  | error (r : PipeRead)
  | exited (code : Option Int)
  /-- The system cannot tell how the process ended. -/
  | waitFailed (reason : String)
  /-- The error output was read for long enough. -/
  | patienceEnds
  deriving DecidableEq, Repr

/-- A pump: its two channels, what it is about, and the messages that it has `queued` so far. -/
structure Pump where
  output : Channel := {}
  error : Channel := {}
  phase : PumpPhase := .reading
  queued : List Message := []
  deriving DecidableEq, Repr

namespace Pump

/-- Whether both pipes are at their end, so that only the end of the process is waited for. -/
def isDry (p : Pump) : Bool :=
  !p.output.isOpen && !p.error.isOpen

/-- The status after something fatal: `failed`, for a reason that gives all the fatal `lines`, one
below the other. -/
def failure (lines : List String) : WorkerStatus :=
  .failed (String.intercalate "\n" lines)

/-- The status `errored` of a worker that cannot be told how its process ended, for a `reason` of
the system. -/
def waitFailure (reason : String) : WorkerStatus :=
  .errored ("Failed to wait for element-finder: " ++ reason)

/-- The pump at its end, with the `status` that its worker will publish. -/
def finish (p : Pump) (status : WorkerStatus) : Pump :=
  { p with phase := .finished status }

/-- The pump that goes on after something fatal with these `lines`. It is done at once when the
error output is at its end already. -/
def drain (p : Pump) (lines : List String) : Pump :=
  if p.error.isOpen then { p with phase := .draining lines } else p.finish (failure lines)

/-- A read of the error output: what is well formed is queued, and what is malformed comes behind
the `lines` that are known already. -/
def takeError (p : Pump) (lines : List String) (r : PipeRead) : Pump × List String :=
  let (error, messages) := p.error.take r
  ({ p with error, queued := p.queued ++ wellFormed messages }, lines ++ malformedTexts messages)

/-- The pump after one more read of the rest of the error output, with its malformed lines behind
the fatal `lines` so far. -/
def drainMore (p : Pump) (lines : List String) (r : PipeRead) : Pump :=
  (p.takeError lines r).1.drain (p.takeError lines r).2

/-- One step in the phase `reading`. A read needs its pipe open, the end of the process needs both
pipes at their end, and patience does not end. -/
def stepReading (p : Pump) : PumpEvent → Option Pump
  | .stop => some (p.finish .stopped)
  | .output r =>
    if p.output.isOpen then
      let (output, messages) := p.output.take r
      some { p with output, queued := p.queued ++ messages }
    else none
  | .error r =>
    if p.error.isOpen then
      let (taken, lines) := p.takeError [] r
      some (if lines.isEmpty then taken else taken.drain lines)
    else none
  | .exited code => if p.isDry then some (p.finish (.exited code)) else none
  | .waitFailed reason => if p.isDry then some (p.finish (waitFailure reason)) else none
  | .patienceEnds => none

/-- One step in the phase `draining`: the error output is read on until it ends, and the end of
patience counts as the end of the pipe. -/
def stepDraining (p : Pump) (lines : List String) : PumpEvent → Option Pump
  | .error r => some (p.drainMore lines r)
  | .patienceEnds => some (p.drainMore lines .endOfFile)
  | _ => none

/-- One step of a pump: what its phase makes of an event, and `none` for an event that the pump does
not take in that phase. -/
def step? (p : Pump) (e : PumpEvent) : Option Pump :=
  match p.phase with
  | .reading => p.stepReading e
  | .draining lines => p.stepDraining lines e
  | .finished _ => none

/-- Some steps, one after another, and `none` as soon as the pump does not take one of the
`events`. -/
def run? (p : Pump) (events : List PumpEvent) : Option Pump :=
  events.foldlM step? p

theorem run?_cons (p : Pump) (e : PumpEvent) (rest : List PumpEvent) :
    p.run? (e :: rest) = (p.step? e).bind (·.run? rest) := by
  simp [run?]

theorem run?_append (p : Pump) (a b : List PumpEvent) :
    p.run? (a ++ b) = (p.run? a).bind (·.run? b) := by
  simp [run?]

/-- The status of the worker that runs the pump: `running` until the pump is finished with a
status. -/
def status (p : Pump) : WorkerStatus :=
  match p.phase with
  | .finished status => status
  | _ => .running

/-- A pump that obeys a demand to stop is at its end, and its status is `stopped`. -/
theorem status_of_stop {p q : Pump} (h : p.step? .stop = some q) : q.status = .stopped := by
  rw [step?] at h
  split at h
  case h_1 =>
      obtain rfl := Option.some.inj h
      rfl
  case h_2 => cases h
  case h_3 => cases h

/-- **A finished pump takes no step**, whatever event comes. -/
theorem step?_finished {p : Pump} {status : WorkerStatus} (h : p.phase = .finished status)
    (e : PumpEvent) : p.step? e = none := by
  simp [step?, h]

/-- A finished pump runs no further: the only run that it has is the one without any event. -/
theorem run?_finished {p q : Pump} {status : WorkerStatus} (h : p.phase = .finished status)
    {events : List PumpEvent} (hs : p.run? events = some q) : q = p := by
  cases events with
  | nil => exact (Option.some.inj hs).symm
  | cons e rest => simp [run?, step?_finished h] at hs

/-- A read of the error output leaves what is queued where it is, and may add to it. -/
theorem takeError_queued (p : Pump) (lines : List String) (r : PipeRead) :
    p.queued <+: (p.takeError lines r).1.queued :=
  List.prefix_append _ _

@[simp] theorem drain_queued (p : Pump) (lines : List String) :
    (p.drain lines).queued = p.queued := by
  unfold drain
  split <;> rfl

@[simp] theorem drain_output (p : Pump) (lines : List String) :
    (p.drain lines).output = p.output := by
  unfold drain
  split <;> rfl

@[simp] theorem drain_error (p : Pump) (lines : List String) :
    (p.drain lines).error = p.error := by
  unfold drain
  split <;> rfl

@[simp] theorem finish_queued (p : Pump) (status : WorkerStatus) :
    (p.finish status).queued = p.queued := rfl

/-- Reading on after something fatal leaves what is queued where it is, and may add to it. -/
theorem drainMore_queued (p : Pump) (lines : List String) (r : PipeRead) :
    p.queued <+: (p.drainMore lines r).queued := by
  rw [drainMore, drain_queued]
  exact takeError_queued p lines r

/-- What is queued stays queued in every step of the phase `reading`. -/
theorem stepReading_prefix {p q : Pump} {e : PumpEvent} (h : p.stepReading e = some q) :
    p.queued <+: q.queued := by
  cases e with
  | stop => cases h; exact List.prefix_rfl
  | output r =>
    simp only [stepReading] at h
    split at h <;> cases h
    exact List.prefix_append _ _
  | error r =>
    simp only [stepReading] at h
    split at h <;> cases h
    split
    · exact takeError_queued p [] r
    · rw [drain_queued]
      exact takeError_queued p [] r
  | exited code =>
    simp only [stepReading] at h
    split at h <;> cases h
    exact List.prefix_rfl
  | waitFailed reason =>
    simp only [stepReading] at h
    split at h <;> cases h
    exact List.prefix_rfl
  | patienceEnds => cases h

/-- What is queued stays queued in every step of the phase `draining`. -/
theorem stepDraining_prefix {p q : Pump} {lines : List String} {e : PumpEvent}
    (h : p.stepDraining lines e = some q) : p.queued <+: q.queued := by
  cases e with
  | error r =>
    rw [stepDraining, Option.some.injEq] at h
    exact h ▸ drainMore_queued p lines r
  | patienceEnds =>
    rw [stepDraining, Option.some.injEq] at h
    exact h ▸ drainMore_queued p lines .endOfFile
  | _ => cases h

/-- **What is queued stays queued**: one step of a pump `p` only adds messages behind those that are
there. -/
theorem queued_prefix {p q : Pump} {e : PumpEvent} (h : p.step? e = some q) :
    p.queued <+: q.queued := by
  unfold step? at h
  split at h
  · exact stepReading_prefix h
  · exact stepDraining_prefix h
  · cases h

end Pump

end SelectorSearch
