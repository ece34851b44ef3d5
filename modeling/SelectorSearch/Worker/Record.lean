import SelectorSearch.Process.Child
import SelectorSearch.Session.Run
import SelectorSearch.Worker.Pump

/-!
# Records of Workers

A worker runs the pump over the life of its process. Every write arrives as one read, in the order
of time, and so do the ends of the pipes and of the process. When the pump meets something fatal,
or is told to stop, the worker asks the process to end and kills it if it does not in time; what
comes through the error output after that is read for half a second at most.

The record says when which message was queued, and when the status became final.

## Main results

* `WorkerRecord.perm_pushed_schedule`: the ticks of a session are given every message once.
* `Worker.tells_record`: a record tells what a pump has done.
-/

namespace SelectorSearch

/-- How long the error output is read after something fatal. -/
def drainPatience : Nat := 500 * millisecond

/-- The time that a process has to end when it is asked to, if nothing else is said, in
milliseconds. -/
def defaultTerminateTimeoutMs : UInt64 := 2000

/-- Something that happens to a pump, and when. -/
structure TimedEvent where
  time : Nat
  event : PumpEvent
  deriving DecidableEq, Repr

/-- What a worker has done, and when: the messages that have arrived, and its status at last. -/
structure WorkerRecord where
  /-- The messages in the order in which they were queued. -/
  arrivals : List (Nat × Message) := []
  status : WorkerStatus := .running
  /-- When the status became final, if it did. -/
  finished : Option Nat := none
  deriving Repr

/-- A write of the process, as a read of the pump. -/
def Writing.event (w : Writing) : TimedEvent :=
  { time := w.time
    event := match w.stream with
      | .output => .output (.bytes w.bytes)
      | .error => .error (.bytes w.bytes) }

/-- When a process is gone and nobody holds its pipes, and how it ended. -/
def Life.gone? (l : Life) : Option (Nat × ExitStatus) := do
  let (time, status) ← l.ended
  let output ← l.outputCloses
  let error ← l.errorCloses
  return (max time (max output error), status)

/-- The events at the end of a life: those of the two pipes, and after both that of the process. -/
def Life.endEvents (l : Life) : List TimedEvent :=
  (l.outputCloses.map fun time => TimedEvent.mk time (.output .endOfFile)).toList
    ++ (l.errorCloses.map fun time => TimedEvent.mk time (.error .endOfFile)).toList
    ++ (l.gone?.map fun (time, status) =>
      TimedEvent.mk time (.exited (status.code?.map Int.ofNat))).toList

/-- What a life brings to the pump, in the order of time. -/
def Life.events (l : Life) : List TimedEvent :=
  orderByTime TimedEvent.time (l.writings.map Writing.event ++ l.endEvents)

namespace WorkerRecord

/-- The record after a step from one pump to another, with what this step has queued. -/
def note (r : WorkerRecord) (time : Nat) (before after : Pump) : WorkerRecord :=
  let new := after.queued.drop before.queued.length
  { arrivals := r.arrivals ++ new.map (time, ·)
    status := after.status
    finished := if after.status.isFinished then some time else none }

/-- The record of some events, which end with the pump. Events that do not concern it are passed
over. -/
def follow (r : WorkerRecord) (p : Pump) : List TimedEvent → WorkerRecord
  | [] => r
  | e :: rest =>
    match p.step? e.event with
    | none => follow r p rest
    | some q =>
      let r := r.note e.time p q
      if q.status.isFinished then r else follow r q rest

end WorkerRecord

/-- The end of the error output of a process that has ended, or of the patience with it. -/
def lastDrainEvent (ended : Child) : TimedEvent :=
  let limit := ended.clock + drainPatience
  match ended.life.errorCloses with
  | some time =>
    if time ≤ limit then ⟨max ended.clock time, .error .endOfFile⟩ else ⟨limit, .patienceEnds⟩
  | none => ⟨limit, .patienceEnds⟩

/-- What the error output brings once a process was asked to end after `seen` writes: what was
written and not seen, and the end of the pipe or of patience. -/
def drainEvents (ended : Child) (seen : Nat) : List TimedEvent :=
  let limit := ended.clock + drainPatience
  let late := (ended.life.writings.drop seen).filter fun w => w.stream = .error ∧ w.time ≤ limit
  late.map (fun w => { w.event with time := max ended.clock w.time }) ++ [lastDrainEvent ended]

namespace Worker

/-- A process that is asked to end at some `time`, after it has ended. -/
def terminated (program : Program) (timeout time : Nat) : Option Child :=
  Child.terminate { program, clock := time } timeout

/-- The number of writes among some events. -/
def countWrites (events : List TimedEvent) : Nat :=
  events.countP fun e =>
    match e.event with
    | .output (.bytes _) | .error (.bytes _) => true
    | _ => false

/-- The record of a worker from something fatal on, after `seen` writes. -/
def afterFatal (program : Program) (timeout : Nat) (r : WorkerRecord) (p : Pump) (time seen : Nat) :
    WorkerRecord :=
  match terminated program timeout time with
  | none => { r with status := .running, finished := none }
  | some ended =>
    if p.status.isFinished then { r with finished := some ended.clock }
    else r.follow p (drainEvents ended seen)

/-- The record of a worker that is told to stop at some `time`. -/
def stopped (program : Program) (timeout : Nat) (r : WorkerRecord) (p : Pump) (time : Nat) :
    WorkerRecord :=
  match p.step? .stop, terminated program timeout time with
  | some q, some ended => { r.note time p q with finished := some ended.clock }
  | _, _ => r

/-- The record of a worker that is told to stop once `stopAfter` messages are queued, if ever, from
some pump on. The last event before it was at `time`, and `seen` writes were read. -/
def recordFrom (program : Program) (timeout : Nat) (stopAfter : Option Nat) (r : WorkerRecord)
    (p : Pump) (time seen : Nat) (events : List TimedEvent) : WorkerRecord :=
  if stopAfter.any (· ≤ p.queued.length) then stopped program timeout r p time
  else match events with
    | [] => if stopAfter.isSome then stopped program timeout r p time else r
    | e :: rest =>
      let seen := seen + countWrites [e]
      match p.step? e.event with
      | none => recordFrom program timeout stopAfter r p e.time seen rest
      | some q =>
        let r := r.note e.time p q
        match q.phase, e.event with
        | .reading, _ => recordFrom program timeout stopAfter r q e.time seen rest
        | _, .error _ => afterFatal program timeout r q e.time seen
        | _, _ => r

/-- The record of a worker that runs a `program`, from its start to its end. -/
def record (program : Program) (timeout : Nat) (stopAfter : Option Nat) : WorkerRecord :=
  recordFrom program timeout stopAfter {} {} 0 0 (program []).events

end Worker

/-! ### Schedules -/

namespace WorkerRecord

/-- What happens between two ticks, one at the time `after` and one at the time `upTo`. -/
def moment (r : WorkerRecord) (closing : Option Nat) (after upTo : Nat) (first : Bool) : Moment :=
  let within := fun time => time ≤ upTo && (first || after < time)
  { pushed := (r.arrivals.filter fun (time, _) => within time).map Prod.snd
    status := if r.finished.any (· ≤ upTo) then some r.status else none
    closes := closing.any (· ≤ upTo) }

/-- What happens before each tick of a session, where ticks are `interval` apart and the view is
closed at some time. -/
def moments (r : WorkerRecord) (closing : Option Nat) (interval ticks : Nat) : List Moment :=
  (List.range ticks).map fun k =>
    r.moment closing ((k - 1) * interval) (k * interval) (k = 0)

/-- The number of ticks after which nothing happens any more. -/
def lastTick (r : WorkerRecord) (closing : Option Nat) (interval : Nat) : Nat :=
  let times := r.arrivals.map Prod.fst ++ r.finished.toList ++ closing.toList
  times.foldl max 0 / interval + 2

/-- What happens before each tick of a session until nothing happens any more. -/
def schedule (r : WorkerRecord) (closing : Option Nat) (interval : Nat) : List Moment :=
  r.moments closing interval (r.lastTick closing interval)

/-! ### Messages of a schedule -/

/-- What is queued up to a tick is queued up to the tick before it, or between the two. -/
theorem perm_between (arrivals : List (Nat × Message)) {after upTo : Nat} (h : after ≤ upTo) :
    ((arrivals.filter fun a => a.1 ≤ after) ++
        arrivals.filter fun a => a.1 ≤ upTo && after < a.1).Perm
      (arrivals.filter fun a => a.1 ≤ upTo) := by
  have hbefore : arrivals.filter (fun a => a.1 ≤ after && a.1 ≤ upTo) =
      arrivals.filter fun a => a.1 ≤ after := by
    refine List.filter_congr fun a _ => ?_
    rw [Bool.and_eq_left_iff_imp, decide_eq_true_eq, decide_eq_true_eq]
    exact fun hafter => Nat.le_trans hafter h
  have hbetween : arrivals.filter (fun a => !decide (a.1 ≤ after) && a.1 ≤ upTo) =
      arrivals.filter fun a => a.1 ≤ upTo && after < a.1 := by
    refine List.filter_congr fun a _ => ?_
    rw [← decide_not, Bool.and_comm]
    simp only [Nat.not_le]
  rw [← hbefore, ← hbetween, ← List.filter_filter, ← List.filter_filter]
  exact List.filter_append_perm _ _

/-- The first `ticks` and the one behind them are given what is queued up to the last one. -/
theorem perm_pushed_moments (r : WorkerRecord) (closing : Option Nat) (interval ticks : Nat) :
    ((r.moments closing interval (ticks + 1)).flatMap Moment.pushed).Perm
      ((r.arrivals.filter fun a => a.1 ≤ ticks * interval).map Prod.snd) := by
  induction ticks with
  | zero =>
      simp [moments, moment]
  | succ ticks ih =>
      rw [moments, List.range_succ, List.map_append, List.flatMap_append]
      refine (ih.append_right _).trans ?_
      have hlast : [ticks + 1].map (fun k =>
          r.moment closing ((k - 1) * interval) (k * interval) (k = 0)) =
          [r.moment closing (ticks * interval) ((ticks + 1) * interval) false] := by simp
      rw [hlast, List.flatMap_singleton, moment, ← List.map_append]
      have hle : ticks * interval ≤ (ticks + 1) * interval :=
        Nat.mul_le_mul_right interval (Nat.le_succ ticks)
      simpa using (perm_between r.arrivals hle).map Prod.snd

/-- A time that is among some `times`, or not behind their `start`, is not behind the latest. -/
theorem le_foldl_max {times : List Nat} {t start : Nat} (h : t ≤ start ∨ t ∈ times) :
    t ≤ times.foldl max start := by
  induction times generalizing start with
  | nil => exact h.resolve_right List.not_mem_nil
  | cons first rest ih =>
      refine ih ?_
      rcases h with h | h
      · exact .inl (Nat.le_trans h (Nat.le_max_left _ _))
      · rcases List.mem_cons.mp h with rfl | h
        · exact .inl (Nat.le_max_right _ _)
        · exact .inr h

/-- **No message gets lost between two ticks**, and none is given twice: what the ticks are given is
what has arrived. -/
theorem perm_pushed_schedule (r : WorkerRecord) (closing : Option Nat) {interval : Nat}
    (h : 0 < interval) :
    ((r.schedule closing interval).flatMap Moment.pushed).Perm (r.arrivals.map Prod.snd) := by
  obtain ⟨latest, hlatest⟩ : ∃ latest,
      (r.arrivals.map Prod.fst ++ r.finished.toList ++ closing.toList).foldl max 0 = latest :=
    ⟨_, rfl⟩
  rw [schedule, lastTick, hlatest]
  refine (perm_pushed_moments r closing interval _).trans (List.Perm.of_eq ?_)
  congr 1
  refine List.filter_eq_self.mpr fun a ha => decide_eq_true ?_
  calc a.1 ≤ latest := by
        refine hlatest ▸ le_foldl_max (.inr ?_)
        exact List.mem_append_left _ (List.mem_append_left _ (List.mem_map_of_mem ha))
    _ ≤ latest / interval * interval + interval := Nat.le_of_lt (Nat.lt_div_mul_add h)
    _ = (latest / interval + 1) * interval := (Nat.succ_mul _ _).symm

end WorkerRecord

/-! ### What a record tells -/

namespace WorkerRecord

/-- A record `r` tells what a pump `p` has done: the pump is one that came about by its steps, what
has arrived is what it has queued, and a status that is final is its own. -/
structure Tells (r : WorkerRecord) (p : Pump) : Prop where
  reached : ∃ events, ({} : Pump).run? events = some p
  arrivals : r.arrivals.map Prod.snd = p.queued
  status : r.finished.isSome → r.status = p.status ∧ p.status.isFinished

variable {r : WorkerRecord} {p q : Pump}

/-- One step of the pump: what is noted of it is what it queues. -/
theorem Tells.note (h : r.Tells p) {e : PumpEvent} (hstep : p.step? e = some q) (time : Nat) :
    (r.note time p q).Tells q := by
  obtain ⟨⟨events, hevents⟩, harrivals, -⟩ := h
  refine ⟨⟨events ++ [e], ?_⟩, ?_, fun hfinished => ⟨rfl, ?_⟩⟩
  · rw [Pump.run?_append, hevents, Option.bind_some, Pump.run?_cons, hstep]
    rfl
  · rw [WorkerRecord.note, List.map_append, harrivals, List.map_map]
    refine Eq.trans ?_ (List.prefix_iff_eq_append.mp (Pump.queued_prefix hstep))
    exact congrArg _ (List.map_id' _)
  · cases hstatus : q.status.isFinished with
    | true => rfl
    | false => simp [WorkerRecord.note, hstatus] at hfinished

/-- All steps of the pump: a record that is followed up tells what the pump has done in the end. -/
theorem Tells.follow (h : r.Tells p) (events : List TimedEvent) :
    ∃ q, (r.follow p events).Tells q := by
  induction events generalizing r p with
  | nil => exact ⟨p, h⟩
  | cons e rest ih =>
      rw [WorkerRecord.follow]
      split
      case h_1 => exact ih h
      case h_2 q hstep =>
          have hq := h.note hstep e.time
          dsimp only
          split
          · exact ⟨q, hq⟩
          · exact ih hq

end WorkerRecord

namespace Worker

open WorkerRecord (Tells)

variable {r : WorkerRecord} {p : Pump}

/-- What is read after something fatal is told as well; if the process does not end, no status is
final. -/
theorem tells_afterFatal (h : r.Tells p) (hstatus : r.status = p.status) (program : Program)
    (timeout time seen : Nat) : ∃ q, (afterFatal program timeout r p time seen).Tells q := by
  rw [afterFatal]
  split
  case h_1 => exact ⟨p, h.reached, h.arrivals, fun hnone => absurd hnone Bool.false_ne_true⟩
  case h_2 ended _ =>
      split
      case isTrue hfinished => exact ⟨p, h.reached, h.arrivals, fun _ => ⟨hstatus, hfinished⟩⟩
      case isFalse => exact h.follow _

/-- A worker that is told to stop has the status of its pump, or none. -/
theorem tells_stopped (h : r.Tells p) (program : Program) (timeout time : Nat) :
    ∃ q, (stopped program timeout r p time).Tells q := by
  rw [stopped]
  split
  case h_1 q ended hstep _ =>
      have hq := h.note hstep time
      refine ⟨q, hq.reached, hq.arrivals, fun _ => ⟨rfl, ?_⟩⟩
      rw [Pump.status_of_stop hstep]
      rfl
  case h_2 => exact ⟨p, h⟩

/-- The record from some pump on tells what the pump does, by induction on the `events` that are
left. -/
theorem tells_recordFrom (h : r.Tells p) (program : Program) (timeout : Nat)
    (stopAfter : Option Nat) (time seen : Nat) (events : List TimedEvent) :
    ∃ q, (recordFrom program timeout stopAfter r p time seen events).Tells q := by
  induction events generalizing r p time seen with
  | nil =>
      rw [recordFrom]
      split
      · exact tells_stopped h program timeout time
      split
      · exact tells_stopped h program timeout time
      · exact ⟨p, h⟩
  | cons e rest ih =>
      rw [recordFrom]
      split
      · exact tells_stopped h program timeout time
      split
      case h_1 => exact ih h _ _
      case h_2 q hstep =>
          have hq := h.note hstep e.time
          split
          · exact ih hq _ _
          · exact tells_afterFatal hq rfl program timeout _ _
          · exact ⟨q, hq⟩

/-- **The record of every worker tells what a pump has done**: its messages are those that the pump
has queued, in their order, and its final status is the status of the pump. -/
theorem tells_record (program : Program) (timeout : Nat) (stopAfter : Option Nat) :
    ∃ p, (record program timeout stopAfter).Tells p := by
  have hstart : Tells {} {} := ⟨⟨[], rfl⟩, rfl, fun hnone => absurd hnone Bool.false_ne_true⟩
  exact tells_recordFrom hstart program timeout stopAfter 0 0 _

end Worker

end SelectorSearch
