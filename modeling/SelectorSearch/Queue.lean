import SelectorSearch.Message

/-!
# Message Queues with Shared Handles

The worker hands its messages to the session through a queue that both hold by a handle. Handles
that are cloned from one another share one buffer: what is pushed through one is drained through
any. A drain takes the whole buffer, so no message is handed over twice, and none is left behind.

A `QueueStore` holds any number of queues with all their handles; each handle is a number that
names a buffer.

## Main results

* `queued_push`, `queued_drain`: what the two operations do to what is queued behind a handle.
-/

namespace SelectorSearch

/-- Buffers of messages and the handles on them, both numbered from zero. -/
structure QueueStore where
  buffers : Array (List Message) := #[]
  /-- The buffer of each handle. -/
  handles : Array Nat := #[]
  deriving Repr

namespace QueueStore

/-- The buffer that a `handle` names, which all handles of one family share. -/
def family (s : QueueStore) (handle : Nat) : Nat :=
  s.handles.getD handle 0

/-- The messages that wait behind a `handle`, oldest first. -/
def queued (s : QueueStore) (handle : Nat) : List Message :=
  s.buffers.getD (s.family handle) []

/-- A new queue, and the number of a handle on it. -/
def create (s : QueueStore) : QueueStore × Nat :=
  ({ buffers := s.buffers.push [], handles := s.handles.push s.buffers.size }, s.handles.size)

/-- Another handle on the queue of a `handle`, and its number. -/
def clone (s : QueueStore) (handle : Nat) : QueueStore × Nat :=
  ({ s with handles := s.handles.push (s.family handle) }, s.handles.size)

/-- Appends a message to the queue of a `handle`. -/
def push (s : QueueStore) (handle : Nat) (m : Message) : QueueStore :=
  { s with buffers := s.buffers.modify (s.family handle) (· ++ [m]) }

/-- Takes all messages from the queue of a `handle`, oldest first. -/
def drain (s : QueueStore) (handle : Nat) : QueueStore × List Message :=
  ({ s with buffers := s.buffers.modify (s.family handle) fun _ => [] }, s.queued handle)

/-- The number of messages that wait behind a `handle`. -/
def length (s : QueueStore) (handle : Nat) : Nat :=
  (s.queued handle).length

/-- Whether no message waits behind a `handle`. -/
def isEmpty (s : QueueStore) (handle : Nat) : Bool :=
  (s.queued handle).isEmpty

/-- The number of messages that wait behind each handle, in the order of the handles. -/
def lengths (s : QueueStore) : List Nat :=
  (List.range s.handles.size).map s.length

/-- A store with one queue and one handle on it. -/
def single : QueueStore :=
  (create {}).1

/-! ### Acts on handles -/

/-- What the owner of some handles can do with them: create a queue, clone a handle, push and
drain. -/
inductive Act where
  /-- A new queue, with a handle on it. -/
  | create
  /-- Another handle on the queue of a handle. -/
  | clone (handle : Nat)
  /-- A message is pushed through a handle. -/
  | push (handle : Nat) (m : Message)
  /-- All messages are taken through a handle. -/
  | drain (handle : Nat)
  deriving DecidableEq, Repr

/-- The handle that an act goes through, which a new queue does not need. -/
def Act.handle? : Act → Option Nat
  | .create => none
  | .clone handle => some handle
  | .push handle _ => some handle
  | .drain handle => some handle

/-- The store after an act, and the messages that the act takes. -/
def act (s : QueueStore) : Act → QueueStore × List Message
  | .create => (s.create.1, [])
  | .clone handle => ((s.clone handle).1, [])
  | .push handle m => (s.push handle m, [])
  | .drain handle => s.drain handle

/-- An act, unless it goes through a handle that there is not. -/
def step? (s : QueueStore) (a : Act) : Option (QueueStore × List Message) :=
  if a.handle?.all (· < s.handles.size) then some (s.act a) else none

/-- Some acts, one after another: the store after them, and each act with what it takes. -/
def run? (s : QueueStore) : List Act → Option (QueueStore × List (Act × List Message))
  | [] => some (s, [])
  | a :: rest => do
    let (s, taken) ← s.step? a
    let (s, history) ← s.run? rest
    return (s, (a, taken) :: history)

/-! ### One queue -/

/-- **A push is seen by the handles on the same buffer**, behind what they have queued, and by no
others. -/
theorem queued_push {s : QueueStore} {handle : Nat} (h : s.family handle < s.buffers.size)
    (through : Nat) (m : Message) :
    (s.push through m).queued handle =
      if s.family through = s.family handle then s.queued handle ++ [m] else s.queued handle := by
  have hf : (s.push through m).family handle = s.family handle := rfl
  simp only [queued, hf]
  by_cases he : s.family through = s.family handle <;> simp [push, h, Array.getElem_modify, he]

/-- **A drain is seen by the handles on the same buffer**, which have nothing queued after it, and
by no others. -/
theorem queued_drain (s : QueueStore) (handle through : Nat) :
    (s.drain through).1.queued handle =
      if s.family through = s.family handle then [] else s.queued handle := by
  have hf : (s.drain through).1.family handle = s.family handle := rfl
  simp only [queued, hf]
  by_cases he : s.family through = s.family handle <;>
    by_cases h : s.family handle < s.buffers.size <;> simp [drain, h, Array.getElem_modify, he]

end QueueStore

end SelectorSearch
