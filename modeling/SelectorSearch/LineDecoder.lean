import SelectorSearch.Message.Reader
import SelectorSearch.Text.Utf8

/-!
# The Line Decoder

Turns the bytes of a stream into messages, however they are cut into chunks. Bytes are kept until
a line feed ends their line, which is then read as text with damage replaced; at the end of the
stream the last line may lack its line feed.

A chunk goes to the end of the buffer. The buffer is then searched for line feeds from its
beginning, each search starting after the line feed before it, and what stands before the last one
is dropped when none is left.

## Main results

* `lineEnd?_eq_none`, `lineEnd?_eq_some`: a search finds the first line feed.
* `pending_finish`: after the end of the stream nothing is pending.
-/

namespace SelectorSearch

/-- The message of the bytes of one line, and `none` for a blank one. Bytes that are no UTF-8 are
replaced before the line is read. -/
def Message.ofBytes? (bytes : List UInt8) : Option Message :=
  Message.ofLine? (String.ofList (Utf8.decode bytes))

/-- The byte that ends a line, in every encoding that extends ASCII. -/
def lineFeed : UInt8 := 0x0A

/-- A decoder between two chunks, with a buffer of the bytes that were fed since the last line
feed. -/
structure LineDecoder where
  /-- What has been fed since the last line feed. -/
  buffer : Array UInt8 := #[]
  deriving DecidableEq, Repr

namespace LineDecoder

/-- The bytes that wait for the end of their line, which are all those of the buffer. -/
def pending (d : LineDecoder) : List UInt8 :=
  d.buffer.toList

/-! ### Searching -/

/-- The index of the first `lineFeed` of a buffer at or after `start`, if there is one. -/
def lineEnd? (buffer : Array UInt8) (start : Nat) : Option Nat :=
  if h : start < buffer.size then
    if buffer[start] = lineFeed then some start else lineEnd? buffer (start + 1)
  else none
termination_by buffer.size - start

/-- Where `lineEnd?` finds nothing, there is no line feed from `start` on. -/
theorem lineEnd?_eq_none {buffer : Array UInt8} {start : Nat}
    (h : lineEnd? buffer start = none) : lineFeed ∉ buffer.toList.drop start := by
  fun_induction lineEnd? buffer start with
  | case1 => cases h
  | case2 start hlt hne ih =>
      rw [List.drop_eq_getElem_cons (by simpa using hlt), List.mem_cons, not_or]
      exact ⟨fun he => hne (by simpa using he.symm), ih h⟩
  | case3 start hge =>
      rw [List.drop_eq_nil_of_le (by simpa using hge)]
      exact List.not_mem_nil

/-- **A line feed that is found ends a line**: where it is at `stop`, the bytes from `start` up to
it are one line, and the buffer goes on behind it. -/
theorem lineEnd?_eq_some {buffer : Array UInt8} {start stop : Nat}
    (h : lineEnd? buffer start = some stop) :
    start ≤ stop ∧ stop < buffer.size ∧ lineFeed ∉ (buffer.extract start stop).toList ∧
      buffer.toList.drop start =
        (buffer.extract start stop).toList ++ lineFeed :: buffer.toList.drop (stop + 1) := by
  fun_induction lineEnd? buffer start with
  | case1 start hlt he =>
      obtain rfl : start = stop := Option.some.inj h
      refine ⟨Nat.le_refl _, hlt, by simp, ?_⟩
      rw [List.drop_eq_getElem_cons (by simpa using hlt)]
      simpa using he
  | case2 start hlt hne ih =>
      obtain ⟨hle, hstop, hmem, hdrop⟩ := ih h
      have hcons : (buffer.extract start stop).toList =
          buffer[start] :: (buffer.extract (start + 1) stop).toList := by
        simp only [Array.toList_extract, List.extract_eq_take_drop]
        rw [List.drop_eq_getElem_cons (by simpa using hlt),
          show stop - start = stop - (start + 1) + 1 by omega, List.take_succ_cons]
        rfl
      refine ⟨by omega, hstop, ?_, ?_⟩
      · rw [hcons, List.mem_cons, not_or]
        exact ⟨fun he => hne he.symm, hmem⟩
      · rw [List.drop_eq_getElem_cons (by simpa using hlt), hdrop, hcons]
        rfl
  | case3 => cases h

/-! ### Chunks -/

/-- The messages of the complete lines of a buffer from `start` on, on top of messages that are
`found` already, and where the line begins that is not complete. -/
def takeLines (buffer : Array UInt8) (start : Nat) (found : Array Message) :
    Nat × Array Message :=
  match h : lineEnd? buffer start with
  | none => (start, found)
  | some stop =>
    have : start ≤ stop ∧ stop < buffer.size :=
      ⟨(lineEnd?_eq_some h).1, (lineEnd?_eq_some h).2.1⟩
    takeLines buffer (stop + 1)
      (found ++ (Message.ofBytes? (buffer.extract start stop).toList).toArray)
termination_by buffer.size - start

/-- A chunk of bytes: the decoder after it, and the messages of the lines that it completes. -/
def feed (d : LineDecoder) (chunk : List UInt8) : LineDecoder × List Message :=
  let buffer := d.buffer ++ chunk
  let (start, found) := takeLines buffer 0 #[]
  ({ buffer := buffer.extract start }, found.toList)

/-- Some chunks, one after another: the decoder after them, and the messages that all of them
complete. -/
def feedAll (d : LineDecoder) : List (List UInt8) → LineDecoder × List Message
  | [] => (d, [])
  | chunk :: rest =>
    let (d, found) := d.feed chunk
    let (d, more) := d.feedAll rest
    (d, found ++ more)

theorem feedAll_cons (d : LineDecoder) (chunk : List UInt8) (rest : List (List UInt8)) :
    d.feedAll (chunk :: rest) =
      (((d.feed chunk).1.feedAll rest).1, (d.feed chunk).2 ++ ((d.feed chunk).1.feedAll rest).2) :=
  rfl

/-- The end of the stream: a fresh decoder, and the message of the last line if that has no line
feed and is not blank. -/
def finish (d : LineDecoder) : LineDecoder × Option Message :=
  ({}, Message.ofBytes? d.pending)

@[simp] theorem pending_fresh : ({} : LineDecoder).pending = [] := rfl

/-- After the end of the stream nothing is `pending`, so that a decoder can be used again. -/
@[simp] theorem pending_finish (d : LineDecoder) : d.finish.1.pending = [] := rfl

/-- A decoder is what it has `pending`: two decoders that wait for the same bytes are equal. -/
theorem ext_pending {d e : LineDecoder} (h : d.pending = e.pending) : d = e := by
  obtain ⟨a⟩ := d
  obtain ⟨b⟩ := e
  exact congrArg LineDecoder.mk (Array.toList_inj.mp h)

end LineDecoder

end SelectorSearch
