import Mathlib.Data.List.DropRight
import SelectorSearch.LineDecoder
import SelectorSearch.Text.Split

/-!
# Chunks Do Not Matter

The decoder searches a buffer that grows with every chunk and shrinks with every line. What it
finds depends on the bytes alone: the messages are those of the pieces between line feeds, and
what is pending is the last piece.

For a single chunk this is read off the search loop (`takeLines_spec`), on top of whatever was
pending. The rest is a fact about splitting: what was fed before a chunk matters only by its last
piece (`Text.split_append`).

## Main results

* `pending_feed`, `messages_feed`: what one chunk does to a decoder.
* `feedAll_of_pending`: what some chunks do, in terms of all bytes fed so far.
* `feedAll_eq_split`: a fresh decoder against the pieces of the whole stream.
-/

namespace SelectorSearch

/-- The messages of the complete lines of some `bytes`, which are those that end with a line
feed. -/
def Message.ofLines (bytes : List UInt8) : List Message :=
  (Text.split lineFeed bytes).dropLast.filterMap Message.ofBytes?

/-- The messages of all lines of some `bytes`, the last of which may lack its line feed. -/
def Message.ofStream (bytes : List UInt8) : List Message :=
  (Text.split lineFeed bytes).filterMap Message.ofBytes?

@[simp] theorem Message.ofLines_nil : Message.ofLines [] = [] := rfl

/-- A stream has the messages of its complete lines, and at the end the message of its last
piece. -/
theorem Message.ofStream_eq (bytes : List UInt8) :
    Message.ofStream bytes =
      Message.ofLines bytes ++ (Message.ofBytes? (Text.lastPiece lineFeed bytes)).toList := by
  rw [Message.ofStream, ← Text.dropLast_split_append, List.filterMap_append, Message.ofLines]
  cases h : Message.ofBytes? (Text.lastPiece lineFeed bytes) <;> simp [h]

/-- More bytes `b` add the complete lines that begin with the last piece of the bytes `a` before
them. -/
theorem Message.ofLines_append (a b : List UInt8) :
    Message.ofLines (a ++ b) =
      Message.ofLines a ++ Message.ofLines (Text.lastPiece lineFeed a ++ b) := by
  rw [Message.ofLines, Text.split_append, List.dropLast_append_of_ne_nil (Text.split_ne_nil _ _),
    List.filterMap_append]
  rfl

/-- A line that ends gives its message, and the lines after it are read afresh. -/
theorem Message.ofLines_line {line : List UInt8} (h : lineFeed ∉ line) (rest : List UInt8) :
    Message.ofLines (line ++ lineFeed :: rest) =
      (Message.ofBytes? line).toList ++ Message.ofLines rest := by
  rw [Message.ofLines, Text.split_append_sep h,
    List.dropLast_cons_of_ne_nil (Text.split_ne_nil _ _)]
  cases hm : Message.ofBytes? line <;> simp [Message.ofLines, hm]

/-- The lines on both sides of a line feed are read apart from each other. -/
theorem Message.ofStream_append_lineFeed (a b : List UInt8) :
    Message.ofStream (a ++ lineFeed :: b) = Message.ofStream a ++ Message.ofStream b := by
  rw [Message.ofStream, Text.split_append_cons_sep, List.filterMap_append]
  rfl

/-- The text of a malformed line in a stream is not blank. -/
theorem Message.allBlank_of_mem_ofStream {bytes : List UInt8} {raw : String}
    (h : Message.malformed raw ∈ Message.ofStream bytes) : Text.allBlank raw = false := by
  obtain ⟨line, -, hline⟩ := List.mem_filterMap.mp h
  exact Message.allBlank_of_malformed hline

namespace LineDecoder

/-! ### The search loop -/

/-- The search loop finds the messages of the complete lines from `start` on, and stops where the
last piece begins. -/
theorem takeLines_spec (buffer : Array UInt8) (start : Nat) (found : Array Message) :
    (takeLines buffer start found).2.toList =
        found.toList ++ Message.ofLines (buffer.toList.drop start) ∧
      buffer.toList.drop (takeLines buffer start found).1 =
        Text.lastPiece lineFeed (buffer.toList.drop start) := by
  fun_induction takeLines buffer start found with
  | case1 start found hnone =>
      have hrest := lineEnd?_eq_none hnone
      simp [Message.ofLines, Text.split_of_not_mem hrest, Text.lastPiece_of_not_mem hrest]
  | case2 start found stop hsome _ ih =>
      obtain ⟨-, -, hline, hdrop⟩ := lineEnd?_eq_some hsome
      rw [hdrop]
      refine ⟨?_, ih.2.trans (Text.lastPiece_append_sep hline _).symm⟩
      rw [ih.1, Message.ofLines_line hline]
      simp

/-- **What is pending is a last piece**: after a `chunk`, that of what was pending before and of the
chunk. -/
theorem pending_feed (d : LineDecoder) (chunk : List UInt8) :
    (d.feed chunk).1.pending = Text.lastPiece lineFeed (d.pending ++ chunk) := by
  have hspec := (takeLines_spec (d.buffer ++ chunk) 0 #[]).2
  rw [pending, feed, Array.toList_extract, List.extract_eq_take_drop,
    List.take_of_length_le (by rw [List.length_drop, Array.length_toList])]
  simpa [pending] using hspec

/-- **A chunk completes lines**: those of what was pending before the `chunk` and of the chunk
itself. -/
theorem messages_feed (d : LineDecoder) (chunk : List UInt8) :
    (d.feed chunk).2 = Message.ofLines (d.pending ++ chunk) := by
  have hspec := (takeLines_spec (d.buffer ++ chunk) 0 #[]).1
  simpa [feed, pending] using hspec

/-! ### Many chunks -/

/-- Chunks that are fed after `bytes`: the messages go on where those of `bytes` end, and what is
pending is the last piece of everything. -/
theorem feedAll_of_pending {d : LineDecoder} {bytes : List UInt8}
    (h : d.pending = Text.lastPiece lineFeed bytes) (chunks : List (List UInt8)) :
    Message.ofLines (bytes ++ chunks.flatten) = Message.ofLines bytes ++ (d.feedAll chunks).2 ∧
      (d.feedAll chunks).1.pending = Text.lastPiece lineFeed (bytes ++ chunks.flatten) := by
  induction chunks generalizing d bytes with
  | nil => simp [feedAll, h]
  | cons chunk rest ih =>
      have hchunk : (d.feed chunk).1.pending = Text.lastPiece lineFeed (bytes ++ chunk) := by
        rw [pending_feed, h, ← Text.lastPiece_append]
      obtain ⟨hmessages, hpending⟩ := ih hchunk
      rw [List.flatten_cons, ← List.append_assoc, feedAll_cons]
      refine ⟨?_, hpending⟩
      rw [hmessages, Message.ofLines_append bytes, messages_feed, h, List.append_assoc]

/-! ### The whole stream -/

/-- The messages that a fresh decoder makes of some `chunks` and of the end of the stream. -/
def decodeAll (chunks : List (List UInt8)) : List Message :=
  (feedAll {} chunks).2 ++ (feedAll {} chunks).1.finish.2.toList

/-- A fresh decoder makes the messages of the whole stream, however it is cut into `chunks`. -/
theorem decodeAll_eq (chunks : List (List UInt8)) :
    decodeAll chunks = Message.ofStream chunks.flatten := by
  obtain ⟨hmessages, hpending⟩ := @feedAll_of_pending {} [] rfl chunks
  simp only [List.nil_append, Message.ofLines_nil] at hmessages hpending
  rw [decodeAll, finish, hpending, Message.ofStream_eq, hmessages]

/-- The last piece is what follows the last line feed, and everything if there is no line feed. -/
theorem lastPiece_eq_rtakeWhile (bytes : List UInt8) :
    Text.lastPiece lineFeed bytes = bytes.rtakeWhile (· ≠ lineFeed) := by
  induction bytes using List.reverseRecOn with
  | nil => rfl
  | append_singleton bytes b ih =>
      have hlast := Text.sep_not_mem_lastPiece lineFeed bytes
      rw [Text.lastPiece_append]
      by_cases hb : b = lineFeed
      · rw [List.rtakeWhile_concat_neg _ _ _ (by simpa using hb), hb]
        exact Text.lastPiece_append_sep hlast []
      · rw [List.rtakeWhile_concat_pos _ _ _ (by simpa using hb), ← ih]
        have hnot : lineFeed ∉ Text.lastPiece lineFeed bytes ++ [b] := by
          simp [hlast, Ne.symm hb]
        exact Text.lastPiece_of_not_mem hnot

/-- Exactly the lines that are not blank give a message. -/
theorem isSome_ofBytes? (line : List UInt8) :
    (Message.ofBytes? line).isSome = !Text.allBlank (String.ofList (Utf8.decode line)) := by
  cases h : Message.ofBytes? line with
  | none => simp [(Message.ofLine?_eq_none_iff _).mp h]
  | some m =>
      have hsome : ¬Text.allBlank (String.ofList (Utf8.decode line)) = true := fun hblank => by
        rw [Message.ofBytes?, (Message.ofLine?_eq_none_iff _).mpr hblank] at h
        cases h
      simp [Bool.not_eq_true _ ▸ hsome]

/-- Each line that is not blank gives exactly one message, and the messages are in the order of the
`lines`. -/
theorem forall₂_messages (lines : List (List UInt8)) :
    List.Forall₂ (fun line m => Message.ofBytes? line = some m)
      (lines.filter fun line => !Text.allBlank (String.ofList (Utf8.decode line)))
      (lines.filterMap Message.ofBytes?) := by
  simp only [← isSome_ofBytes?]
  induction lines with
  | nil => exact .nil
  | cons line rest ih => cases h : Message.ofBytes? line <;> simp [h, ih]

/-- **Chunks do not matter.** However a stream is cut, a fresh decoder gives the messages of the
lines between line feeds, exactly one for each line that is not blank and in their order. What is
pending is what has been fed since the last line feed. The end of the stream gives the message of
that, and the decoder is as good as new. -/
theorem feedAll_eq_split (chunks : List (List UInt8)) :
    let lines := (Text.split lineFeed chunks.flatten).dropLast
    let rest := chunks.flatten.rtakeWhile (· ≠ lineFeed)
    let d := (feedAll {} chunks).1
    let messages := (feedAll {} chunks).2
    messages = lines.filterMap Message.ofBytes? ∧
    List.Forall₂ (fun line m => Message.ofBytes? line = some m)
      (lines.filter fun line => !Text.allBlank (String.ofList (Utf8.decode line))) messages ∧
    d.pending = rest ∧ lineFeed ∉ d.pending ∧
    d.finish = ({}, Message.ofBytes? rest) ∧ d.finish.1.finish = ({}, none) ∧
    ∀ later, feedAll d.finish.1 later = feedAll {} later := by
  intro lines rest d messages
  obtain ⟨hmessages, hpending⟩ := @feedAll_of_pending {} [] rfl chunks
  have hm : messages = lines.filterMap Message.ofBytes? := hmessages.symm
  have hp : d.pending = rest := hpending.trans (lastPiece_eq_rtakeWhile _)
  refine ⟨hm, hm ▸ forall₂_messages lines, hp, ?_, ?_, rfl, fun _ => rfl⟩
  · rw [hpending]
    exact Text.sep_not_mem_lastPiece _ _
  · rw [finish, hp]

end LineDecoder

end SelectorSearch
