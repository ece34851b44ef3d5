import SelectorSearch.Proofs.Json
import SelectorSearch.Proofs.LineDecoder
import SelectorSearch.Proofs.MessageGrammar
import SelectorSearch.Proofs.Utf8

/-!
# What Is Sent Is Received

The way of a message from the search tool to this library: it becomes an object, the object a line
of text, the lines a text, the text bytes, and the bytes arrive in chunks. Each step has its way
back. The object has the fields of the message (`hasFields_of_value?`) and is therefore read as it,
the line is read as the object because a message has only values that survive as text
(`readable_of_value?`), the bytes as the text (`Utf8.decode_encode`), and the chunks do not matter.
The line of a message is one line, whatever its texts hold, and ends with a brace, so neither the
line feed behind it nor a carriage return can be taken for a part of it.

## Main results

* `WireMessage.parse_line`: the line of a message is read as the message.
* `WireMessage.ofBytes?_line`: so are the bytes that arrive for it.
* `received_of_sent`: the messages of a stream are those that were sent.
-/

namespace SelectorSearch

namespace Message

open Json

/-! ### The text of a message -/

/-- A count is readable at any depth, since it is an integer of 64 bits. -/
theorem readable_count (n : UInt64) (depth : Nat) : Readable depth (.integer n.toNat) :=
  .integer (by omega) (by have := n.toNat_lt; omega)

/-- The object of a matching element can be read back from its text, at any depth but the
deepest. -/
theorem readable_detailValue (d : MatchDetail) (depth : Nat) :
    Readable (depth + 1) (detailValue d) :=
  .object (by simp [Readable.string, readable_count])

/-- The object that is written for a message can be read back from its text. -/
theorem readable_of_value? {m : Message} {v : Value} (hv : m.value? = some v) :
    Readable maxDepth v := by
  cases m with
  | countedFiles c =>
      cases hv
      exact .object (by simp [Readable.string, readable_count])
  | processingFile p =>
      cases hv
      exact .object (by simp [Readable.string, readable_count])
  | foundMatch f =>
      cases hv
      have hdetails : Readable 126 (.array (f.details.map detailValue)) :=
        .array (by simp [readable_detailValue])
      exact .object (by simp [Readable.string, readable_count, hdetails])
  | complete s =>
      cases hv
      exact .object (by simp [Readable.string, readable_count])
  | unrecognized status raw => cases hv
  | malformed raw => cases hv

/-- What is written for a message is an object. -/
theorem value?_eq_object {m : Message} {v : Value} (hv : m.value? = some v) :
    ∃ members, v = .object members := by
  cases m <;> cases hv <;> exact ⟨_, rfl⟩

/-! ### Reading what is written -/

/-- The object that is written for a message has the fields of this message. -/
theorem hasFields_of_value? {m : Message} {members : Members}
    (hv : m.value? = some (.object members)) : HasFields members m := by
  cases m with
  | countedFiles c =>
      cases hv
      exact ⟨rfl, rfl, .inl rfl, .inl rfl, .inl rfl, .inl rfl⟩
  | processingFile p =>
      cases hv
      exact ⟨rfl, rfl, rfl⟩
  | foundMatch f =>
      cases hv
      refine ⟨rfl, rfl, rfl, f.details.map detailValue, rfl, ?_⟩
      induction f.details with
      | nil => exact .nil
      | cons d rest ih => exact .cons (.object rfl rfl) ih
  | complete s =>
      cases hv
      exact ⟨rfl, rfl, rfl, rfl⟩
  | unrecognized status raw => cases hv
  | malformed raw => cases hv

/-- The object that is written for a consistent message is read as this message. -/
theorem ofValue_of_value? {m : Message} {v : Value} (hv : m.value? = some v) (h : m.Consistent)
    (raw : String) : ofValue raw v = .ok m := by
  obtain ⟨members, rfl⟩ := value?_eq_object hv
  obtain ⟨name, hname, hstatus⟩ := status_writable hv
  have hfields := hasFields_of_value? hv
  have htag : tag? members = some name := (status_of_hasFields hfields).symm.trans hstatus
  have hsize : (Value.object members).WordSized := (readable_of_value? hv).denotes.wordSized
  exact ((judges_of_tag hsize hname htag raw).accepts m).mpr ⟨hfields, h⟩

end Message

/-- A message that the search tool can write: one of a known kind, whose numbers agree. -/
structure WireMessage where
  message : Message
  known : message.line?.isSome
  consistent : message.Consistent

/-- What ends a line: a line feed alone, or a carriage return before it. -/
inductive LineEnd where
  | lf
  | crlf
  deriving DecidableEq, Repr

/-- What stands between the text of a line and its line feed. -/
def LineEnd.front : LineEnd → List Char
  | .lf => []
  | .crlf => ['\r']

/-- Every character in front of a line feed that belongs to the line end is dropped with it. -/
theorem LineEnd.isLineEnd_of_mem_front {e : LineEnd} {c : Char} (h : c ∈ e.front) :
    Text.isLineEnd c = true := by
  cases e with
  | lf => cases h
  | crlf =>
      obtain rfl := List.mem_singleton.mp h
      rfl

namespace WireMessage

open Json

variable (w : WireMessage)

/-- The line that the search tool writes for the message `w`, without its line end. -/
def line : String :=
  w.message.line?.get w.known

/-- The line of a message is the compact text of the object that is written for it. -/
theorem exists_value : ∃ v, w.message.value? = some v ∧ w.line = v.compact := by
  have hline : w.message.line? = some w.line := (Option.some_get w.known).symm
  obtain ⟨v, hv, hcompact⟩ := Option.map_eq_some_iff.mp hline
  exact ⟨v, hv, hcompact.symm⟩

/-- **The line of a message is read as the message.** -/
theorem parse_line : Message.parse w.line = .ok w.message := by
  obtain ⟨v, hv, hline⟩ := w.exists_value
  rw [hline, Message.parse, parse?_compact (Message.readable_of_value? hv)]
  exact Message.ofValue_of_value? hv w.consistent _

/-- The line of a message has no line feed, whatever its texts are. -/
theorem newline_not_mem_line : '\n' ∉ w.line.toList := by
  obtain ⟨v, hv, hline⟩ := w.exists_value
  rw [hline, Value.compact, String.toList_ofList]
  exact (Message.readable_of_value? hv).newline_not_mem

/-- The line of a message ends with the brace that closes its object. -/
theorem line_eq_concat : ∃ text, w.line.toList = text ++ ['}'] := by
  obtain ⟨v, hv, hline⟩ := w.exists_value
  obtain ⟨members, rfl⟩ := Message.value?_eq_object hv
  exact ⟨'{' :: printMembers members, by
    rw [hline, Value.compact, String.toList_ofList, Value.print, List.cons_append]⟩

/-- A carriage return behind the line of a message does not matter. -/
theorem dropLineEnd_line (e : LineEnd) :
    Text.dropLineEnd (String.ofList (w.line.toList ++ e.front)) = w.line := by
  have hfront : ∀ c ∈ e.front, Text.isLineEnd c = true := fun _ => LineEnd.isLineEnd_of_mem_front
  obtain ⟨text, htext⟩ := w.line_eq_concat
  rw [Text.dropLineEnd, String.toList_ofList, Text.dropEndWhile_append_of_all _ hfront, htext,
    Text.dropEndWhile_concat_of_neg _ (by decide), ← htext, String.ofList_toList]

/-- The line of a message is not blank. -/
theorem allBlank_line : Text.allBlank w.line = false := by
  obtain ⟨text, htext⟩ := w.line_eq_concat
  have hbrace : Text.isBlank '}' = false := by decide
  simp [Text.allBlank, htext, hbrace]

/-- **The bytes of a line are read as its message**, with whichever line end they arrive. -/
theorem ofBytes?_line (e : LineEnd) :
    Message.ofBytes? (Utf8.encode (w.line.toList ++ e.front)) = some w.message := by
  rw [Message.ofBytes?, Utf8.decode_encode, Message.ofLine?, dropLineEnd_line]
  simp [allBlank_line, parse_line]

/-- The bytes that arrive for the line of a message are one line. -/
theorem lineFeed_not_mem_line (e : LineEnd) :
    lineFeed ∉ Utf8.encode (w.line.toList ++ e.front) := by
  intro h
  obtain hline | hfront := List.mem_append.mp (Utf8.lineFeed_mem_encode h)
  · exact w.newline_not_mem_line hline
  · cases e <;> simp [LineEnd.front] at hfront

end WireMessage

/-! ### Streams -/

/-- The line of the `last` message, which has no line end, or nothing if there is no such
message. -/
def openLine (last : Option WireMessage) : List Char :=
  last.elim [] fun w => w.line.toList

/-- The text of the messages that were `sent` with their line ends, and of the `last` one
without. -/
def sentText (sent : List (WireMessage × LineEnd)) (last : Option WireMessage) : List Char :=
  (sent.flatMap fun (w, e) => w.line.toList ++ e.front ++ ['\n']) ++ openLine last

/-- The bytes of what was sent begin with those of its first line. -/
theorem encode_sentText_cons (w : WireMessage) (e : LineEnd) (sent : List (WireMessage × LineEnd))
    (last : Option WireMessage) :
    Utf8.encode (sentText ((w, e) :: sent) last) =
      Utf8.encode (w.line.toList ++ e.front) ++ lineFeed :: Utf8.encode (sentText sent last) := by
  have htext : sentText ((w, e) :: sent) last =
      (w.line.toList ++ e.front) ++ '\n' :: sentText sent last := by
    simp [sentText]
  rw [htext, Utf8.encode, List.flatMap_append, List.flatMap_cons]
  rfl

theorem lineFeed_not_mem_openLine (last : Option WireMessage) :
    lineFeed ∉ Utf8.encode (openLine last) := by
  cases last with
  | none => exact List.not_mem_nil
  | some w => simpa [openLine, LineEnd.front] using w.lineFeed_not_mem_line .lf

theorem ofBytes?_openLine (last : Option WireMessage) :
    Message.ofBytes? (Utf8.encode (openLine last)) = last.map WireMessage.message := by
  cases last with
  | none => rfl
  | some w => simpa [openLine, LineEnd.front] using w.ofBytes?_line .lf

/-- The lines of what was sent give their messages one by one, and the `last` one is what does not
end. -/
theorem split_sentText (sent : List (WireMessage × LineEnd)) (last : Option WireMessage) :
    Message.ofLines (Utf8.encode (sentText sent last)) = sent.map (fun (w, _) => w.message) ∧
      Text.lastPiece lineFeed (Utf8.encode (sentText sent last)) =
        Utf8.encode (openLine last) := by
  induction sent with
  | nil =>
      have hopen := lineFeed_not_mem_openLine last
      change Message.ofLines (Utf8.encode (openLine last)) = [] ∧
        Text.lastPiece lineFeed (Utf8.encode (openLine last)) = _
      rw [Message.ofLines, Text.split_of_not_mem hopen]
      exact ⟨rfl, Text.lastPiece_of_not_mem hopen⟩
  | cons first sent ih =>
      obtain ⟨w, e⟩ := first
      have hline := w.lineFeed_not_mem_line e
      rw [encode_sentText_cons, Message.ofLines_line hline, Text.lastPiece_append_sep hline,
        w.ofBytes?_line, ih.1, ih.2]
      exact ⟨rfl, rfl⟩

/-- **What is sent is received.** However the bytes of some messages are cut into chunks, and
whichever line ends stand behind them, a fresh decoder gives exactly these messages: each of them
when its line ends, and the last one at the end of the stream if its line does not. -/
theorem received_of_sent (sent : List (WireMessage × LineEnd)) (last : Option WireMessage)
    {chunks : List (List UInt8)} (h : chunks.flatten = Utf8.encode (sentText sent last)) :
    let d := (LineDecoder.feedAll {} chunks).1
    let received := (LineDecoder.feedAll {} chunks).2
    received = sent.map (fun (w, _) => w.message) ∧
      d.finish = ({}, last.map WireMessage.message) ∧
      received ++ d.finish.2.toList =
        (sent.map Prod.fst ++ last.toList).map WireMessage.message := by
  intro d received
  obtain ⟨hmessages, hpending⟩ := @LineDecoder.feedAll_of_pending {} [] rfl chunks
  obtain ⟨hlines, hlast⟩ := split_sentText sent last
  have hreceived : received = sent.map fun (w, _) => w.message := by
    rw [List.nil_append, h, hlines] at hmessages
    exact hmessages.symm
  have hfinish : d.finish = ({}, last.map WireMessage.message) := by
    rw [List.nil_append, h, hlast] at hpending
    rw [LineDecoder.finish, hpending, ofBytes?_openLine]
  refine ⟨hreceived, hfinish, ?_⟩
  rw [hreceived, hfinish]
  cases last <;> simp

/-- Two messages that arrive byte by byte, the second one without line end. -/
theorem received_byte_by_byte :
    let progress : WireMessage := ⟨.processingFile ⟨1, 2⟩, rfl, by decide⟩
    let found : WireMessage :=
      ⟨.foundMatch ⟨"a \"b\"\r\n", 1, [⟨18446744073709551615, "<p>\\ \x1f 𝒳"⟩]⟩, rfl, by decide⟩
    let bytes := Utf8.encode (sentText [(progress, .crlf)] (some found))
    (LineDecoder.feedAll {} (bytes.map ([·]))).2 = [progress.message] ∧
      (LineDecoder.feedAll {} (bytes.map ([·]))).1.finish = ({}, some found.message) := by
  intro progress found bytes
  have hchunks : (bytes.map ([·])).flatten = bytes := by
    rw [← List.flatMap_def]
    exact List.flatMap_singleton' bytes
  obtain ⟨hreceived, hfinish, -⟩ := received_of_sent [(progress, .crlf)] (some found) hchunks
  exact ⟨hreceived, hfinish⟩

end SelectorSearch
