import SelectorSearch.Proofs.Damage
import SelectorSearch.Proofs.LineDecoder

/-!
# Lines Before and After Decoding

A stream is cut into lines while it is still bytes, before anyone knows whether they are UTF-8.
Nothing is lost by that: the lines are the same that the decoded text has. The byte of a line feed
is never part of another character, ends whatever damage stands before it, and is the only one that
is decoded to a line feed.

So every line is a matter of its own bytes. Damage in it, even at its very end, does not reach the
next line, and neither does the way the stream arrives in chunks.

## Main results

* `split_decode`: the lines of the decoded text are the decoded lines.
* `ofStream_append_of_start`, `ofStream_append_of_end`: a stream may be parted at the boundaries of
  its lines.
* `decodeAll_eq_ofText`: the messages of a stream are those of its text.
-/

namespace SelectorSearch

open Text

/-- The bytes of `pieces` that are joined with line feeds are decoded piece by piece. -/
theorem decode_join (pieces : List (List UInt8)) :
    Utf8.decode (join lineFeed pieces) = join '\n' (pieces.map Utf8.decode) := by
  induction pieces with
  | nil => rfl
  | cons piece rest ih =>
      cases rest with
      | nil => rfl
      | cons next more =>
          have hascii : lineFeed.toNat ≤ 0x7F := by decide
          rw [join, Utf8.decode_append_ascii hascii, ih]
          rfl

/-- **Decoding keeps lines apart**: the lines of the decoded text are the decoded lines of the
`bytes`. -/
theorem split_decode (bytes : List UInt8) :
    split '\n' (Utf8.decode bytes) = (split lineFeed bytes).map Utf8.decode := by
  have hne : (split lineFeed bytes).map Utf8.decode ≠ [] := by
    simpa using split_ne_nil lineFeed bytes
  have hpieces : ∀ piece ∈ (split lineFeed bytes).map Utf8.decode, '\n' ∉ piece := by
    intro piece hpiece hmem
    obtain ⟨line, hline, rfl⟩ := List.mem_map.mp hpiece
    exact sep_not_mem_of_mem_split hline (Utf8.lineFeed_mem_of_decode hmem)
  calc split '\n' (Utf8.decode bytes)
      = split '\n' (Utf8.decode (join lineFeed (split lineFeed bytes))) := by rw [join_split]
    _ = split '\n' (join '\n' ((split lineFeed bytes).map Utf8.decode)) := by rw [decode_join]
    _ = (split lineFeed bytes).map Utf8.decode := split_join hne hpieces

namespace Message

/-- The messages of the lines of a `text`, in their order. -/
def ofText (text : List Char) : List Message :=
  (split '\n' text).filterMap fun line => ofLine? (String.ofList line)

/-- The messages of a stream are those of the text that its bytes are decoded to. -/
theorem ofText_decode (bytes : List UInt8) : ofText (Utf8.decode bytes) = ofStream bytes := by
  rw [ofText, split_decode, List.filterMap_map, ofStream]
  refine List.filterMap_congr fun line _ => ?_
  rw [Function.comp_apply, ofBytes?]

/-- A line that is whole UTF-8 says what its characters say. -/
theorem ofBytes?_encode (chars : List Char) :
    ofBytes? (Utf8.encode chars) = ofLine? (String.ofList chars) := by
  rw [ofBytes?, Utf8.decode_encode]

/-! ### The boundaries of lines -/

/-- A line begins behind these bytes: they are none, or end with a line feed. -/
def AtLineStart (before : List UInt8) : Prop :=
  ∀ b ∈ before.getLast?, b = lineFeed

/-- A line ends before these bytes: they are none, or begin with a line feed. -/
def AtLineEnd (after : List UInt8) : Prop :=
  ∀ b ∈ after.head?, b = lineFeed

instance (before : List UInt8) : Decidable (AtLineStart before) :=
  Option.decidableForallMem before.getLast?

instance (after : List UInt8) : Decidable (AtLineEnd after) :=
  Option.decidableForallMem after.head?

@[simp] theorem ofStream_nil : ofStream [] = [] := rfl

/-- A stream without a line feed is one line, and has the message of this line. -/
theorem ofStream_of_not_mem {line : List UInt8} (h : lineFeed ∉ line) :
    ofStream line = (ofBytes? line).toList := by
  rw [ofStream, split_of_not_mem h]
  cases hm : ofBytes? line <;> simp [hm]

/-- A stream may be parted where a line begins, behind the bytes `before`. -/
theorem ofStream_append_of_start {before : List UInt8} (h : AtLineStart before)
    (rest : List UInt8) : ofStream (before ++ rest) = ofStream before ++ ofStream rest := by
  cases before using List.reverseRecOn with
  | nil => rfl
  | append_singleton front b =>
      obtain rfl : b = lineFeed := h b (by simp)
      rw [List.append_assoc, List.singleton_append, ofStream_append_lineFeed,
        ofStream_append_lineFeed, ofStream_nil, List.append_nil]

/-- A stream may be parted where a line ends, in front of the bytes `after`. -/
theorem ofStream_append_of_end {after : List UInt8} (h : AtLineEnd after)
    (front : List UInt8) : ofStream (front ++ after) = ofStream front ++ ofStream after := by
  cases after with
  | nil => simp
  | cons b rest =>
      obtain rfl : b = lineFeed := h b rfl
      have hrest := ofStream_append_lineFeed [] rest
      rw [List.nil_append, ofStream_nil, List.nil_append] at hrest
      rw [ofStream_append_lineFeed, hrest]

/-- A line in a stream is read apart from what stands `before` and `after` it. -/
theorem ofStream_line {before line after : List UInt8} (hstart : AtLineStart before)
    (hline : lineFeed ∉ line) (hend : AtLineEnd after) :
    ofStream (before ++ line ++ after) =
      ofStream before ++ (ofBytes? line).toList ++ ofStream after := by
  rw [ofStream_append_of_end hend, ofStream_append_of_start hstart, ofStream_of_not_mem hline]

end Message

namespace LineDecoder

/-- **Lines may be cut before or after decoding.** However a stream is cut into chunks, its messages
are those of the lines of its text, where the text is the only one that the bytes can be read as
with one replacement character for each damaged part. A line of the stream is read apart from what
stands before and behind it, whatever damage there is, and a line that is whole UTF-8 says what its
characters say. -/
theorem decodeAll_eq_ofText (chunks : List (List UInt8)) :
    decodeAll chunks = Message.ofText (Utf8.decode chunks.flatten) ∧
      (∀ text, Utf8.LossyReading chunks.flatten text ↔ text = Utf8.decode chunks.flatten) ∧
      Text.split '\n' (Utf8.decode chunks.flatten) =
        (Text.split lineFeed chunks.flatten).map Utf8.decode ∧
      ∀ before line after, chunks.flatten = before ++ line ++ after →
        Message.AtLineStart before → lineFeed ∉ line → Message.AtLineEnd after →
        decodeAll chunks = Message.ofText (Utf8.decode before) ++
            (Message.ofBytes? line).toList ++ Message.ofText (Utf8.decode after) ∧
          ∀ chars, line = Utf8.encode chars →
            Message.ofBytes? line = Message.ofLine? (String.ofList chars) := by
  have htext : decodeAll chunks = Message.ofText (Utf8.decode chunks.flatten) := by
    rw [decodeAll_eq, Message.ofText_decode]
  refine ⟨htext, fun _ => Utf8.lossyReading_iff, split_decode chunks.flatten, ?_⟩
  intro before line after hbytes hstart hline hend
  constructor
  · rw [htext, Message.ofText_decode, hbytes, Message.ofStream_line hstart hline hend,
      Message.ofText_decode, Message.ofText_decode]
  · rintro chars rfl
    exact Message.ofBytes?_encode chars

/-- A character of three bytes that lacks its last one at the end of a line, then a line whose
character arrives in two chunks, then a byte that begins nothing. -/
theorem decodeAll_between_damage :
    decodeAll [[0xE2], [0x82, 0x0A, 0xC3], [0xBC, 0x0A], [0x80]] =
      [.malformed "\uFFFD", .malformed "ü", .malformed "\uFFFD"] := by
  have hdamage : Message.ofText (Utf8.decode [0xE2, 0x82, 0x0A]) = [.malformed "\uFFFD"] := by
    decide +kernel
  have hafter : Message.ofText (Utf8.decode [0x0A, 0x80]) = [.malformed "\uFFFD"] := by
    decide +kernel
  obtain ⟨-, -, -, hlines⟩ := decodeAll_eq_ofText [[0xE2], [0x82, 0x0A, 0xC3], [0xBC, 0x0A], [0x80]]
  obtain ⟨hmessages, hline⟩ := hlines [0xE2, 0x82, 0x0A] [0xC3, 0xBC] [0x0A, 0x80] rfl
    (by decide) (by decide) (by decide)
  rw [hmessages, hdamage, hafter, hline ['ü'] rfl]
  decide +kernel

end LineDecoder

end SelectorSearch
