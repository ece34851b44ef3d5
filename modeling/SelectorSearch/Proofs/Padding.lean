import Mathlib.Logic.Relation
import SelectorSearch.Proofs.DecodedLines

/-!
# What Is Invisible in a Stream

Blank lines and carriage returns at the ends of lines leave no trace in the messages of a stream,
not even in the texts that are kept of lines that are no messages. `Insertion` is one such change:
a line of blanks between lines, in front of them or behind them, or a carriage return where a line
ends. Any number of them, at any places, is a chain of insertions.

Each insertion touches one line of the stream, so that it is enough to look at that line
(`Message.ofStream_append_of_start`, `Message.ofStream_append_of_end`). A line of blanks has no
message, and a line is read without the carriage returns at its end. A text that is kept has already
lost its line end, so reading it again gives the same message.

## Main results

* `Insertion.ofStream_eq`: an insertion does not change the messages.
* `ofLine?_of_raw?`: a text that is kept is read as it was.
* `decodeAll_of_insertions`: blank lines and carriage returns are invisible.
-/

namespace SelectorSearch

open Text

namespace Message

/-! ### Texts that are kept -/

/-- A line is read without its line end: two lines that are the same without theirs have the same
message. -/
theorem ofLine?_congr {line line' : String} (h : dropLineEnd line = dropLineEnd line') :
    ofLine? line = ofLine? line' := by
  rw [ofLine?, ofLine?, h]

/-- A line end is dropped as a whole, so that nothing is left to drop. -/
theorem dropLineEnd_dropLineEnd (line : String) :
    dropLineEnd (dropLineEnd line) = dropLineEnd line := by
  rw [dropLineEnd, dropLineEnd, String.toList_ofList, dropEndWhile_idem]

/-- The text of a line that a message keeps, because nothing else is known about the line. -/
def raw? : Message → Option String
  | .unrecognized _ raw => some raw
  | .malformed raw => some raw
  | _ => none

/-- A message of a known kind keeps no text after it is `checked`. -/
theorem raw?_of_read {α : Type} {fields : Except LineError α} {make : α → Message}
    (hmake : ∀ a, (make a).raw? = none) {m : Message}
    (h : (fields >>= fun a => checked (make a)) = .ok m) : m.raw? = none := by
  cases fields with
  | error e => cases h
  | ok a => exact eq_of_checked h ▸ hmake a

/-- What can be read from a line keeps the whole line, if it keeps a text. -/
theorem eq_of_raw?_of_parse {line raw : String} {m : Message} (h : parse line = .ok m)
    (hraw : m.raw? = some raw) : raw = line := by
  unfold parse at h
  split at h
  · cases h
  · next v _ =>
      cases v with
      | object members =>
          simp only [ofValue, ofMembers] at h
          split at h
          case h_5 =>
            cases h
            exact (Option.some.inj hraw).symm
          all_goals cases (raw?_of_read (fun _ => rfl) h).symm.trans hraw
      | _ => cases h

/-- A text that is kept of a line is the line without its line end. -/
theorem eq_of_raw? {line raw : String} {m : Message} (h : ofLine? line = some m)
    (hraw : m.raw? = some raw) : raw = dropLineEnd line := by
  simp only [ofLine?] at h
  split at h
  · cases h
  · split at h
    · next hparse =>
        obtain rfl := Option.some.inj h
        exact eq_of_raw?_of_parse hparse hraw
    · obtain rfl := Option.some.inj h
      exact (Option.some.inj hraw).symm

/-- A text that is kept of a line is read as the message that the line was read as. -/
theorem ofLine?_of_raw? {line raw : String} {m : Message} (h : ofLine? line = some m)
    (hraw : m.raw? = some raw) : ofLine? raw = some m := by
  rw [eq_of_raw? h hraw, ofLine?_congr (dropLineEnd_dropLineEnd line), h]

/-! ### Insertions -/

/-- The byte of a carriage return, which may stand before a line feed. -/
def carriageReturn : UInt8 := 0x0D

/-- A line that has no line feed in it and whose text is blank. -/
structure IsBlankLine (line : List UInt8) : Prop where
  lineFeed_not_mem : lineFeed ∉ line
  blank : allBlank (String.ofList (Utf8.decode line)) = true

/-- One insertion into a stream: of a blank line where a line begins, or of a carriage return where
one ends. -/
inductive Insertion : List UInt8 → List UInt8 → Prop
  /-- A blank line where a line begins. -/
  | blankLine {before line : List UInt8} (after : List UInt8) (hstart : AtLineStart before)
      (hline : IsBlankLine line) :
      Insertion (before ++ after) (before ++ (line ++ lineFeed :: after))
  /-- A blank last line without line feed. -/
  | blankEnd {before line : List UInt8} (hstart : AtLineStart before) (hline : IsBlankLine line) :
      Insertion before (before ++ line)
  /-- A blank line behind the last one, which is ended for that. -/
  | blankBehind (before : List UInt8) {line : List UInt8} (hline : IsBlankLine line) :
      Insertion before (before ++ lineFeed :: line)
  /-- A carriage return where a line ends. -/
  | lineEnd (before : List UInt8) {after : List UInt8} (hend : AtLineEnd after) :
      Insertion (before ++ after) (before ++ carriageReturn :: after)

/-- A blank line has no message. -/
theorem IsBlankLine.ofStream_eq {line : List UInt8} (h : IsBlankLine line) :
    ofStream line = [] := by
  rw [ofStream_of_not_mem h.lineFeed_not_mem, ofBytes?, (ofLine?_eq_none_iff _).mpr h.blank]
  rfl

/-- Any `bytes` end with a line that has no line feed yet, and which may be empty. -/
theorem exists_last_line (bytes : List UInt8) :
    ∃ before line, bytes = before ++ line ∧ AtLineStart before ∧ lineFeed ∉ line := by
  induction bytes using List.reverseRecOn with
  | nil => exact ⟨[], [], rfl, by decide, List.not_mem_nil⟩
  | append_singleton front b ih =>
      by_cases hb : b = lineFeed
      · subst hb
        exact ⟨front ++ [lineFeed], [], by simp, by simp [AtLineStart], List.not_mem_nil⟩
      · obtain ⟨before, line, rfl, hstart, hline⟩ := ih
        refine ⟨before, line ++ [b], by simp, hstart, ?_⟩
        simpa [hline] using Ne.symm hb

/-- A carriage return at the end of a line is not read. -/
theorem ofBytes?_concat_carriageReturn (line : List UInt8) :
    ofBytes? (line ++ [carriageReturn]) = ofBytes? line := by
  have hascii : carriageReturn.toNat ≤ 0x7F := by decide
  have hdecode : Utf8.decode (line ++ [carriageReturn]) = Utf8.decode line ++ ['\r'] :=
    Utf8.decode_append_ascii hascii line []
  refine ofLine?_congr ?_
  rw [hdecode, dropLineEnd, dropLineEnd, String.toList_ofList, String.toList_ofList,
    dropEndWhile_concat_of_pos _ (by decide)]

/-- A carriage return at the end of a stream is not read. -/
theorem ofStream_concat_carriageReturn (bytes : List UInt8) :
    ofStream (bytes ++ [carriageReturn]) = ofStream bytes := by
  obtain ⟨before, line, rfl, hstart, hline⟩ := exists_last_line bytes
  have hreturn : lineFeed ≠ carriageReturn := by decide
  have hline' : lineFeed ∉ line ++ [carriageReturn] := by simp [hline, hreturn]
  rw [List.append_assoc, ofStream_append_of_start hstart, ofStream_append_of_start hstart,
    ofStream_of_not_mem hline', ofStream_of_not_mem hline, ofBytes?_concat_carriageReturn]

/-- **One insertion does not change the messages of a stream.** -/
theorem Insertion.ofStream_eq {a b : List UInt8} (h : Insertion a b) : ofStream a = ofStream b := by
  cases h with
  | blankLine after hstart hline =>
      rw [ofStream_append_of_start hstart, ofStream_append_of_start hstart,
        ofStream_append_lineFeed, hline.ofStream_eq, List.nil_append]
  | blankEnd hstart hline =>
      rw [ofStream_append_of_start hstart, hline.ofStream_eq, List.append_nil]
  | blankBehind before hline =>
      rw [ofStream_append_lineFeed, hline.ofStream_eq, List.append_nil]
  | lineEnd before hend =>
      rw [List.append_cons, ofStream_append_of_end hend, ofStream_append_of_end hend,
        ofStream_concat_carriageReturn]

/-- Any number of insertions does not change the messages of a stream, by induction on them. -/
theorem ofStream_of_insertions {a b : List UInt8} (h : Relation.ReflTransGen Insertion a b) :
    ofStream a = ofStream b := by
  induction h with
  | refl => rfl
  | tail _ hstep ih => exact ih.trans hstep.ofStream_eq

end Message

namespace LineDecoder

open Message

/-- **Blank lines and carriage returns are invisible.** A stream into which blank lines are inserted
where lines begin, and carriage returns where lines end, has the same messages in the same order,
with the same texts of lines that are no messages, however both streams are cut into chunks. A line
says nothing exactly if all its characters are blank, and a text that is kept of a line is read as
the line was. -/
theorem decodeAll_of_insertions {a b : List UInt8} (h : Relation.ReflTransGen Insertion a b) :
    (∀ chunks chunks' : List (List UInt8), chunks.flatten = a → chunks'.flatten = b →
        decodeAll chunks' = decodeAll chunks) ∧
      (∀ line, ofLine? line = none ↔ ∀ c ∈ line.toList, isBlank c = true) ∧
      ∀ line m raw, ofLine? line = some m → m.raw? = some raw → ofLine? raw = some m := by
  refine ⟨fun chunks chunks' ha hb => ?_, fun line => ?_, fun _ _ _ => ofLine?_of_raw?⟩
  · rw [decodeAll_eq, decodeAll_eq, ha, hb, ofStream_of_insertions h]
  · rw [ofLine?_eq_none_iff, allBlank, List.all_eq_true]

/-- A line of an em space in front, whose bytes arrive in two chunks, and carriage returns at the
ends of a line that is no message and of a damaged last one. -/
theorem decodeAll_of_em_space :
    decodeAll [[0xE2, 0x80], [0x83, 0x0A, 0x6F, 0x0D], [0x0A, 0xFF], [0x0D]] =
      [.malformed "o", .malformed "\uFFFD"] := by
  have hspace : IsBlankLine [0xE2, 0x80, 0x83] := ⟨by decide, by decide⟩
  have hfirst : Insertion [0x6F, 0x0A, 0xFF] [0xE2, 0x80, 0x83, 0x0A, 0x6F, 0x0A, 0xFF] :=
    @Insertion.blankLine [] [0xE2, 0x80, 0x83] [0x6F, 0x0A, 0xFF] (by decide) hspace
  have hsecond : Insertion [0xE2, 0x80, 0x83, 0x0A, 0x6F, 0x0A, 0xFF]
      [0xE2, 0x80, 0x83, 0x0A, 0x6F, 0x0D, 0x0A, 0xFF] :=
    @Insertion.lineEnd [0xE2, 0x80, 0x83, 0x0A, 0x6F] [0x0A, 0xFF] (by decide)
  have hthird : Insertion [0xE2, 0x80, 0x83, 0x0A, 0x6F, 0x0D, 0x0A, 0xFF]
      [0xE2, 0x80, 0x83, 0x0A, 0x6F, 0x0D, 0x0A, 0xFF, 0x0D] :=
    @Insertion.lineEnd [0xE2, 0x80, 0x83, 0x0A, 0x6F, 0x0D, 0x0A, 0xFF] [] (by decide)
  have hall := ((Relation.ReflTransGen.single hfirst).tail hsecond).tail hthird
  obtain ⟨hmessages, -, -⟩ := decodeAll_of_insertions hall
  rw [hmessages [[0x6F, 0x0A, 0xFF]] _ rfl rfl]
  decide +kernel

end LineDecoder

end SelectorSearch
