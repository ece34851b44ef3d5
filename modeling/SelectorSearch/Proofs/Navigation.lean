import Mathlib.Data.List.Basic
import SelectorSearch.Proofs.Wire
import SelectorSearch.ResultText.Navigation

/-!
# Where Results Lead

An editor reads line numbers off the results with a pattern that wants a space behind the colon of
a label. Whether that leads to the matches is decided line by line: every line of a block is there
for one reason (`ResultLine`), and a line is taken for what it is (`Reads`) exactly if it is a
label and found with its number, or none and not found.

Headers and blank lines are always taken for what they are. A label is filled up to a fixed width
that a number of more than six digits uses up, so that no space is behind its colon unless the
source brings one. A further line of a source is indented, and is taken for a label if it looks
like one. For all other matches the results lead where they should.

## Main results

* `labelNumber?_eq_some_iff`: a number is found exactly in labels.
* `lines_matchBlock_eq_append`: the lines of a block, by what they are there for.
* `labelNumber?_label`, `labelOf_further_iff`: which labels and which further lines are found.
* `leads_to_matches_iff`: the matches to which the results lead.
-/

namespace SelectorSearch

namespace ResultText

open Text

/-! ### Labels -/

/-- A run of characters of one kind ends where a `c` of another kind begins, for `takeWhile` and for
`dropWhile`. -/
theorem span_append_cons {p : Char → Bool} {run : List Char} {c : Char}
    (hrun : ∀ x ∈ run, p x = true) (hc : p c = false) (rest : List Char) :
    (run ++ c :: rest).takeWhile p = run ∧ (run ++ c :: rest).dropWhile p = c :: rest := by
  simp [List.takeWhile_append_of_pos hrun, List.dropWhile_append_of_pos hrun, hc]

/-- Behind at least one space, a number with a colon is found by `labelNumber?` exactly if a space
follows the colon. -/
theorem labelNumber?_of_number {digits : List Char} (h : IsNumber digits) (spaces : Nat)
    (tail : List Char) :
    labelNumber? (List.replicate (spaces + 1) ' ' ++ (digits ++ ':' :: tail)) =
      if tail.head? = some ' ' then some digits else none := by
  obtain ⟨hne, hdigits⟩ := h
  obtain ⟨d, ds, rfl⟩ := List.exists_cons_of_ne_nil hne
  have hd : d ≠ ' ' := by
    rintro rfl
    exact absurd (hdigits ' ' List.mem_cons_self) (by decide)
  have hspaces : ∀ x ∈ List.replicate (spaces + 1) ' ', decide (x = ' ') = true := by simp
  obtain ⟨htake, hdrop⟩ := span_append_cons hspaces
    (show decide (d = ' ') = false by simpa using hd) (ds ++ ':' :: tail)
  obtain ⟨hnumber, hcolon⟩ := span_append_cons hdigits (show Char.isDigit ':' = false from rfl) tail
  rw [labelNumber?, List.cons_append, htake, hdrop, ← List.cons_append, List.replicate_succ]
  simp only [hnumber, hcolon]
  cases tail with
  | nil => rfl
  | cons c rest =>
      by_cases hc : c = ' '
      · subst hc
        rfl
      · simp [hc]

/-- **The number that is found is the one in the label**: `labelNumber?` finds it in exactly the
lines that begin with its label. -/
theorem labelNumber?_eq_some_iff {line digits : List Char} :
    labelNumber? line = some digits ↔ LabelOf digits line := by
  refine ⟨labelNumber?_eq_some, ?_⟩
  rintro ⟨spaces, rest, hdigits, rfl⟩
  rw [List.append_assoc, labelNumber?_of_number hdigits]
  rfl

/-- A line that does not begin with a space has no label at its front. -/
theorem labelNumber?_of_head? {line : List Char} (h : line.head? ≠ some ' ') :
    labelNumber? line = none := by
  cases line with
  | nil => rfl
  | cons c rest =>
      have hc : c ≠ ' ' := fun e => h (e ▸ rfl)
      simp [labelNumber?, hc]

/-! ### The lines of a block -/

/-- The digits of a line number, as they are printed in front of the colon of a label. -/
def lineDigits (line : UInt64) : List Char :=
  (toString line.toNat).toList

/-- The indented label of a line number: four spaces, and then the number with its colon, filled up
with spaces. -/
def labelText (line : UInt64) : List Char :=
  (labelIndent ++ lineLabel line).toList

/-- A line of the block of a file, by what it is there for: to name the file, to part matches, or to
show source. -/
inductive ResultLine where
  | header (m : FoundMatch)
  | blank
  /-- The first line of a source, behind the label with its line number. -/
  | label (line : UInt64) (source : List Char)
  /-- A further line of a source. -/
  | further (source : List Char)

namespace ResultLine

/-- The text of a line. Only a `label` carries a line number, and a `further` line of source is
indented as far as a label goes. -/
def text : ResultLine → List Char
  | .header m => (fileHeader m).toList
  | .blank => []
  | .label line source => labelText line ++ source
  | .further source => List.replicate labelWidth ' ' ++ source

/-- The line number that an editor should read off a line, which is that of a `label`. -/
def number? : ResultLine → Option (List Char)
  | .label line _ => some (lineDigits line)
  | _ => none

end ResultLine

/-- The lines of the block of one match: its label with the first line of its source, and then the
further lines. -/
def detailLines (d : MatchDetail) : List ResultLine :=
  match lines d.html with
  | [] => []
  | first :: rest => .label d.line first :: rest.map .further

/-- The lines of the block of a file: its header and a blank line, the lines of its matches, and one
blank line more, or two behind matches. -/
def resultLines (m : FoundMatch) : List ResultLine :=
  [.header m, .blank] ++ m.details.flatMap detailLines ++
    (if m.details.isEmpty then [.blank] else [.blank, .blank])

/-- The digits of a line number are the decimal digits of the word. -/
theorem lineDigits_eq (line : UInt64) : lineDigits line = Nat.toDigits 10 line.toNat := by
  simp [lineDigits]

/-- The digits of a line number are a number in the sense of the pattern that editors use. -/
theorem isNumber_lineDigits (line : UInt64) : IsNumber (lineDigits line) := by
  rw [lineDigits_eq]
  exact ⟨Nat.toDigits_ne_nil, fun _ => isDigit_of_mem_toDigits⟩

/-- A label is a number with a colon behind four spaces, and in front of the spaces that fill it up
to `labelWidth`. -/
theorem labelText_eq (line : UInt64) :
    labelText line = List.replicate 4 ' ' ++ (lineDigits line ++
      ':' :: List.replicate (labelWidth - ((lineDigits line).length + 1)) ' ') := by
  have hlength : (toString line.toNat ++ ":").length = (lineDigits line).length + 1 := by
    rw [String.length_append, lineDigits, String.length_toList]
    rfl
  simp only [labelText, lineLabel, hlength, String.toList_append, String.toList_ofList]
  rw [← lineDigits, List.append_assoc]
  rfl

/-- A number is part of a line, since no digit is a line feed. -/
theorem newline_not_mem_of_isNumber {digits : List Char} (h : IsNumber digits) : '\n' ∉ digits :=
  fun hmem => absurd (h.2 _ hmem) (by decide)

/-- A label is part of a line, since no line feed is in it. -/
theorem newline_not_mem_label (line : UInt64) : '\n' ∉ labelText line := by
  simp [labelText_eq, newline_not_mem_of_isNumber (isNumber_lineDigits line)]

/-- The header of a file is part of a line if the path of the file is, that is if it has no line
feed. -/
theorem newline_not_mem_header {m : FoundMatch} (h : '\n' ∉ m.file.toList) :
    '\n' ∉ (fileHeader m).toList := by
  have hcount : '\n' ∉ lineDigits m.matchCount :=
    newline_not_mem_of_isNumber (isNumber_lineDigits m.matchCount)
  have hnoun : '\n' ∉ (if m.matchCount = 1 then "match" else "matches").toList := by
    split <;> decide
  simp only [fileHeader, pluralise, String.toList_append, List.mem_append, not_or]
  exact ⟨⟨⟨h, by decide⟩, ⟨hcount, by decide⟩, hnoun⟩, by decide⟩

/-- Indenting a source leaves its `first` line, and puts the width of a label in front of each of
the others. -/
theorem split_indentLines {source first : List Char} {rest : List (List Char)}
    (h : split '\n' source = first :: rest) :
    split '\n' (indentLines source) = first :: rest.map (List.replicate labelWidth ' ' ++ ·) := by
  induction source generalizing first rest with
  | nil =>
      obtain ⟨rfl, rfl⟩ := List.cons.inj h
      rfl
  | cons c source ih =>
      obtain ⟨piece, pieces, hs⟩ := List.exists_cons_of_ne_nil (split_ne_nil '\n' source)
      by_cases hc : c = '\n'
      · subst hc
        rw [split_cons_sep, hs] at h
        obtain ⟨rfl, rfl⟩ := List.cons.inj h
        change split '\n' ('\n' :: (List.replicate labelWidth ' ' ++ indentLines source)) = _
        rw [split_cons_sep, split_append_of_not_mem (by simp) (ih hs)]
        rfl
      · simp only [split, hc, hs, if_false] at h
        obtain ⟨rfl, rfl⟩ := List.cons.inj h
        have hcons : indentLines (c :: source) = [c] ++ indentLines source := by
          simp [indentLines, hc]
        rw [hcons, split_append_of_not_mem (by simpa using Ne.symm hc) (ih hs)]
        rfl

/-- The block of a match is split into the lines that `detailLines` lists, before whatever stands
`after` it. -/
theorem split_detailBlock (d : MatchDetail) (after : List Char) :
    split '\n' ((detailBlock d).toList ++ after) =
      (detailLines d).map ResultLine.text ++ split '\n' after := by
  obtain ⟨first, rest, hlines⟩ := List.exists_cons_of_ne_nil (split_ne_nil '\n' d.html.toList)
  have hblock : (detailBlock d).toList ++ after =
      (labelText d.line ++ indentLines d.html.toList) ++ '\n' :: after := by
    simp [detailBlock, labelText]
  have hdetail : detailLines d = .label d.line first :: rest.map .further := by
    rw [detailLines, lines, hlines]
  rw [hblock, split_append_cons_sep, hdetail,
    split_append_of_not_mem (newline_not_mem_label d.line) (split_indentLines hlines)]
  simp [ResultLine.text]

/-- The blocks of several matches are split into the lines of each, before whatever stands `after`
them. -/
theorem split_detailBlocks (details : List MatchDetail) (after : List Char) :
    split '\n' ((String.join (details.map detailBlock)).toList ++ after) =
      (details.flatMap detailLines).map ResultLine.text ++ split '\n' after := by
  induction details with
  | nil => rfl
  | cons d rest ih =>
      rw [List.map_cons, String.join_cons, String.toList_append, List.append_assoc,
        split_detailBlock, ih]
      simp

/-- Behind the lines of its header, the block of a file has the lines that `resultLines` lists
behind the header. -/
theorem lines_matchBlock_eq_append (m : FoundMatch) :
    lines (matchBlock m) = lines (fileHeader m) ++ (resultLines m).tail.map ResultLine.text := by
  have hblock : (matchBlock m).toList = (fileHeader m).toList ++ '\n' :: '\n' ::
      ((String.join (m.details.map detailBlock)).toList ++
        if m.details.isEmpty then [] else ['\n']) := by
    cases hd : m.details.isEmpty <;> simp [matchBlock, hd]
  rw [lines, hblock, split_append_cons_sep, split_cons_sep, split_detailBlocks, lines]
  cases hd : m.details.isEmpty <;> simp [resultLines, ResultLine.text, hd, split]

/-- If the path of a file has no line feed, the lines of its block are those that `resultLines`
lists. -/
theorem lines_matchBlock {m : FoundMatch} (h : '\n' ∉ m.file.toList) :
    lines (matchBlock m) = (resultLines m).map ResultLine.text := by
  have hheader : lines (fileHeader m) = [(ResultLine.header m).text] :=
    split_of_not_mem (newline_not_mem_header h)
  rw [lines_matchBlock_eq_append, hheader]
  rfl

/-! ### What the lines are taken for -/

/-- The text looks like a label: behind some spaces, or none, a number with a colon and one more
space. -/
def BeginsWithLabel (source : List Char) : Prop :=
  ∃ (spaces : Nat) (digits rest : List Char), IsNumber digits ∧
    source = List.replicate spaces ' ' ++ (digits ++ ':' :: ' ' :: rest)

/-- A match to which the results lead: its label has room for a space, or the source has one, and no
further line of the source looks like a label. -/
structure Navigable (d : MatchDetail) : Prop where
  label : d.line.toNat < 1000000 ∨ d.html.toList.head? = some ' '
  further : ∀ source ∈ (lines d.html).tail, ¬BeginsWithLabel source

/-- Labels are filled up for numbers of up to six digits, and from `1000000` on they are not. -/
theorem length_lineDigits_lt_iff (line : UInt64) :
    (lineDigits line).length + 1 < labelWidth ↔ line.toNat < 1000000 := by
  rw [lineDigits_eq, show (1000000 : Nat) = 10 ^ 6 from rfl,
    ← Nat.length_toDigits_le_iff (by decide) (by decide), labelWidth]
  omega

/-- A label is found with its own number, if a space is behind its colon: one that fills it up, or
the first of its `source`. -/
theorem labelNumber?_label (line : UInt64) (source : List Char) :
    labelNumber? (ResultLine.label line source).text =
      if line.toNat < 1000000 ∨ source.head? = some ' ' then some (lineDigits line) else none := by
  rw [ResultLine.text, labelText_eq]
  simp only [List.append_assoc, List.cons_append]
  rw [labelNumber?_of_number (isNumber_lineDigits line) 3]
  simp only [← length_lineDigits_lt_iff]
  obtain hroom | hfull := Nat.lt_or_ge ((lineDigits line).length + 1) labelWidth
  · obtain ⟨n, hn⟩ := Nat.exists_eq_add_of_lt hroom
    have hpad : labelWidth - ((lineDigits line).length + 1) = n + 1 := by omega
    simp [hroom, hpad, List.replicate_succ]
  · have hpad : labelWidth - ((lineDigits line).length + 1) = 0 := by omega
    simp [Nat.not_lt.mpr hfull, hpad]

/-- **When a further line is taken for a label**: exactly if its source looks like one already
without the indentation. -/
theorem labelOf_further_iff (source : List Char) :
    (∃ digits, LabelOf digits (ResultLine.further source).text) ↔ BeginsWithLabel source := by
  constructor
  · rintro ⟨digits, spaces, rest, hdigits, h⟩
    rw [ResultLine.text, List.append_assoc] at h
    obtain ⟨more, hspaces, rfl⟩ | ⟨more, hindent, hnumber⟩ := List.append_eq_append_iff.mp h
    · obtain ⟨-, -, hmore⟩ := List.append_eq_replicate_iff.mp hspaces.symm
      exact ⟨more.length, digits, rest, hdigits, by rw [← hmore]⟩
    · -- the indentation ends where the number begins
      obtain rfl : more = [] := by
        obtain ⟨-, -, hmore⟩ := List.append_eq_replicate_iff.mp hindent.symm
        obtain ⟨d, ds, rfl⟩ := List.exists_cons_of_ne_nil hdigits.1
        rw [hmore] at hnumber
        cases hn : more.length with
        | zero => exact List.length_eq_zero_iff.mp hn
        | succ n =>
            rw [hn] at hnumber
            obtain ⟨rfl, -⟩ := List.cons.inj hnumber
            exact absurd (hdigits.2 ' ' List.mem_cons_self) (by decide)
      exact ⟨0, digits, rest, hdigits, hnumber.symm⟩
  · rintro ⟨spaces, digits, rest, hdigits, rfl⟩
    refine ⟨digits, 7 + spaces, rest, hdigits, ?_⟩
    rw [ResultLine.text, ← List.append_assoc, List.replicate_append_replicate, List.append_assoc,
      labelWidth, show 8 + spaces = 7 + spaces + 1 by omega]

instance (source : List Char) : Decidable (BeginsWithLabel source) :=
  decidable_of_iff ((labelNumber? (ResultLine.further source).text).isSome = true) <| by
    simp only [Option.isSome_iff_exists, labelNumber?_eq_some_iff, labelOf_further_iff]

instance (d : MatchDetail) : Decidable (Navigable d) :=
  decidable_of_iff ((d.line.toNat < 1000000 ∨ d.html.toList.head? = some ' ') ∧
      ∀ source ∈ (lines d.html).tail, ¬BeginsWithLabel source)
    ⟨fun h => ⟨h.1, h.2⟩, fun h => ⟨h.label, h.further⟩⟩

/-- A line is taken for what it is: as a label with a certain number exactly if it is the label with
this number. -/
def ResultLine.Reads (l : ResultLine) : Prop :=
  ∀ digits, LabelOf digits l.text ↔ l.number? = some digits

/-- A line is taken for what it is if `labelNumber?` finds in its text the number that `number?`
gives it. -/
theorem ResultLine.reads_iff (l : ResultLine) : l.Reads ↔ labelNumber? l.text = l.number? := by
  rw [Option.ext_iff]
  exact forall_congr' fun digits => by rw [labelNumber?_eq_some_iff]

/-- The header of a file is taken for no label, unless the path of the file begins with a space. -/
theorem reads_header {m : FoundMatch} (h : m.file.toList.head? ≠ some ' ') :
    (ResultLine.header m).Reads := by
  rw [ResultLine.reads_iff, ResultLine.text, fileHeader]
  simp only [String.toList_append]
  cases hfile : m.file.toList with
  | nil => rfl
  | cons c rest => exact labelNumber?_of_head? (by simpa [hfile] using h)

/-- A blank line is taken for no label. -/
theorem reads_blank : ResultLine.blank.Reads :=
  ResultLine.blank.reads_iff.mpr rfl

/-- A label is taken for one exactly if a space is behind its colon, where `1000000` is the first
number that leaves no room for it. -/
theorem reads_label_iff (line : UInt64) (source : List Char) :
    (ResultLine.label line source).Reads ↔ line.toNat < 1000000 ∨ source.head? = some ' ' := by
  rw [ResultLine.reads_iff, labelNumber?_label, ResultLine.number?]
  split <;> simp_all

/-- A further line is taken for what it is, and not for a label, unless its `source` looks like
one. -/
theorem reads_further_iff (source : List Char) :
    (ResultLine.further source).Reads ↔ ¬BeginsWithLabel source := by
  simp [ResultLine.Reads, ResultLine.number?, ← labelOf_further_iff]

/-- The `first` line of a text begins with a space exactly if the text does. -/
theorem head?_of_split {source first : List Char} {rest : List (List Char)}
    (h : split '\n' source = first :: rest) :
    source.head? = some ' ' ↔ first.head? = some ' ' := by
  have hjoin : Text.join '\n' (first :: rest) = source := h ▸ join_split '\n' source
  cases first with
  | cons c first => cases rest <;> simp [← hjoin, Text.join]
  | nil => cases rest <;> simp [← hjoin, Text.join]

/-- The results lead to a match exactly if all of its lines are taken for what they are. -/
theorem navigable_iff (d : MatchDetail) : Navigable d ↔ ∀ l ∈ detailLines d, l.Reads := by
  obtain ⟨first, rest, hlines⟩ := List.exists_cons_of_ne_nil (split_ne_nil '\n' d.html.toList)
  have hdetail : detailLines d = .label d.line first :: rest.map .further := by
    rw [detailLines, lines, hlines]
  have htail : (lines d.html).tail = rest := by rw [lines, hlines, List.tail_cons]
  rw [hdetail, List.forall_mem_cons, reads_label_iff, ← head?_of_split hlines]
  simp only [List.forall_mem_map, reads_further_iff]
  exact ⟨fun h => ⟨h.label, htail ▸ h.further⟩, fun h => ⟨h.1, htail ▸ h.2⟩⟩

/-- The numbers in the block of a match are only the one of its label. -/
theorem filterMap_number?_detailLines (d : MatchDetail) :
    (detailLines d).filterMap ResultLine.number? = [lineDigits d.line] := by
  obtain ⟨first, rest, hlines⟩ := List.exists_cons_of_ne_nil (split_ne_nil '\n' d.html.toList)
  have hfurther : (rest.map ResultLine.further).filterMap ResultLine.number? = [] := by
    simp [List.filterMap_eq_nil_iff, ResultLine.number?]
  rw [detailLines, lines, hlines, List.filterMap_cons, hfurther]
  rfl

/-- The numbers in the block of a file are those of its matches, one for each and in their order. -/
theorem filterMap_number?_resultLines (m : FoundMatch) :
    (resultLines m).filterMap ResultLine.number? = m.details.map (lineDigits ·.line) := by
  have hdetails : ∀ details : List MatchDetail,
      (details.flatMap detailLines).filterMap ResultLine.number? =
        details.map (lineDigits ·.line) := by
    intro details
    induction details with
    | nil => rfl
    | cons d rest ih =>
        rw [List.flatMap_cons, List.filterMap_append, ih, filterMap_number?_detailLines]
        rfl
  have hend : ∀ b : Bool, (if b then [ResultLine.blank] else [.blank, .blank]).filterMap
      ResultLine.number? = [] := by decide
  rw [resultLines, List.filterMap_append, List.filterMap_append, hdetails, hend, List.append_nil]
  rfl

/-- The lines of the block of a file are all taken for what they are exactly if every match of it is
`Navigable`. -/
theorem reads_resultLines_iff {m : FoundMatch} (h : m.file.toList.head? ≠ some ' ') :
    (∀ l ∈ resultLines m, l.Reads) ↔ ∀ d ∈ m.details, Navigable d := by
  constructor
  · intro hreads d hd
    refine (navigable_iff d).mpr fun l hl => hreads l ?_
    rw [resultLines, List.mem_append, List.mem_append]
    exact .inl (.inr (List.mem_flatMap.mpr ⟨d, hd, hl⟩))
  · intro hnavigable l hl
    rw [resultLines, List.mem_append, List.mem_append, List.mem_flatMap] at hl
    obtain (hfront | ⟨d, hd, hdetail⟩) | hend := hl
    · obtain rfl | rfl : l = .header m ∨ l = .blank := by simpa using hfront
      · exact reads_header h
      · exact reads_blank
    · exact (navigable_iff d).mp (hnavigable d hd) l hdetail
    · obtain rfl : l = .blank := by
        split at hend <;> simpa using hend
      exact reads_blank

/-- **Where the results lead.** For a file whose path is one line that does not begin with a space,
the lines of its block are a header, blank lines, and for each match its label and the further
lines of its source. All of them are taken for what they are exactly if every match is navigable:
its label is found if its number has at most six digits or its source begins with a space, and its
further lines are not found if none looks like a label. What is found are then the numbers of the
matches, in their order. -/
theorem leads_to_matches_iff {m : FoundMatch} (hfile : '\n' ∉ m.file.toList)
    (hspace : m.file.toList.head? ≠ some ' ') :
    lines (matchBlock m) = (resultLines m).map ResultLine.text ∧
      (resultLines m).filterMap ResultLine.number? = m.details.map (lineDigits ·.line) ∧
      ((∀ l ∈ resultLines m, l.Reads) ↔ ∀ d ∈ m.details, Navigable d) ∧
      ((∀ d ∈ m.details, Navigable d) →
        (lines (matchBlock m)).filterMap labelNumber? = m.details.map (lineDigits ·.line)) := by
  refine ⟨lines_matchBlock hfile, filterMap_number?_resultLines m, reads_resultLines_iff hspace,
    fun h => ?_⟩
  have hreads : ∀ l ∈ resultLines m, labelNumber? l.text = l.number? := fun l hl =>
    l.reads_iff.mp ((reads_resultLines_iff hspace).mpr h l hl)
  rw [lines_matchBlock hfile, List.filterMap_map, ← filterMap_number?_resultLines]
  exact List.filterMap_congr hreads

/-- Two matches, the second of them with a source of two lines. -/
theorem leads_to_two_matches :
    let m : FoundMatch := ⟨"a.html", 2, [⟨7, "<b>"⟩, ⟨123456, "<p>\n</p>"⟩]⟩
    (lines (matchBlock m)).filterMap labelNumber? = ["7".toList, "123456".toList] := by
  intro m
  obtain ⟨-, -, -, hfound⟩ := @leads_to_matches_iff m (by decide) (by decide)
  exact hfound (by decide)

/-- Lines that are taken for what they are not, though the messages can be read: the label of a
number of eight digits is not found, and a further line that looks like a label is. -/
theorem not_leads_to_matches :
    let long : FoundMatch := ⟨"a.html", 1, [⟨12345678, "<p>"⟩]⟩
    let numbered : FoundMatch := ⟨"a.html", 1, [⟨3, "<pre>\n12: x"⟩]⟩
    (∃ line, Message.parse line = .ok (.foundMatch long)) ∧
      lines (matchBlock long) =
        ["a.html (1 match)".toList, [], "    12345678:<p>".toList, [], []] ∧
      (lines (matchBlock long)).filterMap labelNumber? = [] ∧
      (∃ line, Message.parse line = .ok (.foundMatch numbered)) ∧
      (lines (matchBlock numbered)).filterMap labelNumber? = ["3".toList, "12".toList] := by
  intro long numbered
  have hread (m : FoundMatch) (h : (Message.foundMatch m).Consistent) :
      ∃ line, Message.parse line = .ok (.foundMatch m) :=
    ⟨_, WireMessage.parse_line ⟨.foundMatch m, rfl, h⟩⟩
  exact ⟨hread long (by decide), by decide, by decide, hread numbered (by decide), by decide⟩

end ResultText

end SelectorSearch
