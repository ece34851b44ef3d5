import SelectorSearch.Proofs.Navigation

/-!
# Nothing Is Lost in the Results

The results of some files determine the matches in them: paths, counts, line numbers and sources.
This does not depend on what paths and sources look like. A path may read like a label, and a
source may contain lines that read like headers; the lines of a result are told apart by where
they stand and by their first characters alone.

Read from the front, the first two lines of a block are its header and a blank one. After them a
line that begins with four spaces and a digit opens a match, a line that begins with eight spaces
goes on with its source, and an empty line ends the block. The further lines of a source are
indented even where the source has an empty line, so they are not mistaken for that end. A header
is read from its end: behind its last opening parenthesis there is only the count.

## Main results

* `header_injective`, `label_injective`: what a header and the line of a label determine.
* `detailLines_injective`: the lines of some matches determine the matches and what follows them.
* `results_eq_iff`: equal results are results of equal matches.
-/

namespace SelectorSearch

namespace ResultText

open Text

/-! ### Single lines -/

/-- The last piece of a text begins behind the last separator `sep`. -/
theorem lastPiece_append_cons {sep : Char} {s : List Char} (h : sep ∉ s) (a : List Char) :
    lastPiece sep (a ++ sep :: s) = s := by
  rw [lastPiece_append, lastPiece_append_sep (sep_not_mem_lastPiece sep a), lastPiece_of_not_mem h]

/-- The digits of a number determine the number. -/
theorem lineDigits_injective {n n' : UInt64} (h : lineDigits n = lineDigits n') : n = n' := by
  rw [lineDigits_eq, lineDigits_eq] at h
  have hvalue := congrArg (Nat.ofDigitChars 10 · 0) h
  simp only [Nat.ofDigitChars_ten_toDigits] at hvalue
  exact UInt64.toNat_inj.mp hvalue

/-- What stands behind the opening parenthesis of a header: the count, a word for matches and the
closing parenthesis. -/
def countText (count : UInt64) : List Char :=
  lineDigits count ++ ' ' :: ((if count = 1 then "match" else "matches").toList ++ [')'])

/-- A header is the path of a file, a blank, and the text of its count in parentheses. -/
theorem toList_fileHeader (m : FoundMatch) :
    (fileHeader m).toList = m.file.toList ++ ' ' :: '(' :: countText m.matchCount := by
  simp [fileHeader, pluralise, countText, lineDigits]

/-- The text of a count has no opening parenthesis, so that the last one in a header stands before
it. -/
theorem parenthesis_not_mem_countText (count : UInt64) : '(' ∉ countText count := by
  have hdigits : '(' ∉ lineDigits count := fun h =>
    absurd ((isNumber_lineDigits count).2 _ h) (by decide)
  have hnoun : '(' ∉ (if count = 1 then "match" else "matches").toList := by
    split <;> decide
  simp only [countText, List.mem_append, List.mem_cons, not_or]
  exact ⟨hdigits, by decide, hnoun, by decide, by simp⟩

/-- The text of a count determines the count. -/
theorem countText_injective {n n' : UInt64} (h : countText n = countText n') : n = n' := by
  have hspace : Char.isDigit ' ' = false := rfl
  have hdigits := congrArg (List.takeWhile Char.isDigit) h
  rw [countText, countText, (span_append_cons (isNumber_lineDigits n).2 hspace _).1,
    (span_append_cons (isNumber_lineDigits n').2 hspace _).1] at hdigits
  exact lineDigits_injective hdigits

/-- **A header determines the path and the count of its file.** The path may have parentheses of its
own, but the last one belongs to the count. -/
theorem header_injective {m m' : FoundMatch} (h : (fileHeader m).toList = (fileHeader m').toList) :
    m.file = m'.file ∧ m.matchCount = m'.matchCount := by
  rw [toList_fileHeader, toList_fileHeader, List.append_cons, List.append_cons m'.file.toList] at h
  have hcount := congrArg (lastPiece '(') h
  rw [lastPiece_append_cons (parenthesis_not_mem_countText _),
    lastPiece_append_cons (parenthesis_not_mem_countText _)] at hcount
  rw [hcount] at h
  have hfile : m.file.toList = m'.file.toList :=
    List.append_cancel_right (List.append_cancel_right h)
  exact ⟨String.toList_inj.mp hfile, countText_injective hcount⟩

/-- **The line of a label determines the line number and the `source` behind the label.** The width
of the label follows from the digits of the number. -/
theorem label_injective {n n' : UInt64} {source source' : List Char}
    (h : labelText n ++ source = labelText n' ++ source') : n = n' ∧ source = source' := by
  have hcolon : Char.isDigit ':' = false := rfl
  have hnumber : n = n' := by
    simp only [labelText_eq, List.append_assoc, List.cons_append] at h
    have hdigits := congrArg (List.takeWhile Char.isDigit) (List.append_cancel_left h)
    rw [(span_append_cons (isNumber_lineDigits n).2 hcolon _).1,
      (span_append_cons (isNumber_lineDigits n').2 hcolon _).1] at hdigits
    exact lineDigits_injective hdigits
  subst hnumber
  exact ⟨rfl, List.append_cancel_left h⟩

/-! ### Kinds of lines -/

/-- The line begins like a further line of a source, with as many spaces as a label is wide. -/
def Indented (line : List Char) : Prop :=
  List.replicate labelWidth ' ' <+: line

/-- A further line of a source is indented. -/
theorem indented_further (source : List Char) : Indented (ResultLine.further source).text :=
  List.prefix_append _ _

/-- The line of a label is not indented, since it has a digit behind four spaces. -/
theorem not_indented_label (line : UInt64) (source : List Char) :
    ¬Indented (ResultLine.label line source).text := by
  obtain ⟨hne, hdigits⟩ := isNumber_lineDigits line
  obtain ⟨d, ds, hcons⟩ := List.exists_cons_of_ne_nil hne
  have hd : d.isDigit = true := hdigits d (hcons ▸ List.mem_cons_self)
  rintro ⟨rest, hrest⟩
  simp only [ResultLine.text, labelText_eq, hcons, labelWidth, List.replicate, List.cons_append,
    List.nil_append, List.cons.injEq] at hrest
  obtain ⟨-, -, -, -, hspace, -⟩ := hrest
  exact absurd (hspace ▸ hd) (by decide)

/-- The line of a label is not blank, even if its `source` is. -/
theorem label_ne_nil (line : UInt64) (source : List Char) :
    (ResultLine.label line source).text ≠ [] := by
  simp [ResultLine.text, labelText_eq]

/-- An empty line is not indented. -/
theorem not_indented_nil : ¬Indented [] := by
  simp [Indented, labelWidth]

/-! ### Matches -/

/-- The lines of a match are a label with the `first` line of its source, and the `rest` of the
source indented. -/
theorem exists_detailLines (d : MatchDetail) :
    ∃ first rest, lines d.html = first :: rest ∧
      detailLines d = .label d.line first :: rest.map .further := by
  obtain ⟨first, rest, hlines⟩ := List.exists_cons_of_ne_nil (split_ne_nil '\n' d.html.toList)
  exact ⟨first, rest, hlines, by rw [detailLines, lines, hlines]⟩

/-- The lines of a text determine the text. -/
theorem lines_injective {s s' : String} (h : lines s = lines s') : s = s' := by
  have hjoin := congrArg (Text.join '\n') h
  rw [lines, lines, join_split, join_split] at hjoin
  exact String.toList_inj.mp hjoin

/-- Further lines end where a line is not indented, so that they and what comes `after` them are
determined. -/
theorem further_injective {rest rest' after after' : List (List Char)}
    (hafter : ∀ l, after.head? = some l → ¬Indented l)
    (hafter' : ∀ l, after'.head? = some l → ¬Indented l)
    (h : (rest.map ResultLine.further).map ResultLine.text ++ after =
      (rest'.map ResultLine.further).map ResultLine.text ++ after') :
    rest = rest' ∧ after = after' := by
  induction rest generalizing rest' with
  | nil =>
      cases rest' with
      | nil => exact ⟨rfl, h⟩
      | cons source more =>
          have hhead := congrArg List.head? h
          exact absurd (indented_further source) (hafter _ hhead)
  | cons source more ih =>
      cases rest' with
      | nil =>
          have hhead := congrArg List.head? h
          exact absurd (indented_further source) (hafter' _ hhead.symm)
      | cons source' more' =>
          obtain ⟨hline, hmore⟩ := List.cons.inj h
          obtain ⟨rfl, hrest⟩ := ih hmore
          exact ⟨congrArg (· :: more) (List.append_cancel_left hline), hrest⟩

/-- Neither a match nor the end of a block begins with an indented line. -/
theorem not_indented_head {details : List MatchDetail} {after : List (List Char)} {l : List Char}
    (h : ((details.flatMap detailLines).map ResultLine.text ++ [] :: after).head? = some l) :
    ¬Indented l := by
  cases details with
  | nil =>
      obtain rfl := Option.some.inj h
      exact not_indented_nil
  | cons d more =>
      obtain ⟨first, rest, -, hd⟩ := exists_detailLines d
      rw [List.flatMap_cons, hd] at h
      obtain rfl := Option.some.inj h
      exact not_indented_label _ _

/-- **The lines of some matches up to the end of their block determine the matches and what comes
`after` the block.** -/
theorem detailLines_injective {details details' : List MatchDetail}
    {after after' : List (List Char)}
    (h : (details.flatMap detailLines).map ResultLine.text ++ [] :: after =
      (details'.flatMap detailLines).map ResultLine.text ++ [] :: after') :
    details = details' ∧ after = after' := by
  induction details generalizing details' with
  | nil =>
      cases details' with
      | nil => exact ⟨rfl, (List.cons.inj h).2⟩
      | cons d' more' =>
          obtain ⟨first', rest', -, hd'⟩ := exists_detailLines d'
          rw [List.flatMap_cons, hd'] at h
          exact absurd (List.cons.inj h).1.symm (label_ne_nil _ _)
  | cons d more ih =>
      obtain ⟨first, rest, hlines, hd⟩ := exists_detailLines d
      cases details' with
      | nil =>
          rw [List.flatMap_cons, hd] at h
          exact absurd (List.cons.inj h).1 (label_ne_nil _ _)
      | cons d' more' =>
          obtain ⟨first', rest', hlines', hd'⟩ := exists_detailLines d'
          simp only [List.flatMap_cons, hd, hd', List.cons_append, List.map_cons, List.map_append,
            List.append_assoc] at h
          obtain ⟨hlabel, hfurther⟩ := List.cons.inj h
          obtain ⟨hline, rfl⟩ := label_injective hlabel
          obtain ⟨rfl, hmore⟩ := further_injective (fun _ => not_indented_head)
            (fun _ => not_indented_head) hfurther
          obtain ⟨rfl, hafter⟩ := ih hmore
          have hhtml : d.html = d'.html := lines_injective (hlines.trans hlines'.symm)
          have hdetail : d = d' := by
            cases d
            cases d'
            exact congr (congrArg MatchDetail.mk hline) hhtml
          exact ⟨congrArg (· :: more) hdetail, hafter⟩

/-! ### Files -/

/-- A consistent file has at least one match in its `details`. -/
theorem details_ne_nil {m : FoundMatch} (h : (Message.foundMatch m).Consistent) :
    m.details ≠ [] := by
  obtain ⟨hcount, hlength, -⟩ := h
  rintro hnil
  rw [hnil] at hlength
  exact hcount (UInt64.toNat_inj.mp hlength.symm)

/-- The lines of the block of a file that end with a line feed, which is all but the last one. -/
def blockLines (m : FoundMatch) : List ResultLine :=
  [.header m, .blank] ++ m.details.flatMap detailLines ++
    (if m.details.isEmpty then [] else [.blank])

/-- Behind the last line that ends there is an empty one, which the next block goes on with. -/
theorem resultLines_eq (m : FoundMatch) : resultLines m = blockLines m ++ [.blank] := by
  cases hd : m.details.isEmpty <;> simp [resultLines, blockLines, hd]

/-- The block of a file in front of other text is split into its own lines and those of the text
`after` it. -/
theorem split_matchBlock {m : FoundMatch} (hfile : '\n' ∉ m.file.toList) (after : List Char) :
    split '\n' ((matchBlock m).toList ++ after) =
      (blockLines m).map ResultLine.text ++ split '\n' after := by
  have hblock : split '\n' (matchBlock m).toList = (blockLines m).map ResultLine.text ++ [[]] := by
    have hlines := lines_matchBlock hfile
    rw [lines, resultLines_eq, List.map_append] at hlines
    exact hlines
  have hlast : lastPiece '\n' (matchBlock m).toList = [] := by
    simp only [lastPiece, hblock, List.getLast_concat]
  rw [split_append, hblock, List.dropLast_concat, hlast, List.nil_append]

/-- The results of some files are the blocks of the files, one after another. -/
def resultsText (found : List FoundMatch) : String :=
  String.join (found.map matchBlock)

/-- The lines of the results begin with those of the first file, up to the blank line that ends its
matches. -/
theorem lines_resultsText_cons {m : FoundMatch} (h : (Message.foundMatch m).Consistent)
    (hfile : '\n' ∉ m.file.toList) (more : List FoundMatch) :
    lines (resultsText (m :: more)) = (fileHeader m).toList :: [] ::
      ((m.details.flatMap detailLines).map ResultLine.text ++ [] :: lines (resultsText more)) := by
  have hempty : m.details.isEmpty = false := by simpa using details_ne_nil h
  rw [lines, resultsText, List.map_cons, String.join_cons, String.toList_append,
    split_matchBlock hfile, blockLines, hempty]
  simp [ResultLine.text, lines, resultsText]

/-- The lines of the results determine the files, if these are consistent and their paths have no
line feed. -/
theorem lines_resultsText_injective {found found' : List FoundMatch}
    (h : ∀ m ∈ found, (Message.foundMatch m).Consistent ∧ '\n' ∉ m.file.toList)
    (h' : ∀ m ∈ found', (Message.foundMatch m).Consistent ∧ '\n' ∉ m.file.toList)
    (heq : lines (resultsText found) = lines (resultsText found')) : found = found' := by
  induction found generalizing found' with
  | nil =>
      cases found' with
      | nil => rfl
      | cons m' more' =>
          obtain ⟨hconsistent', hfile'⟩ := h' m' List.mem_cons_self
          rw [lines_resultsText_cons hconsistent' hfile'] at heq
          exact absurd (congrArg List.length heq) (by simp [lines, resultsText])
  | cons m more ih =>
      obtain ⟨⟨hconsistent, hfile⟩, hmore⟩ := List.forall_mem_cons.mp h
      rw [lines_resultsText_cons hconsistent hfile] at heq
      cases found' with
      | nil => exact absurd (congrArg List.length heq) (by simp [lines, resultsText])
      | cons m' more' =>
          obtain ⟨⟨hconsistent', hfile'⟩, hmore'⟩ := List.forall_mem_cons.mp h'
          rw [lines_resultsText_cons hconsistent' hfile'] at heq
          obtain ⟨hheader, heq⟩ := List.cons.inj heq
          obtain ⟨-, heq⟩ := List.cons.inj heq
          obtain ⟨hpath, hcount⟩ := header_injective hheader
          obtain ⟨hdetails, hrest⟩ := detailLines_injective heq
          obtain rfl := ih hmore hmore' hrest
          have hm : m = m' := by
            cases m
            cases m'
            exact congr (congr (congrArg FoundMatch.mk hpath) hcount) hdetails
          exact congrArg (· :: more) hm

/-- **Nothing is lost in the results.** Consistent files whose paths have no line feed are
determined by the text of their results, in their order and with every path, count, line number and
source. -/
theorem results_eq_iff {found found' : List FoundMatch}
    (h : ∀ m ∈ found, (Message.foundMatch m).Consistent ∧ '\n' ∉ m.file.toList)
    (h' : ∀ m ∈ found', (Message.foundMatch m).Consistent ∧ '\n' ∉ m.file.toList) :
    resultsText found = resultsText found' ↔ found = found' := by
  constructor
  · intro heq
    exact lines_resultsText_injective h h' (congrArg lines heq)
  · rintro rfl
    rfl

/-- A source that contains a whole block, behind a path that reads like a label and a number that
leaves no space, is told apart from two files. -/
theorem results_ne_of_lookalike :
    let nested : FoundMatch :=
      ⟨"    12: x", 1, [⟨18446744073709551615, "\n <p>\n\nb (1 match)\n\n    2:      <q>\n"⟩]⟩
    let first : FoundMatch := ⟨"    12: x", 1, [⟨18446744073709551615, "\n <p>"⟩]⟩
    let second : FoundMatch := ⟨"b", 1, [⟨2, "<q>"⟩]⟩
    resultsText [nested] ≠ resultsText [first, second] := by
  intro nested first second
  rw [Ne, @results_eq_iff [nested] [first, second] (by decide) (by decide)]
  decide

end ResultText

end SelectorSearch
