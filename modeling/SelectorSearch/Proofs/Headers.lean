import SelectorSearch.Proofs.Recovery

/-!
# The Headers of Results

An editor reads the paths of the files off the results with a pattern that asks for a beginning
other than a space and for a count of matches in parentheses at the end. A path may itself end in
such a count, or in several, but only the last one of a line is followed by the end of the line, so
the path of a header is everything before it (`HeaderOf.unique`). How greedy the pattern is does
not matter.

What is no header is not mistaken for one, whatever the sources look like: a source stands behind a
label or an indentation, and both begin with a space.

## Main results

* `headerPath?_eq_some_iff`: a path is found exactly in headers.
* `lines_resultsText`: the lines of the results of some files, by what they are there for.
* `headerOf_text_iff`: which lines are headers, and of which path.
* `paths_of_results`: the paths that are read off the results.
-/

namespace SelectorSearch

namespace ResultText

open Text

/-! ### Reading a header -/

/-- What `after?` finds behind a text is what stands behind it, if the text stands in front. -/
theorem after?_eq_some_iff {front s rest : List Char} :
    after? front s = some rest ↔ s = front ++ rest := by
  rw [after?]
  constructor
  · intro h
    split at h
    · next hfront =>
        obtain ⟨tail, rfl⟩ := List.isPrefixOf_iff_prefix.mp hfront
        obtain rfl := Option.some.inj h
        rw [List.drop_left]
    · cases h
  · rintro rfl
    simp

/-- The end of a header with one of the two nouns, read backwards, is found exactly if one of them
stands there. -/
theorem noun_eq_some_iff {s rest : List Char} :
    (after? ")sehctam ".toList s <|> after? ")hctam ".toList s) = some rest ↔
      ∃ noun, (noun = "match".toList ∨ noun = "matches".toList) ∧
        s = (' ' :: noun ++ [')']).reverse ++ rest := by
  rw [Option.orElse_eq_orElse, Option.orElse_eq_or]
  constructor
  · intro h
    obtain hmany | ⟨-, hone⟩ := Option.or_eq_some_iff.mp h
    · exact ⟨_, .inr rfl, after?_eq_some_iff.mp hmany⟩
    · exact ⟨_, .inl rfl, after?_eq_some_iff.mp hone⟩
  · rintro ⟨noun, rfl | rfl, rfl⟩
    · -- the letter before the parenthesis tells the nouns apart
      exact Option.or_eq_some_iff.mpr (.inr ⟨rfl, after?_eq_some_iff.mpr rfl⟩)
    · exact Option.or_eq_some_iff.mpr (.inl (after?_eq_some_iff.mpr rfl))

/-- **The path that is found is the one in the header**: `headerPath?` finds it in exactly the lines
that are headers of it. -/
theorem headerPath?_eq_some_iff {line path : List Char} :
    headerPath? line = some path ↔ HeaderOf path line := by
  constructor
  · intro h
    simp only [headerPath?, Option.bind_eq_bind, Option.bind_eq_some_iff] at h
    obtain ⟨s, hs, h⟩ := h
    obtain ⟨noun, hnoun, hline⟩ := noun_eq_some_iff.mp hs
    split at h
    · cases h
    next hdigits =>
    obtain ⟨front, hfront, h⟩ := Option.bind_eq_some_iff.mp h
    have hopen := after?_eq_some_iff.mp hfront
    split at h
    · cases h
    next hpath =>
    obtain rfl := Option.some.inj h
    simp only [Bool.or_eq_true, List.isEmpty_iff, decide_eq_true_eq, not_or] at hpath hdigits
    have hnumber : IsNumber (s.takeWhile Char.isDigit).reverse :=
      ⟨by simpa using hdigits, fun c hc => of_mem_takeWhile (List.mem_reverse.mp hc)⟩
    have hcut : s = s.takeWhile Char.isDigit ++ ("( ".toList ++ front) := by
      rw [← hopen, List.takeWhile_append_dropWhile]
    refine ⟨_, noun, hpath.1, hpath.2, hnumber, hnoun, ?_⟩
    calc line = s.reverse ++ (' ' :: noun ++ [')']) := by
          rw [← line.reverse_reverse, hline, List.reverse_append, List.reverse_reverse]
      _ = (s.takeWhile Char.isDigit ++ ("( ".toList ++ front)).reverse ++
            (' ' :: noun ++ [')']) := by
          rw [← hcut]
      _ = _ := by simp
  · rintro ⟨digits, noun, hne, hhead, hnumber, hnoun, rfl⟩
    have hline : (path ++ ' ' :: '(' :: digits ++ ' ' :: noun ++ [')']).reverse =
        (' ' :: noun ++ [')']).reverse ++ (digits.reverse ++ '(' :: ' ' :: path.reverse) := by
      simp
    have hs := noun_eq_some_iff.mpr ⟨noun, hnoun, hline⟩
    have hrun : ∀ c ∈ digits.reverse, Char.isDigit c = true := fun c hc =>
      hnumber.2 c (List.mem_reverse.mp hc)
    have hdigits : digits.reverse.isEmpty = false := by simpa using hnumber.1
    obtain ⟨htake, hdrop⟩ := span_append_cons hrun (show Char.isDigit '(' = false from rfl)
      (' ' :: path.reverse)
    have hopen : after? "( ".toList ('(' :: ' ' :: path.reverse) = some path.reverse :=
      after?_eq_some_iff.mpr rfl
    simp only [headerPath?, hs, Option.bind_eq_bind, Option.bind_some, htake, hdrop, hopen, hdigits]
    simp [hne, hhead]

/-- A line is the header of at most one path, since the last parenthesis decides where the path
ends. -/
theorem HeaderOf.unique {path path' line : List Char} (h : HeaderOf path line)
    (h' : HeaderOf path' line) : path = path' := by
  rw [← headerPath?_eq_some_iff] at h h'
  exact Option.some.inj (h.symm.trans h')

/-- A header is not empty and does not begin with a space. -/
theorem HeaderOf.exists_cons {path line : List Char} (h : HeaderOf path line) :
    ∃ c rest, c ≠ ' ' ∧ line = c :: rest := by
  obtain ⟨digits, noun, hne, hhead, -, -, rfl⟩ := h
  obtain ⟨c, rest, rfl⟩ := List.exists_cons_of_ne_nil hne
  exact ⟨c, _, fun hc => hhead (congrArg some hc), rfl⟩

/-! ### The lines of results -/

/-- The path that an editor should read off a line, which is that of a `header`. -/
def ResultLine.path? : ResultLine → Option (List Char)
  | .header m => some m.file.toList
  | _ => none

/-- The lines of the results of some files, by what they are there for: those of their blocks, and
an empty one at the end. -/
def resultsLines (found : List FoundMatch) : List ResultLine :=
  found.flatMap blockLines ++ [ResultLine.blank]

/-- The lines of the results of some files are the texts of the `resultsLines`, if no path has a
line feed. -/
theorem lines_resultsText {found : List FoundMatch} (h : ∀ m ∈ found, '\n' ∉ m.file.toList) :
    lines (resultsText found) = (resultsLines found).map ResultLine.text := by
  induction found with
  | nil => rfl
  | cons m more ih =>
      obtain ⟨hfile, hmore⟩ := List.forall_mem_cons.mp h
      have hrest : split '\n' (String.join (more.map matchBlock)).toList =
          (resultsLines more).map ResultLine.text := ih hmore
      rw [lines, resultsText, List.map_cons, String.join_cons, String.toList_append,
        split_matchBlock hfile, hrest, resultsLines, resultsLines, List.flatMap_cons,
        List.append_assoc, ← List.map_append]

/-- The lines of a match have no header among them. -/
theorem filterMap_path?_detailLines (d : MatchDetail) :
    (detailLines d).filterMap ResultLine.path? = [] := by
  obtain ⟨first, rest, -, hd⟩ := exists_detailLines d
  rw [hd, List.filterMap_cons_none rfl, List.filterMap_map, List.filterMap_eq_nil_iff]
  exact fun _ _ => rfl

/-- The paths in the results of some files are those of the files, each once and in their order. -/
theorem filterMap_path?_resultsLines (found : List FoundMatch) :
    (resultsLines found).filterMap ResultLine.path? = found.map (·.file.toList) := by
  have hsources (details : List MatchDetail) :
      (details.flatMap detailLines).filterMap ResultLine.path? = [] := by
    simp [List.filterMap_flatMap, filterMap_path?_detailLines]
  have hend (b : Bool) :
      (if b then [] else [ResultLine.blank]).filterMap ResultLine.path? = [] := by
    cases b <;> rfl
  have hblock (m : FoundMatch) : (blockLines m).filterMap ResultLine.path? = [m.file.toList] := by
    rw [blockLines, List.filterMap_append, List.filterMap_append, hsources, hend]
    rfl
  have hblank : [ResultLine.blank].filterMap ResultLine.path? = [] := rfl
  rw [resultsLines, List.filterMap_append, List.filterMap_flatMap, hblank, List.append_nil,
    List.map_eq_flatMap]
  simp only [hblock]

/-! ### What the lines are taken for -/

/-- A path that can be read off a header: not empty, and not beginning with a space. -/
def IsHeaderPath (path : List Char) : Prop :=
  path ≠ [] ∧ path.head? ≠ some ' '

instance (path : List Char) : Decidable (IsHeaderPath path) :=
  inferInstanceAs (Decidable (_ ∧ _))

/-- The header of a file is a header of its path, if that can be read off one. -/
theorem headerOf_header {m : FoundMatch} (h : IsHeaderPath m.file.toList) :
    HeaderOf m.file.toList (ResultLine.header m).text := by
  have hnoun : (if m.matchCount = 1 then "match" else "matches").toList = "match".toList ∨
      (if m.matchCount = 1 then "match" else "matches").toList = "matches".toList := by
    split
    · exact .inl rfl
    · exact .inr rfl
  refine ⟨lineDigits m.matchCount, _, h.1, h.2, isNumber_lineDigits _, hnoun, ?_⟩
  rw [ResultLine.text, toList_fileHeader, countText]
  simp

/-- A line that begins with a space, or is empty, is the header of no `path`. -/
theorem not_headerOf {path line : List Char} (h : ∀ c rest, line = c :: rest → c = ' ') :
    ¬HeaderOf path line := by
  intro hheader
  obtain ⟨c, rest, hc, hline⟩ := hheader.exists_cons
  exact hc (h c rest hline)

/-- **A line is the header of the path that it should be read as**, and of no other. -/
theorem headerOf_text_iff {l : ResultLine} (h : ∀ path, l.path? = some path → IsHeaderPath path)
    (path : List Char) : HeaderOf path l.text ↔ l.path? = some path := by
  cases l with
  | header m =>
      have hown := headerOf_header (h _ rfl)
      constructor
      · intro hpath
        exact congrArg some (hown.unique hpath)
      · intro hpath
        exact Option.some.inj hpath ▸ hown
  | blank =>
      refine iff_of_false (not_headerOf fun c rest hline => ?_) (Option.some_ne_none path).symm
      cases hline
  | label line source =>
      refine iff_of_false (not_headerOf fun c rest hline => ?_) (Option.some_ne_none path).symm
      rw [ResultLine.text, labelText_eq] at hline
      exact (List.cons.inj hline).1.symm
  | further source =>
      refine iff_of_false (not_headerOf fun c rest hline => ?_) (Option.some_ne_none path).symm
      exact (List.cons.inj hline).1.symm

/-- **The headers of results.** The results of files whose paths are one line, not empty and not
beginning with a space, have the lines of their blocks, whatever the counts, the paths and the
sources are. Of these lines exactly the headers are matched, each of them with the path of its file
and no other: no label, no further line of a source and no blank line is. So the paths that are
read off the results are those of the files, in their order. -/
theorem paths_of_results {found : List FoundMatch}
    (h : ∀ m ∈ found, IsHeaderPath m.file.toList ∧ '\n' ∉ m.file.toList) :
    lines (resultsText found) = (resultsLines found).map ResultLine.text ∧
      (∀ l ∈ resultsLines found, ∀ path, HeaderOf path l.text ↔ l.path? = some path) ∧
      (resultsLines found).filterMap ResultLine.path? = found.map (·.file.toList) ∧
      (lines (resultsText found)).filterMap headerPath? = found.map (·.file.toList) := by
  have hlines := lines_resultsText fun m hm => (h m hm).2
  have hpaths := filterMap_path?_resultsLines found
  have hheaders : ∀ l ∈ resultsLines found, ∀ path, HeaderOf path l.text ↔ l.path? = some path := by
    refine fun l hl => headerOf_text_iff fun path hpath => ?_
    have hmem : path ∈ found.map (·.file.toList) :=
      hpaths ▸ List.mem_filterMap.mpr ⟨l, hl, hpath⟩
    obtain ⟨m, hm, rfl⟩ := List.mem_map.mp hmem
    exact (h m hm).1
  refine ⟨hlines, hheaders, hpaths, ?_⟩
  have hfound : ∀ l ∈ resultsLines found, headerPath? l.text = l.path? := fun l hl =>
    Option.ext fun path => headerPath?_eq_some_iff.trans (hheaders l hl path)
  rw [hlines, List.filterMap_map, ← hpaths]
  exact List.filterMap_congr hfound

/-- A path that ends in counts of its own, a file without matches, and a source whose lines are the
headers of other files. -/
theorem paths_of_lookalikes :
    let counted : FoundMatch := ⟨"a (1 match) (12 matches)", 1, [⟨12345678, "b (2 matches)"⟩]⟩
    let empty : FoundMatch := ⟨"(3 matches)", 0, []⟩
    let quoting : FoundMatch := ⟨"c", 1, [⟨7, "\nc (1 match)\n\nd (1 match)"⟩]⟩
    (lines (resultsText [counted, empty, quoting])).filterMap headerPath? =
      ["a (1 match) (12 matches)".toList, "(3 matches)".toList, "c".toList] := by
  intro counted empty quoting
  obtain ⟨-, -, -, hfound⟩ := @paths_of_results [counted, empty, quoting] (by decide)
  exact hfound

end ResultText

end SelectorSearch
