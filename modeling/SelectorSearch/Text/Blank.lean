/-!
# Blank Text

The characters that count as blank, and the trimming the search does with them. A character is
blank when it has the Unicode property White_Space; a text is blank when all its characters are.

Lines reach this library without their line feed but possibly with carriage returns before it,
so `dropLineEnd` removes any run of carriage returns and line feeds from the end of a text and
nothing else.

## Main results

* `isBlank_of_isWhitespace`: every character that Lean calls whitespace is blank.
* `dropEndWhile_append_of_all`: what `dropEndWhile` removes may be added back without effect.
* `allBlank_dropLineEnd`: line ends do not matter for whether a text is blank.
-/

namespace SelectorSearch.Text

/-! ### Sets of code points -/

/-- A set of code points, as closed ranges in increasing order. -/
abbrev CodePoints := List (Nat × Nat)

/-- Whether a character lies in one of the ranges. -/
def CodePoints.holds (ranges : CodePoints) (c : Char) : Bool :=
  ranges.any fun (low, high) => low ≤ c.toNat && c.toNat ≤ high

/-- The code points with the property White_Space. -/
def whiteSpace : CodePoints :=
  [(0x9, 0xD), (0x20, 0x20), (0x85, 0x85), (0xA0, 0xA0), (0x1680, 0x1680), (0x2000, 0x200A),
    (0x2028, 0x2029), (0x202F, 0x202F), (0x205F, 0x205F), (0x3000, 0x3000)]

/-- Blank characters are those with the property White_Space. -/
def isBlank (c : Char) : Bool :=
  whiteSpace.holds c

/-- The four blanks of core are blank here too; the property names many more. -/
theorem isBlank_of_isWhitespace {c : Char} (h : c.isWhitespace = true) : isBlank c = true := by
  simp only [Char.isWhitespace, Bool.or_eq_true, decide_eq_true_eq] at h
  rcases h with ((rfl | rfl) | rfl) | rfl <;> decide

/-- A text of blanks only; the empty text is one. -/
def allBlank (s : String) : Bool :=
  s.toList.all isBlank

theorem allBlank_append (a b : String) : allBlank (a ++ b) = (allBlank a && allBlank b) := by
  simp [allBlank]

/-- Texts joined with a blank separator `sep` are blank together exactly when each of them is. -/
theorem allBlank_intercalate {sep : String} (h : allBlank sep = true) (texts : List String) :
    allBlank (String.intercalate sep texts) = texts.all allBlank := by
  induction texts with
  | nil => rfl
  | cons t rest ih =>
      cases rest with
      | nil => simp
      | cons u more =>
          rw [String.intercalate_cons_cons, allBlank_append, allBlank_append, h, ih]
          simp

/-! ### Trimming the end -/

/-- The list without the longest run at its end that satisfies `p`. -/
def dropEndWhile {α : Type} (p : α → Bool) (l : List α) : List α :=
  (l.reverse.dropWhile p).reverse

@[simp] theorem dropEndWhile_nil {α : Type} (p : α → Bool) : dropEndWhile p [] = [] := rfl

/-- A last element `a` that satisfies the predicate goes. -/
theorem dropEndWhile_concat_of_pos {α : Type} {p : α → Bool} {a : α} (l : List α)
    (h : p a = true) : dropEndWhile p (l ++ [a]) = dropEndWhile p l := by
  simp [dropEndWhile, h]

/-- A last element `a` that does not satisfy the predicate keeps the whole list. -/
theorem dropEndWhile_concat_of_neg {α : Type} {p : α → Bool} {a : α} (l : List α)
    (h : p a = false) : dropEndWhile p (l ++ [a]) = l ++ [a] := by
  simp [dropEndWhile, h]

/-- A `run` that satisfies the predicate can be added at the end without effect. -/
theorem dropEndWhile_append_of_all {α : Type} {p : α → Bool} (l : List α) {run : List α}
    (h : ∀ a ∈ run, p a = true) : dropEndWhile p (l ++ run) = dropEndWhile p l := by
  rw [dropEndWhile, List.reverse_append, List.dropWhile_append_of_pos (by simpa using h)]
  rfl

/-- What `dropEndWhile` removes is a `run` that satisfies the predicate. -/
theorem exists_dropEndWhile_append {α : Type} (p : α → Bool) (l : List α) :
    ∃ run, dropEndWhile p l ++ run = l ∧ ∀ a ∈ run, p a = true := by
  refine ⟨(l.reverse.takeWhile p).reverse, ?_, fun a ha => ?_⟩
  · rw [dropEndWhile, ← List.reverse_append, List.takeWhile_append_dropWhile, List.reverse_reverse]
  · exact List.all_eq_true.mp List.all_takeWhile a (List.mem_reverse.mp ha)

/-- An element `a` in front is dropped only with everything after it. -/
theorem dropEndWhile_cons {α : Type} (p : α → Bool) (a : α) (l : List α) :
    dropEndWhile p (a :: l) =
      if dropEndWhile p l = [] then (if p a then [] else [a]) else a :: dropEndWhile p l := by
  simp only [dropEndWhile, List.reverse_cons, List.dropWhile_append, List.reverse_eq_nil_iff,
    List.isEmpty_iff]
  split
  · cases h : p a <;> simp [h]
  · simp

/-- Dropping the end twice drops nothing more than dropping it once. -/
theorem dropEndWhile_idem {α : Type} (p : α → Bool) (l : List α) :
    dropEndWhile p (dropEndWhile p l) = dropEndWhile p l := by
  induction l with
  | nil => rfl
  | cons a l ih =>
    rw [dropEndWhile_cons]
    split
    · cases h : p a <;> simp [dropEndWhile_cons, h]
    · next hne => rw [dropEndWhile_cons, ih, if_neg hne]

/-- An end that is dropped already does not matter behind an element `a`. -/
theorem dropEndWhile_cons_dropEndWhile {α : Type} (p : α → Bool) (a : α) (l : List α) :
    dropEndWhile p (a :: dropEndWhile p l) = dropEndWhile p (a :: l) := by
  rw [dropEndWhile_cons, dropEndWhile_cons, dropEndWhile_idem]

/-- What `dropEndWhile` keeps is the beginning of the list. -/
theorem dropEndWhile_isPrefix {α : Type} (p : α → Bool) (l : List α) : dropEndWhile p l <+: l := by
  obtain ⟨run, h, -⟩ := exists_dropEndWhile_append p l
  exact ⟨run, h⟩

/-- Carriage return and line feed end lines. -/
def isLineEnd (c : Char) : Bool :=
  c = '\r' || c = '\n'

/-- The text without the carriage returns and line feeds at its end. -/
def dropLineEnd (s : String) : String :=
  String.ofList (dropEndWhile isLineEnd s.toList)

/-- Line ends are blank, so that they can be dropped from a blank text. -/
theorem isBlank_of_isLineEnd {c : Char} (h : isLineEnd c = true) : isBlank c = true := by
  simp only [isLineEnd, Bool.or_eq_true, decide_eq_true_eq] at h
  rcases h with rfl | rfl <;> decide

/-- A text is as blank with its line ends as without. -/
theorem allBlank_dropLineEnd (s : String) : allBlank (dropLineEnd s) = allBlank s := by
  obtain ⟨run, hrun, hends⟩ := exists_dropEndWhile_append isLineEnd s.toList
  have hblank : run.all isBlank = true :=
    List.all_eq_true.mpr fun c hc => isBlank_of_isLineEnd (hends c hc)
  rw [allBlank, allBlank, ← hrun, List.all_append, hblank, Bool.and_true, dropLineEnd,
    String.toList_ofList]

end SelectorSearch.Text
