/-!
# Splitting at a Separator

A text is cut at every occurrence of a separator, so it has one piece more than it has separators,
and pieces may be empty. Joining the pieces with the separator gives the text back.

## Main results

* `join_split`: joining undoes splitting.
* `split_join`: splitting undoes joining, as long as no piece contains the separator.
* `split_of_not_mem`: a text without the separator is its only piece.
* `split_append_sep`: splitting starts afresh after a separator.
* `split_append`: more text only changes the last piece, and adds pieces after it.
-/

namespace SelectorSearch.Text

variable {α : Type} [DecidableEq α]

/-- The pieces between the separators, of which there is always one. -/
def split (sep : α) : List α → List (List α)
  | [] => [[]]
  | a :: rest =>
    if a = sep then [] :: split sep rest
    else match split sep rest with
      | [] => [[a]]
      | piece :: pieces => (a :: piece) :: pieces

/-- The pieces with the separator between them. -/
def join (sep : α) : List (List α) → List α
  | [] => []
  | [piece] => piece
  | piece :: next :: rest => piece ++ sep :: join sep (next :: rest)

omit [DecidableEq α] in
/-- The separator stands behind every `piece` but the last one. -/
theorem join_cons (sep : α) (piece : List α) {pieces : List (List α)} (h : pieces ≠ []) :
    join sep (piece :: pieces) = piece ++ sep :: join sep pieces := by
  cases pieces with
  | nil => exact absurd rfl h
  | cons next rest => rfl

@[simp] theorem split_nil (sep : α) : split sep [] = [[]] := rfl

/-- There is always a first piece, even of an empty text. -/
theorem split_ne_nil (sep : α) (s : List α) : split sep s ≠ [] := by
  cases s with
  | nil => simp
  | cons a rest =>
    simp only [split]
    split
    · simp
    · split <;> simp

/-- A text has one piece more than it has separators. -/
theorem length_split (sep : α) (s : List α) : (split sep s).length = s.count sep + 1 := by
  induction s with
  | nil => rfl
  | cons a rest ih =>
      rw [split]
      split
      case isTrue h =>
          rw [List.length_cons, ih, h, List.count_cons_self]
      case isFalse h =>
          rw [List.count_cons_of_ne h, ← ih]
          cases hs : split sep rest with
          | nil => exact absurd hs (split_ne_nil sep rest)
          | cons p ps => rfl

/-- The first piece is what comes before the first separator. -/
theorem head?_split (sep : α) (s : List α) :
    (split sep s).head? = some (s.takeWhile (· ≠ sep)) := by
  induction s with
  | nil => rfl
  | cons a rest ih =>
      rw [split, List.takeWhile_cons]
      split
      case isTrue h => simp [h]
      case isFalse h =>
          cases hs : split sep rest with
          | nil => exact absurd hs (split_ne_nil sep rest)
          | cons p ps =>
              rw [hs] at ih
              simpa [h] using ih

/-- **Joining undoes splitting**, with the same separator `sep`. -/
theorem join_split (sep : α) (s : List α) : join sep (split sep s) = s := by
  induction s with
  | nil => rfl
  | cons a rest ih =>
    simp only [split]
    split
    next h =>
      cases hs : split sep rest with
      | nil => exact absurd hs (split_ne_nil sep rest)
      | cons p ps => rw [hs] at ih; simp [join, ih, h]
    next h =>
      cases hs : split sep rest with
      | nil => exact absurd hs (split_ne_nil sep rest)
      | cons p ps =>
        rw [hs] at ih
        cases ps with
        | nil => simpa [join] using ih
        | cons q qs => simpa [join] using ih

/-- A text `s` without the separator is its only piece. -/
theorem split_of_not_mem {sep : α} {s : List α} (h : sep ∉ s) : split sep s = [s] := by
  induction s with
  | nil => rfl
  | cons a rest ih =>
    rw [List.mem_cons, not_or] at h
    simp [split, Ne.symm h.1, ih h.2]

/-- Splitting starts afresh after a separator, with the `rest` of the text. -/
theorem split_append_sep {sep : α} {s : List α} (h : sep ∉ s) (rest : List α) :
    split sep (s ++ sep :: rest) = s :: split sep rest := by
  induction s with
  | nil => simp [split]
  | cons a s ih =>
    rw [List.mem_cons, not_or] at h
    simp [split, Ne.symm h.1, ih h.2]

/-- A separator at the front ends an empty piece. -/
theorem split_cons_sep (sep : α) (s : List α) : split sep (sep :: s) = [] :: split sep s := by
  simp [split]

/-- **Splitting undoes joining**, as long as no piece contains the separator. -/
theorem split_join {sep : α} {pieces : List (List α)} (hne : pieces ≠ [])
    (h : ∀ piece ∈ pieces, sep ∉ piece) : split sep (join sep pieces) = pieces := by
  induction pieces with
  | nil => exact absurd rfl hne
  | cons p rest ih =>
    obtain ⟨hp, hrest⟩ := List.forall_mem_cons.mp h
    cases rest with
    | nil => exact split_of_not_mem hp
    | cons q more => rw [join, split_append_sep hp, ih (by simp) hrest]

/-- The first pieces `a` joined are the beginning of all pieces `b` joined. -/
theorem join_prefix {β : Type} (sep : β) {a b : List (List β)} (h : a <+: b) :
    join sep a <+: join sep b := by
  obtain ⟨more, rfl⟩ := h
  induction a with
  | nil => exact List.nil_prefix
  | cons p rest ih =>
    cases rest with
    | nil =>
      cases more with
      | nil => exact List.prefix_refl _
      | cons q more => exact List.prefix_append p _
    | cons q rest =>
      simp only [List.cons_append, join, List.prefix_append_right_inj, List.cons_prefix_cons,
        true_and]
      exact ih

/-- No `piece` that a text is split into contains the separator. -/
theorem sep_not_mem_of_mem_split {sep : α} {s piece : List α} (h : piece ∈ split sep s) :
    sep ∉ piece := by
  induction s generalizing piece with
  | nil =>
      obtain rfl : piece = [] := by simpa using h
      exact List.not_mem_nil
  | cons a rest ih =>
      simp only [split] at h
      split at h
      · obtain rfl | h := List.mem_cons.mp h
        · exact List.not_mem_nil
        · exact ih h
      · next hne =>
          split at h
          · next hs => exact absurd hs (split_ne_nil sep rest)
          · next p ps hs =>
              obtain rfl | h := List.mem_cons.mp h
              · rw [List.mem_cons, not_or]
                exact ⟨fun he => hne he.symm, ih (by rw [hs]; exact List.mem_cons_self)⟩
              · exact ih (by rw [hs]; exact List.mem_cons_of_mem _ h)

/-! ### The last piece -/

/-- What follows the last separator, or the whole text if there is none. -/
def lastPiece (sep : α) (s : List α) : List α :=
  (split sep s).getLast (split_ne_nil sep s)

@[simp] theorem lastPiece_nil (sep : α) : lastPiece sep [] = [] := rfl

/-- The pieces of a text are those before the last one, and the `lastPiece`. -/
theorem dropLast_split_append (sep : α) (s : List α) :
    (split sep s).dropLast ++ [lastPiece sep s] = split sep s :=
  List.dropLast_concat_getLast _

/-- The last piece does not contain the separator. -/
theorem sep_not_mem_lastPiece (sep : α) (s : List α) : sep ∉ lastPiece sep s :=
  sep_not_mem_of_mem_split (List.getLast_mem _)

/-- A text `s` without the separator is its own last piece. -/
theorem lastPiece_of_not_mem {sep : α} {s : List α} (h : sep ∉ s) : lastPiece sep s = s := by
  simp [lastPiece, split_of_not_mem h]

/-- What comes before a separator does not matter for the last piece. -/
theorem lastPiece_append_sep {sep : α} {s : List α} (h : sep ∉ s) (rest : List α) :
    lastPiece sep (s ++ sep :: rest) = lastPiece sep rest := by
  simp only [lastPiece, split_append_sep h]
  rw [List.getLast_cons]

/-- **More text `b` only changes the last piece**, and adds pieces after it. -/
theorem split_append (sep : α) (a b : List α) :
    split sep (a ++ b) = (split sep a).dropLast ++ split sep (lastPiece sep a ++ b) := by
  induction a with
  | nil => rfl
  | cons x rest ih =>
      rw [lastPiece] at ih ⊢
      by_cases hx : x = sep
      · simp [split, hx, ih, List.dropLast_cons_of_ne_nil, List.getLast_cons, split_ne_nil]
      · cases hs : split sep rest with
        | nil => exact absurd hs (split_ne_nil sep rest)
        | cons p ps =>
            cases ps with
            | nil => simp [split, hx, hs, ih]
            | cons q qs => simp [split, hx, hs, ih]

/-- A text is split around a separator into the pieces of `a` and those of `b`. -/
theorem split_append_cons_sep (sep : α) (a b : List α) :
    split sep (a ++ sep :: b) = split sep a ++ split sep b := by
  rw [split_append, split_append_sep (sep_not_mem_lastPiece sep a), ← List.singleton_append,
    ← List.append_assoc, dropLast_split_append]

/-- What is put in front without a separator belongs to the `first` piece. -/
theorem split_append_of_not_mem {sep : α} {a s first : List α} {rest : List (List α)}
    (ha : sep ∉ a) (hs : split sep s = first :: rest) :
    split sep (a ++ s) = (a ++ first) :: rest := by
  induction a with
  | nil => exact hs
  | cons x a ih =>
      rw [List.mem_cons, not_or] at ha
      simp [split, Ne.symm ha.1, ih ha.2]

/-- The last piece of a longer text depends on what came before only by the last piece there. -/
theorem lastPiece_append (sep : α) (a b : List α) :
    lastPiece sep (a ++ b) = lastPiece sep (lastPiece sep a ++ b) := by
  simp only [lastPiece, split_append sep a b]
  rw [List.getLast_append_of_ne_nil]

end SelectorSearch.Text
