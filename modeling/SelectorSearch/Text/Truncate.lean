/-!
# Truncated Text

Cuts a text to a number of characters and shows by three dots that something is missing. The dots
count towards the limit, except that they always appear in full.

## Main results

* `truncate_of_le`: a text within the limit stays as it is.
* `length_truncate_le`: beyond the three dots the limit holds.
-/

namespace SelectorSearch.Text

/-- The three dots that stand for what is left out. -/
def ellipsis : List Char := ['.', '.', '.']

/-- The characters if there are at most `limit`, else as many as leave room for the dots. -/
def truncateChars (s : List Char) (limit : Nat) : List Char :=
  if s.length ≤ limit then s
  else if limit ≤ 3 then ellipsis
  else s.take (limit - 3) ++ ellipsis

/-- The text if it has at most `limit` characters, else as many as leave room for the dots. -/
def truncate (s : String) (limit : Nat) : String :=
  String.ofList (truncateChars s.toList limit)

/-- A text within the `limit` stays as it is. -/
theorem truncate_of_le {s : String} {limit : Nat} (h : s.toList.length ≤ limit) :
    truncate s limit = s := by
  simp [truncate, truncateChars, h]

/-- Beyond the three dots the `limit` holds: a text is cut to it, or to the dots alone. -/
theorem length_truncate_le (s : List Char) (limit : Nat) :
    (truncateChars s limit).length ≤ max limit 3 := by
  simp only [truncateChars]
  split
  · omega
  split
  · exact Nat.le_max_right limit 3
  · rw [List.length_append, List.length_take, ellipsis, List.length_cons, List.length_cons,
      List.length_cons, List.length_nil]
    omega

end SelectorSearch.Text
