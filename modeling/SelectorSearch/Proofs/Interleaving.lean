/-!
# Interleavings

Two sequences that were put together one element at a time, each in its own order. It is what
two streams make of a queue that both are put into.
-/

namespace SelectorSearch

variable {α : Type}

/-- `Interleaving a b c`: the elements of `c` are those of `a` and those of `b`, each once, and
those of either are in their order. -/
inductive Interleaving : List α → List α → List α → Prop
  | nil : Interleaving [] [] []
  | left {x : α} {a b c : List α} : Interleaving a b c → Interleaving (x :: a) b (x :: c)
  | right {x : α} {a b c : List α} : Interleaving a b c → Interleaving a (x :: b) (x :: c)

namespace Interleaving

/-- With nothing on the right there is only what is on the left, in its order. -/
theorem of_left (a : List α) : Interleaving a [] a := by
  induction a with
  | nil => exact .nil
  | cons x a ih => exact ih.left

/-- With nothing on the left there is only what is on the right, in its order. -/
theorem of_right (b : List α) : Interleaving [] b b := by
  induction b with
  | nil => exact .nil
  | cons x b ih => exact ih.right

/-- There may be `more` elements of the left sequence at the end, behind all others. -/
theorem append_left {a b c : List α} (h : Interleaving a b c) (more : List α) :
    Interleaving (a ++ more) b (c ++ more) := by
  induction h with
  | nil => exact of_left more
  | left _ ih => exact ih.left
  | right _ ih => exact ih.right

/-- There may be `more` elements of the right sequence at the end, behind all others. -/
theorem append_right {a b c : List α} (h : Interleaving a b c) (more : List α) :
    Interleaving a (b ++ more) (c ++ more) := by
  induction h with
  | nil => exact of_right more
  | left _ ih => exact ih.left
  | right _ ih => exact ih.right

end Interleaving

end SelectorSearch
