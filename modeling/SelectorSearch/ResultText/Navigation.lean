import SelectorSearch.ResultText
import SelectorSearch.Text.Split

/-!
# Navigation in Results

What an editor reads off a line of the results: the path in a file header, and the number in a
label. `HeaderOf` and `LabelOf` say what the two patterns of the result view match, with what they
capture; `headerPath?` and `labelNumber?` find it.

A header is a path that does not begin with a space, a space, and a count of matches in
parentheses at the end of the line. A label is at least one space, a number, a colon, and a space.

## Main results

* `labelNumber?_eq_some`: a number that is found stands in a label.
-/

namespace SelectorSearch.ResultText

/-- The text has at least one digit and nothing else. -/
def IsNumber (digits : List Char) : Prop :=
  digits ≠ [] ∧ ∀ c ∈ digits, c.isDigit = true

/-- The line is the header of a file with this `path`, as `resultFilePattern` matches it. -/
def HeaderOf (path line : List Char) : Prop :=
  ∃ digits ending : List Char, path ≠ [] ∧ path.head? ≠ some ' ' ∧ IsNumber digits ∧
    (ending = "match".toList ∨ ending = "matches".toList) ∧
    line = path ++ ' ' :: '(' :: digits ++ ' ' :: ending ++ [')']

/-- The line begins with a label that has this number, as `resultLinePattern` matches it. -/
def LabelOf (digits line : List Char) : Prop :=
  ∃ (spaces : Nat) (rest : List Char), IsNumber digits ∧
    line = List.replicate (spaces + 1) ' ' ++ digits ++ ':' :: ' ' :: rest

/-- What follows the text `front` in another one, if that begins with it. -/
def after? (front s : List Char) : Option (List Char) :=
  if front.isPrefixOf s then some (s.drop front.length) else none

/-- The number in the label of a line, if the line begins with one. -/
def labelNumber? (line : List Char) : Option (List Char) :=
  match line.takeWhile (· = ' ') with
  | [] => none
  | _ :: _ =>
    let rest := line.dropWhile (· = ' ')
    let digits := rest.takeWhile Char.isDigit
    match digits, rest.dropWhile Char.isDigit with
    | _ :: _, ':' :: ' ' :: _ => some digits
    | _, _ => none

/-- The path in the header of a file, found from the end of the line. -/
def headerPath? (line : List Char) : Option (List Char) := do
  let s := line.reverse
  let s ← after? ")sehctam ".toList s <|> after? ")hctam ".toList s
  let digits := s.takeWhile Char.isDigit
  if digits.isEmpty then none
  else
    let path := (← after? "( ".toList (s.dropWhile Char.isDigit)).reverse
    if path.isEmpty || path.head? = some ' ' then none else some path

/-- The lines of a text, without their line feeds. -/
def lines (text : String) : List (List Char) :=
  Text.split '\n' text.toList

/-- What is taken from the front of a list has the property `p` by which it was taken. -/
theorem of_mem_takeWhile {p : Char → Bool} {s : List Char} {c : Char} (h : c ∈ s.takeWhile p) :
    p c = true :=
  List.all_eq_true.1 List.all_takeWhile c h

/-- A number that `labelNumber?` finds stands in a label of the line. -/
theorem labelNumber?_eq_some {line digits : List Char} (h : labelNumber? line = some digits) :
    LabelOf digits line := by
  unfold labelNumber? at h
  split at h
  · cases h
  · rename_i c spaces hs
    dsimp only at h
    split at h
    · rename_i d ds rest hd hr
      cases h
      have hall : ∀ x ∈ c :: spaces, x = ' ' := by
        intro x hx
        simpa using of_mem_takeWhile (hs ▸ hx : x ∈ line.takeWhile (· = ' '))
      refine ⟨spaces.length, rest, ⟨by simp [hd], fun x hx => of_mem_takeWhile hx⟩, ?_⟩
      · have hrep : c :: spaces = List.replicate (spaces.length + 1) ' ' := by
          rw [List.eq_replicate_iff]
          exact ⟨by simp, hall⟩
        calc line = line.takeWhile (· = ' ') ++ line.dropWhile (· = ' ') := by simp
          _ = (c :: spaces) ++ ((line.dropWhile (· = ' ')).takeWhile Char.isDigit
                ++ (line.dropWhile (· = ' ')).dropWhile Char.isDigit) := by
              rw [hs, List.takeWhile_append_dropWhile]
          _ = _ := by rw [hd, hr, hrep]; simp
    · cases h

end SelectorSearch.ResultText
