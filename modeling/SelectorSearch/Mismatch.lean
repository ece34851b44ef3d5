import SelectorSearch.Text.Quoted

/-!
# Mismatches

What a reader of structured data says when it meets a value of the wrong kind. The same wording
serves the messages of the search tool and the configuration file: it names what was found, with
the value where that is short, and what was expected in its place.

Both readers go step by step, and the first step that fails ends the reading.
-/

namespace SelectorSearch

/-- What was found in place of something else, as far as an error message tells. -/
inductive Found where
  | null
  | boolean (b : Bool)
  | integer (n : Int)
  /-- A number with a fraction or an exponent, as the data's own format writes it. -/
  | decimal (written : String)
  | text (s : String)
  | sequence
  | mapping
  deriving DecidableEq, Repr

/-- What was expected. -/
inductive Wanted where
  /-- An unsigned integer of 64 bits. -/
  | count
  | text
  | path
  | sequence
  /-- The line and the source of one matching element. -/
  | matchDetail
  deriving DecidableEq, Repr

/-- A value that does not fit: one of another kind, one out of range, or a sequence of the wrong
length. -/
inductive Mismatch where
  /-- A value of another kind. -/
  | kind (found : Found) (wanted : Wanted)
  /-- A value of the right kind outside its range. -/
  | range (found : Found) (wanted : Wanted)
  /-- A sequence that ends before its `wanted` elements. -/
  | short (length : Nat) (wanted : Wanted) (elements : Nat)
  /-- A sequence that goes on after its `elements`. -/
  | long (length elements : Nat)
  deriving DecidableEq, Repr

/-- A value as an error message names it. -/
def Found.name : Found → String
  | .null => "null"
  | .boolean b => "boolean `" ++ (if b then "true" else "false") ++ "`"
  | .integer n => "integer `" ++ toString n ++ "`"
  | .decimal written => "floating point `" ++ written ++ "`"
  | .text s => "string " ++ Text.quote s
  | .sequence => "sequence"
  | .mapping => "map"

/-- A kind of value as an error message names it. -/
def Wanted.name : Wanted → String
  | .count => "u64"
  | .text => "a string"
  | .path => "path string"
  | .sequence => "a sequence"
  | .matchDetail => "struct MatchDetail"

/-- A number `n` of elements, with the noun in the right number. -/
def elementsInSequence (n : Nat) : String :=
  toString n ++ (if n = 1 then " element" else " elements") ++ " in sequence"

/-- The error message of a mismatch, with what was found and what was expected. -/
def Mismatch.message : Mismatch → String
  | .kind found wanted => "invalid type: " ++ found.name ++ ", expected " ++ wanted.name
  | .range found wanted => "invalid value: " ++ found.name ++ ", expected " ++ wanted.name
  | .short length wanted elements =>
    "invalid length " ++ toString length ++ ", expected " ++ wanted.name ++ " with "
      ++ toString elements ++ " elements"
  | .long length elements =>
    "invalid length " ++ toString length ++ ", expected " ++ elementsInSequence elements

/-! ### Reading in steps -/

section Steps

variable {ε α β : Type} {x : Except ε α} {f : α → Except ε β}

/-- Two steps succeed if the second one `f` succeeds on what the first one gives. -/
theorem bind_eq_ok_iff {b : β} : x >>= f = .ok b ↔ ∃ a, x = .ok a ∧ f a = .ok b := by
  cases x <;> simp [bind, Except.bind]

/-- Two steps fail if the first one fails, or the second one `f` does on what the first one
gives. -/
theorem bind_eq_error_iff {e : ε} :
    x >>= f = .error e ↔ x = .error e ∨ ∃ a, x = .ok a ∧ f a = .error e := by
  cases x <;> simp [bind, Except.bind]

end Steps

end SelectorSearch
