/-!
# Words of a Command Line

How a word of a command line looks before its options are known. A word that starts with two
dashes names an option by its full name, possibly with a value after the first equals sign; one
that starts with a single dash names options by their letters; two dashes alone end the options;
every other word, a single dash among them, is an operand.

## Main results

* `classify_eq_operand_iff`: the words that are operands.
-/

namespace SelectorSearch.CommandLine

/-- The form of a word: the name of an option, letters of options, or an operand. -/
inductive Word where
  | operand (text : String)
  /-- Two dashes: all words after it are operands. -/
  | separator
  /-- A full name and the value after the equals sign. -/
  | long (name : String) (value : Option String)
  /-- One letter or more. -/
  | letters (letters : List Char)
  deriving DecidableEq, Repr

namespace Word

/-- The parts of a word before and after the first equals sign, the second of which may be
missing. -/
def splitAtEquals (text : List Char) : String × Option String :=
  match text.dropWhile (· ≠ '=') with
  | [] => (String.ofList text, none)
  | _ :: value => (String.ofList (text.takeWhile (· ≠ '=')), some (String.ofList value))

/-- The form of a word, which its leading dashes decide. -/
def classify (word : String) : Word :=
  match word.toList with
  | ['-', '-'] => separator
  | '-' :: '-' :: rest => long (splitAtEquals rest).1 (splitAtEquals rest).2
  | '-' :: c :: rest => letters (c :: rest)
  | _ => operand word

/-- The value that a word is for the option before it: only an operand is one. -/
def value? (word : String) : Option String :=
  match classify word with
  | operand text => some text
  | _ => none

/-- **The operands are the words without a leading dash, and the dash alone.** -/
theorem classify_eq_operand_iff {word text : String} :
    classify word = operand text ↔
      word = text ∧ (word.toList.head? ≠ some '-' ∨ word.toList = ['-']) := by
  rw [classify]
  split
  case h_1 hword => simp [hword]
  case h_2 hword => simp [hword]
  case h_3 hword => simp [hword]
  case h_4 hseparator hlong hletters =>
      have hform : word.toList.head? ≠ some '-' ∨ word.toList = ['-'] := by
        cases hword : word.toList with
        | nil => exact .inl (by simp)
        | cons c rest =>
            by_cases hc : c = '-'
            · subst hc
              cases rest with
              | nil => exact .inr rfl
              | cons d rest => exact absurd hword (hletters d rest)
            · exact .inl fun h => hc (Option.some.inj h)
      rw [operand.injEq]
      exact ⟨fun h => ⟨h, hform⟩, fun h => h.1⟩

end Word

end SelectorSearch.CommandLine
