/-!
# Styles of Text

How a terminal is told to show a text in a colour or a type of its own: a control sequence in front
of the text turns the style on, and one behind it turns the style off.

## Main results

* `toList_styled`: a text in a style has the sequence of the style in front.
-/

namespace SelectorSearch

/-- A `text` between the control sequences with the numbers `on` and `off`. -/
def styled (on off : String) (text : String) : String :=
  ("\x1b[" ++ on ++ "m") ++ text ++ ("\x1b[" ++ off ++ "m")

/-- Faint text, with the sequence that ends all styles behind it. -/
def dim : String → String := styled "2" "0"

/-- Text in bold type, where a wipe of all styles ends it. -/
def bold : String → String := styled "1" "0"

/-- Slanted text. -/
def italic : String → String := styled "3" "0"

/-- Text in red. -/
def red : String → String := styled "31" "39"

/-- Text in blue. -/
def blue : String → String := styled "34" "39"

/-- Text in cyan. -/
def cyan : String → String := styled "36" "39"

/-- The sequences around a faint `text`, written out. -/
theorem dim_eq (text : String) : dim text = "\x1b[2m" ++ text ++ "\x1b[0m" := by
  simp [dim, styled]

/-- The sequences around a red `text`, written out. -/
theorem red_eq (text : String) : red text = "\x1b[31m" ++ text ++ "\x1b[39m" := by
  simp [red, styled]

/-- The first character of a `styled` text is the one that starts a control sequence, whatever the
style and the text are. -/
theorem toList_styled (on off text : String) :
    ∃ rest, (styled on off text).toList = '\x1b' :: rest := by
  simp [styled]

end SelectorSearch
