import SelectorSearch.Toml.Value
import SelectorSearch.Text.Split

/-!
# Excerpts

Shows where in a configuration file something is wrong: the number of the line and of the column,
the line itself, and below it a row of carets under the stretch in question. Lines and columns are
counted from one, columns in characters; the carets are as many as the stretch has bytes, but do
not run past the line, and there is always one.

## Main results

* `take_excerptLines`: an excerpt shows the line and the column at which its stretch starts.
-/

namespace SelectorSearch.Toml

/-- The characters before a stretch of a `text`. -/
def Span.before (span : Span) (text : List Char) : List Char :=
  text.take (text.length - span.start)

/-- The characters of a stretch of a `text`. -/
def Span.inside (span : Span) (text : List Char) : List Char :=
  (text.drop (text.length - span.start)).take (span.start - span.stop)

/-- The number of bytes of some characters in UTF-8. -/
def byteCount (chars : List Char) : Nat :=
  (String.ofList chars).utf8ByteSize

/-- The lines that show where something is wrong, and what. -/
def excerptLines (text : List Char) (span : Span) (message : String) : List String :=
  let above := Text.split '\n' (span.before text)
  let column := (above.getLast?.getD []).length
  let line := ((Text.split '\n' text)[above.length - 1]?).getD []
  let carets := max 1 (min (byteCount (span.inside text)) (byteCount line - column))
  let number := toString above.length
  let gutter := "".pushn ' ' (number.length + 1) ++ "|"
  ["TOML parse error at line " ++ number ++ ", column " ++ toString (column + 1),
    gutter,
    number ++ " | " ++ String.ofList line,
    gutter ++ "".pushn ' ' (column + 1) ++ "".pushn '^' carets,
    message]

/-- Where in a text something is wrong, and what; every line has its line feed. -/
def excerpt (text : List Char) (span : Span) (message : String) : String :=
  String.join ((excerptLines text span message).map (· ++ "\n"))

/-- **An excerpt shows where the stretch starts**: its first lines give the number of the line and
of the column, counted by the characters `before` the stretch, and that line as a whole. -/
theorem take_excerptLines (text : List Char) (span : Span) (message : String) :
    let before := span.before text
    let number := toString (before.count '\n' + 1)
    let start := Text.lastPiece '\n' before
    (excerptLines text span message).take 3 =
      ["TOML parse error at line " ++ number ++ ", column " ++ toString (start.length + 1),
        "".pushn ' ' (number.length + 1) ++ "|",
        number ++ " | " ++
          String.ofList ((start ++ text.drop before.length).takeWhile (· ≠ '\n'))] := by
  intro before number start
  have hlines : (Text.split '\n' before).length = before.count '\n' + 1 :=
    Text.length_split '\n' before
  have hstart : (Text.split '\n' before).getLast?.getD [] = start := by
    rw [List.getLast?_eq_some_getLast (Text.split_ne_nil '\n' before)]
    rfl
  have hline : (Text.split '\n' text)[(Text.split '\n' before).length - 1]?.getD [] =
      (start ++ text.drop before.length).takeWhile (· ≠ '\n') := by
    have htext : before ++ text.drop before.length = text :=
      List.prefix_iff_eq_append.mp (List.take_prefix _ _)
    rw [← congrArg (Text.split '\n') htext, Text.split_append, ← List.length_dropLast,
      List.getElem?_append_right (Nat.le_refl _), Nat.sub_self, ← List.head?_eq_getElem?,
      Text.head?_split]
    rfl
  simp only [excerptLines, List.take_succ_cons, List.take_zero]
  rw [hlines, hstart]
  rw [hlines] at hline
  rw [hline]

example :
    excerptLines ['a', '\n', 'b', '=', '1', '2'] ⟨2, 0⟩ "wrong" =
      ["TOML parse error at line 2, column 3", "  |", "2 | b=12", "  |   ^^", "wrong"] := by
  decide +kernel

end SelectorSearch.Toml
