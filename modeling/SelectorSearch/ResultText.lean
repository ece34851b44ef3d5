import SelectorSearch.Message

/-!
# The Text of Results

What each message adds to the result text and to the progress status. A file with matches becomes
a header line, a blank line, and one block per match: a label with the line number, then the
source of the element, whose further lines are indented to the same column. The header and the
labels have the form that the two patterns describe, by which an editor finds its way from a line
of the result to the place in the file.
-/

namespace SelectorSearch

/-! ### Constants of the result view -/

/-- Matches a file header such as `index.html (2 matches)`, for an editor to find the file by. -/
def resultFilePattern : String := "^([^ ].*) \\([0-9]+ match(?:es)?\\)$"

/-- Matches the label of a match such as ` 12: `, for an editor to find the line by. -/
def resultLinePattern : String := "^ +([0-9]+): "

/-- The syntax definition of the result view. -/
def resultSyntax : String := "Packages/Element Finder/Element Finder Results.tmLanguage"

/-- The key under which the progress status is shown. -/
def statusKey : String := "element_finder"

/-! ### Pieces -/

/-- A count and its noun, which has a form of its own for one thing. -/
def pluralise (count : UInt64) (singular plural : String) : String :=
  toString count.toNat ++ " " ++ (if count = 1 then singular else plural)

/-- The name of the result view of a search. -/
def viewTitle (selector : String) : String :=
  selector ++ " - Element Finder Results"

/-- The progress status, with the number of the file and the number of all files. -/
def progressStatus (processed total : UInt64) : String :=
  "Element Finder is searching... (" ++ toString processed.toNat ++ "/" ++ toString total.toNat
    ++ " files)"

/-- How many columns a label takes after its indentation, and a further line of a source before its
text. -/
def labelWidth : Nat := 8

/-- The indentation of a label. -/
def labelIndent : String := "    "

/-- A line number with a colon, filled up with spaces to the width of labels. -/
def lineLabel (line : UInt64) : String :=
  let label := toString line.toNat ++ ":"
  label ++ String.ofList (List.replicate (labelWidth - label.length) ' ')

/-- A source with all its lines but the first indented, by the width of labels. -/
def indentLines (source : List Char) : List Char :=
  source.flatMap fun c => if c = '\n' then '\n' :: List.replicate labelWidth ' ' else [c]

/-- The block of one match: its label, and its source behind it. -/
def detailBlock (d : MatchDetail) : String :=
  labelIndent ++ lineLabel d.line ++ String.ofList (indentLines d.html.toList) ++ "\n"

/-! ### Blocks -/

/-- The block that opens the results: what is searched for and where, and the number of files. -/
def countedBlock (c : CountedFiles) : String :=
  "Selector:                  " ++ c.selector ++ "\n" ++
  "Directory:                 " ++ c.directory ++ "\n" ++
  "Filetypes to search:       " ++ c.extension ++ "\n" ++
  "Patterns to ignore:        " ++ c.ignore ++ "\n" ++
  "Number of files to search: " ++ toString c.numberOfFiles.toNat ++ "\n\n" ++
  "Tip: to fold all result summaries, press Command K 1\n\n"

/-- The header of a file: its path, and how many matches it has. -/
def fileHeader (m : FoundMatch) : String :=
  m.file ++ " (" ++ pluralise m.matchCount "match" "matches" ++ ")"

/-- The block of a file: its header, the blocks of its matches, and a blank line after them. -/
def matchBlock (m : FoundMatch) : String :=
  fileHeader m ++ "\n\n" ++ String.join (m.details.map detailBlock) ++
    (if m.details.isEmpty then "" else "\n")

/-- What a message adds to the result view: a status, text at its end, or both, or nothing. -/
structure Rendered where
  /-- Text that is appended to the results. -/
  body : Option String := none
  /-- The new progress status. -/
  status : Option String := none
  deriving DecidableEq, Repr

/-- What a message adds to the result view. A malformed line adds nothing, and neither does a
message of no known kind. -/
def Message.render : Message → Rendered
  | .countedFiles c =>
    { body := some (countedBlock c), status := some (progressStatus 0 c.numberOfFiles) }
  | .processingFile p => { status := some (progressStatus p.fileNumber p.numberOfFiles) }
  | .foundMatch m => { body := some (matchBlock m) }
  | .complete s => { body := some s.message }
  | .unrecognized .. => {}
  | .malformed _ => {}

end SelectorSearch
