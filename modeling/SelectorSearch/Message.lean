import SelectorSearch.Json.Printer

/-!
# Messages of the Search Tool

The search tool reports its progress as one JSON object per line. Four kinds are known, told
apart by a `status` tag: the number of files that will be searched, the file that is being
searched, the matches in one file, and the summary at the end. An object with another tag, or
none, is kept as text, and so is a line that is no message at all.

A message of a known kind is `Consistent` when its numbers agree with each other: progress does
not run past the total, and a file with matches has as many details as it announces, with lines
counted from one. Only consistent messages come out of the reader.

## Main results

* `status_writable`: what can be written has one of the four known tags.
-/

namespace SelectorSearch

/-- The number of files that will be searched, with an echo of the search. -/
structure CountedFiles where
  numberOfFiles : UInt64
  selector : String
  directory : String
  extension : String
  ignore : String
  deriving DecidableEq, Repr

/-- The file that is being searched, counted from one, and the number of all files. -/
structure FileProgress where
  fileNumber : UInt64
  numberOfFiles : UInt64
  deriving DecidableEq, Repr

/-- One matching element: the line it starts on, counted from one, and its source, which may span
several lines. -/
structure MatchDetail where
  line : UInt64
  html : String
  deriving DecidableEq, Repr

/-- The matching elements of one file, and how many there are said to be. -/
structure FoundMatch where
  file : String
  matchCount : UInt64
  details : List MatchDetail
  deriving DecidableEq, Repr

/-- The summary at the end of a search. -/
structure Summary where
  message : String
  totalMatches : UInt64
  filesWithMatches : UInt64
  deriving DecidableEq, Repr

/-- What one line of output says: one of four kinds of message, one of no known kind, or none at
all. -/
inductive Message where
  | countedFiles (counted : CountedFiles)
  | processingFile (progress : FileProgress)
  | foundMatch (found : FoundMatch)
  | complete (summary : Summary)
  /-- An object whose tag is missing, no string, or unknown. -/
  | unrecognized (status : Option String) (raw : String)
  /-- A line that is no message. -/
  | malformed (raw : String)
  deriving DecidableEq, Repr

namespace Message

/-- The tag of a message, which a malformed line does not have. -/
def status : Message → Option String
  | .countedFiles _ => some "countedFiles"
  | .processingFile _ => some "processingFile"
  | .foundMatch _ => some "foundMatch"
  | .complete _ => some "complete"
  | .unrecognized status _ => status
  | .malformed _ => none

/-- Whether the message ends the search, as a summary does. -/
def isTerminal : Message → Bool
  | .complete _ => true
  | _ => false

/-- Whether the line was no message. -/
def isMalformed : Message → Bool
  | .malformed _ => true
  | _ => false

/-- The summary that a terminal message carries. -/
def summary? : Message → Option Summary
  | .complete s => some s
  | _ => none

/-- The terminal messages are exactly those that carry a summary. -/
theorem isTerminal_eq (m : Message) : m.isTerminal = m.summary?.isSome := by
  cases m <;> rfl

/-- The tags of the four known kinds. -/
def knownStatuses : List String :=
  ["countedFiles", "processingFile", "foundMatch", "complete"]

/-! ### Consistency -/

/-- How the numbers of a message can disagree with each other. -/
inductive Violation where
  | fileBeyondTotal (fileNumber numberOfFiles : UInt64)
  | noMatches
  | detailCount (matchCount : UInt64) (details : Nat)
  | lineZero
  deriving DecidableEq, Repr

/-- The first disagreement among the numbers of a message, if there is one. -/
def violation? : Message → Option Violation
  | .processingFile p =>
    if p.numberOfFiles < p.fileNumber then
      some (.fileBeyondTotal p.fileNumber p.numberOfFiles)
    else none
  | .foundMatch m =>
    if m.matchCount = 0 then some .noMatches
    else if m.details.length ≠ m.matchCount.toNat then
      some (.detailCount m.matchCount m.details.length)
    else if m.details.any (·.line = 0) then some .lineZero
    else none
  | _ => none

/-- The numbers of a message agree with each other, and lines are counted from one. -/
def Consistent : Message → Prop
  | .processingFile p => p.fileNumber ≤ p.numberOfFiles
  | .foundMatch m =>
    m.matchCount ≠ 0 ∧ m.details.length = m.matchCount.toNat ∧ ∀ d ∈ m.details, d.line ≠ 0
  | _ => True

/-- The reader looks for exactly the disagreements that `Consistent` rules out. -/
theorem violation?_eq_none_iff (m : Message) : m.violation? = none ↔ m.Consistent := by
  cases m with
  | processingFile p => simp [violation?, Consistent]
  | foundMatch m =>
    simp only [violation?, Consistent]
    by_cases h1 : m.matchCount = 0
    · simp [h1]
    by_cases h2 : m.details.length = m.matchCount.toNat
    · simp [h1, h2]
    · simp [h1, h2]
  | _ => simp [violation?, Consistent]

instance (m : Message) : Decidable m.Consistent :=
  decidable_of_iff _ (violation?_eq_none_iff m)

/-- The wording of a disagreement, with the numbers that disagree. -/
def Violation.message : Violation → String
  | .fileBeyondTotal n total =>
    "Invalid processingFile message: file " ++ toString n.toNat ++ " of " ++ toString total.toNat
  | .noMatches => "Invalid foundMatch message: zero matches"
  | .detailCount n details =>
    "Invalid foundMatch message: " ++ toString n.toNat ++ " matches but " ++ toString details
      ++ " details"
  | .lineZero => "Invalid foundMatch message: line numbers are 1-based"

/-! ### Writing -/

/-- The object of a matching element. -/
def detailValue (d : MatchDetail) : Json.Value :=
  .object [("line", .integer d.line.toNat), ("html", .string d.html)]

/-- The object that the search tool writes for a message of a known kind. -/
def value? : Message → Option Json.Value
  | .countedFiles c => some <| .object
    [("status", .string "countedFiles"), ("numberOfFiles", .integer c.numberOfFiles.toNat),
      ("selector", .string c.selector), ("directory", .string c.directory),
      ("extension", .string c.extension), ("ignore", .string c.ignore)]
  | .processingFile p => some <| .object
    [("status", .string "processingFile"), ("fileNumber", .integer p.fileNumber.toNat),
      ("numberOfFiles", .integer p.numberOfFiles.toNat)]
  | .foundMatch m => some <| .object
    [("status", .string "foundMatch"), ("file", .string m.file),
      ("matches", .integer m.matchCount.toNat),
      ("matchesDetails", .array (m.details.map detailValue))]
  | .complete s => some <| .object
    [("status", .string "complete"), ("message", .string s.message),
      ("totalMatches", .integer s.totalMatches.toNat),
      ("numberOfFilesWithMatches", .integer s.filesWithMatches.toNat)]
  | .unrecognized .. => none
  | .malformed _ => none

/-- The line that the search tool writes for a message of a known kind, without its line end. -/
def line? (m : Message) : Option String :=
  m.value?.map Json.Value.compact

/-- What can be written has one of the four `knownStatuses`. -/
theorem status_writable {m : Message} {v : Json.Value} (h : m.value? = some v) :
    ∃ s ∈ knownStatuses, m.status = some s := by
  cases m <;> simp_all [value?, status, knownStatuses]

end Message

end SelectorSearch
