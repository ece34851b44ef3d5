import SelectorSearch.Message
import SelectorSearch.Json.Parser

/-!
# Reading Messages

From a line of text to a message. The line has to be a JSON object. If its tag is one of the four
known ones, the fields of that kind must be there with the right kinds of value; unknown fields
are ignored. A matching element may also be written as an array of its two fields.

Of several faults the one that is reported is the first in this order: fields with a value of the
wrong kind, by the name of the field; missing fields, in the order of the kind's declaration;
numbers that disagree.

## Main results

* `ofLine?_eq_none_iff`: exactly the blank lines say nothing.
* `allBlank_of_malformed`: the text of a malformed line is not blank.
-/

namespace SelectorSearch.Message

/-- What is wrong with a line: it is no JSON text or no object, or a field or its numbers are at
fault. -/
inductive LineError where
  /-- The line is no JSON text. -/
  | notJson
  /-- The line is a JSON value other than an object. -/
  | notAnObject
  /-- A field has a value of the wrong kind. -/
  | mismatch (m : Mismatch)
  /-- A field is missing. -/
  | missing (field : String)
  /-- The numbers of the message disagree. -/
  | violation (v : Violation)
  deriving DecidableEq, Repr

/-- The error message of a line, unless all there is to say is that it is no JSON text. -/
def LineError.message? : LineError → Option String
  | .notJson => none
  | .notAnObject => some "Expected a JSON object"
  | .mismatch m => some ("Invalid JSON: " ++ m.message)
  | .missing field => some ("Invalid JSON: missing field `" ++ field ++ "`")
  | .violation v => some v.message

/-! ### Values of fields -/

/-- The integer of 64 bits, without a sign, that a value is. -/
def readCount : Json.Value → Except LineError UInt64
  | .integer n =>
    if 0 ≤ n then .ok (UInt64.ofNat n.toNat) else .error (.mismatch (.range (.integer n) .count))
  | v => .error (.mismatch (.kind v.found .count))

/-- The text that a value is. -/
def readText : Json.Value → Except LineError String
  | .string s => .ok s
  | v => .error (.mismatch (.kind v.found .text))

/-- The value of a field that is read by `read`, if there is such a field. -/
def field {α : Type} (members : Json.Members) (read : Json.Value → Except LineError α)
    (name : String) : Except LineError (Option α) :=
  match members.get? name with
  | none => .ok none
  | some v => (read v).map some

/-- The value of a field that must not be missing. -/
def require {α : Type} (name : String) : Option α → Except LineError α
  | some a => .ok a
  | none => .error (.missing name)

/-! ### The four kinds -/

/-- A matching element, from an object or from an array of its line and its source. -/
def readDetail : Json.Value → Except LineError MatchDetail
  | .object members => do
    let html ← field members readText "html"
    let line ← field members readCount "line"
    return { line := ← require "line" line, html := ← require "html" html }
  | .array [] => .error (.mismatch (.short 0 .matchDetail 2))
  | .array [line] => do
    let _ ← readCount line
    .error (.mismatch (.short 1 .matchDetail 2))
  | .array (line :: html :: rest) => do
    let line ← readCount line
    let html ← readText html
    if rest.isEmpty then return { line, html }
    else .error (.mismatch (.long (rest.length + 2) 2))
  | v => .error (.mismatch (.kind v.found .matchDetail))

/-- The matching elements of a file, from an array. -/
def readDetails : Json.Value → Except LineError (List MatchDetail)
  | .array items => items.mapM readDetail
  | v => .error (.mismatch (.kind v.found .sequence))

/-- The fields of `countedFiles`; the texts may be missing. -/
def readCountedFiles (members : Json.Members) : Except LineError CountedFiles := do
  let directory ← field members readText "directory"
  let extension ← field members readText "extension"
  let ignore ← field members readText "ignore"
  let numberOfFiles ← field members readCount "numberOfFiles"
  let selector ← field members readText "selector"
  return {
    numberOfFiles := ← require "numberOfFiles" numberOfFiles
    selector := selector.getD ""
    directory := directory.getD ""
    extension := extension.getD ""
    ignore := ignore.getD "" }

/-- The fields of `processingFile`, which must all be there. -/
def readProgress (members : Json.Members) : Except LineError FileProgress := do
  let fileNumber ← field members readCount "fileNumber"
  let numberOfFiles ← field members readCount "numberOfFiles"
  return {
    fileNumber := ← require "fileNumber" fileNumber
    numberOfFiles := ← require "numberOfFiles" numberOfFiles }

/-- The fields of `foundMatch`, which must all be there. -/
def readFoundMatch (members : Json.Members) : Except LineError FoundMatch := do
  let file ← field members readText "file"
  let matchCount ← field members readCount "matches"
  let details ← field members readDetails "matchesDetails"
  return {
    file := ← require "file" file
    matchCount := ← require "matches" matchCount
    details := ← require "matchesDetails" details }

/-- The fields of `complete`, which must all be there. -/
def readSummary (members : Json.Members) : Except LineError Summary := do
  let message ← field members readText "message"
  let filesWithMatches ← field members readCount "numberOfFilesWithMatches"
  let totalMatches ← field members readCount "totalMatches"
  return {
    message := ← require "message" message
    totalMatches := ← require "totalMatches" totalMatches
    filesWithMatches := ← require "numberOfFilesWithMatches" filesWithMatches }

/-! ### Lines -/

/-- The message `m` if its numbers agree. -/
def checked (m : Message) : Except LineError Message :=
  match m.violation? with
  | none => .ok m
  | some v => .error (.violation v)

/-- The message of an object, which its tag decides; `raw` is the line it was read from. -/
def ofMembers (raw : String) (members : Json.Members) : Except LineError Message :=
  match (members.get? "status").bind Json.Value.string? with
  | some "countedFiles" => do checked (.countedFiles (← readCountedFiles members))
  | some "processingFile" => do checked (.processingFile (← readProgress members))
  | some "foundMatch" => do checked (.foundMatch (← readFoundMatch members))
  | some "complete" => do checked (.complete (← readSummary members))
  | status => .ok (.unrecognized status raw)

/-- The message of a JSON value; `raw` is the line it was read from. -/
def ofValue (raw : String) : Json.Value → Except LineError Message
  | .object members => ofMembers raw members
  | _ => .error .notAnObject

/-- The message of a line without its line end, or what is wrong with it. -/
def parse (line : String) : Except LineError Message :=
  match Json.parse? line with
  | none => .error .notJson
  | some v => ofValue line v

/-- What a line of output says: nothing if it is blank, and that it is malformed if it is no
message. Carriage returns and line feeds at its end do not belong to it. -/
def ofLine? (line : String) : Option Message :=
  let line := Text.dropLineEnd line
  if Text.allBlank line then none
  else match parse line with
    | .ok m => some m
    | .error _ => some (.malformed line)

/-- **Exactly the blank lines say nothing.** -/
theorem ofLine?_eq_none_iff (line : String) :
    ofLine? line = none ↔ Text.allBlank line = true := by
  rw [← Text.allBlank_dropLineEnd, ofLine?]
  split
  · next h => simp [h]
  · next h => split <;> simp [h]

/-- What is `checked` is not changed. -/
theorem eq_of_checked {m m' : Message} (h : checked m = .ok m') : m' = m := by
  unfold checked at h
  split at h <;> cases h
  rfl

/-- A message of a known kind is not malformed after it is `checked`. -/
theorem isMalformed_of_read {α : Type} {fields : Except LineError α} {make : α → Message}
    (hmake : ∀ a, (make a).isMalformed = false) {m : Message}
    (h : (fields >>= fun a => checked (make a)) = .ok m) : m.isMalformed = false := by
  cases fields with
  | error e => cases h
  | ok a => exact eq_of_checked h ▸ hmake a

/-- What can be read from a line is not malformed. -/
theorem isMalformed_of_parse {line : String} {m : Message} (h : parse line = .ok m) :
    m.isMalformed = false := by
  unfold parse at h
  split at h
  · cases h
  · next v _ =>
      cases v with
      | object members =>
          simp only [ofValue, ofMembers] at h
          split at h
          case h_5 =>
            cases h
            rfl
          all_goals exact isMalformed_of_read (fun _ => rfl) h
      | _ => cases h

/-- The text of a malformed line is not blank. -/
theorem allBlank_of_malformed {line raw : String} (h : ofLine? line = some (.malformed raw)) :
    Text.allBlank raw = false := by
  simp only [ofLine?] at h
  split at h
  · cases h
  · next hblank =>
      split at h
      · next hparse =>
          obtain rfl := Option.some.inj h
          cases isMalformed_of_parse hparse
      · cases h
        exact Bool.not_eq_true _ ▸ hblank

end SelectorSearch.Message
