import SelectorSearch.Proofs.Machine
import SelectorSearch.Session

/-!
# What the Counters Count

The counters of a session are those of its machine, and a message does to the machine what one
operation does, or nothing (`foldl_count`). So what is known of a machine after any operations is
known of a session after any messages, as soon as it is said which messages are operations of which
kind.

## Main results

* `foldl_count`: messages as operations on the machine.
* `filesWithMatches_foldl`, `totalMatches_foldl`, `malformedLines_foldl`: the counters that add up.
* `totalFiles_foldl`: the last announcement counts.
* `filesProcessed_foldl`, `filesProcessed_foldl_le_iff`: the furthest file counts.
-/

namespace SelectorSearch

open Session SessionMachine

/-! ### Messages by what they count for -/

namespace Message

/-- What a message does to the machine of a session, which is nothing for a summary and for a
message that is ignored. -/
def operation? : Message → Option Operation
  | .countedFiles c => some (.total c.numberOfFiles)
  | .processingFile p => some (.progress p.fileNumber p.numberOfFiles)
  | .foundMatch m => some (.found m.matchCount)
  | .malformed _ => some .malformed
  | .complete _ | .unrecognized .. => none

/-- The file with matches that a message is about, if it is about one. -/
def found? : Message → Option FoundMatch
  | .foundMatch m => some m
  | _ => none

/-- The progress that a message reports, if it reports any. -/
def progress? : Message → Option FileProgress
  | .processingFile p => some p
  | _ => none

/-- The number of files that a message announces, on its own or together with progress. -/
def announced? : Message → Option UInt64
  | .countedFiles c => some c.numberOfFiles
  | .processingFile p => some p.numberOfFiles
  | _ => none

end Message

/-! ### Messages as operations -/

/-- A message changes the machine by its `operation?`, if it has one. -/
theorem count_eq (machine : SessionMachine) (m : Message) :
    count machine m = m.operation?.elim machine fun op => (machine.apply op).1 := by
  cases m <;> rfl

/-- **Messages change the machine by their operations**, in their order. -/
theorem foldl_count (messages : List Message) (machine : SessionMachine) :
    messages.foldl count machine = (machine.run (messages.filterMap Message.operation?)).1 := by
  induction messages generalizing machine with
  | nil => rfl
  | cons m rest ih =>
      rw [List.foldl_cons, ih, count_eq]
      cases h : m.operation? with
      | none => rw [List.filterMap_cons_none h, Option.elim_none]
      | some op => rw [List.filterMap_cons_some h, Option.elim_some, run]

/-- The operations for files with matches are those of the messages about such files, each with the
count that its file gives. -/
theorem filterMap_found?_operations (messages : List Message) :
    (messages.filterMap Message.operation?).filterMap Operation.found? =
      (messages.filterMap Message.found?).map (·.matchCount) := by
  rw [List.filterMap_filterMap, List.map_filterMap]
  congr 1
  funext m
  cases m <;> rfl

/-- The operations for progress are those of the messages about it, each with the number of its
file. -/
theorem filterMap_processed?_operations (messages : List Message) :
    (messages.filterMap Message.operation?).filterMap Operation.processed? =
      (messages.filterMap Message.progress?).map (·.fileNumber) := by
  rw [List.filterMap_filterMap, List.map_filterMap]
  congr 1
  funext m
  cases m <;> rfl

/-- The operations that announce a number of files are those of the messages that do, with the same
numbers. -/
theorem filterMap_total?_operations (messages : List Message) :
    (messages.filterMap Message.operation?).filterMap Operation.total? =
      messages.filterMap Message.announced? := by
  rw [List.filterMap_filterMap]
  congr 1
  funext m
  cases m <;> rfl

/-- There are as many operations for malformed lines as there are malformed lines among the
`messages`. -/
theorem count_malformed_operations (messages : List Message) :
    (messages.filterMap Message.operation?).count .malformed =
      (messages.filterMap malformedText?).length := by
  rw [List.count_filterMap, List.length_filterMap_eq_countP]
  congr 1
  funext m
  cases m <;> rfl

/-! ### Several messages -/

/-- Messages count the files with matches that they are about, up to `countMax` and no further. -/
theorem filesWithMatches_foldl (messages : List Message) (machine : SessionMachine) :
    (messages.foldl count machine).stats.filesWithMatches.toNat =
      min (machine.stats.filesWithMatches.toNat + (messages.filterMap Message.found?).length)
        countMax.toNat := by
  rw [foldl_count, filesWithMatches_run, filterMap_found?_operations, List.length_map]

/-- Messages count the matches of all files that they are about, up to `countMax` and no further. -/
theorem totalMatches_foldl (messages : List Message) (machine : SessionMachine) :
    (messages.foldl count machine).stats.totalMatches.toNat =
      min (machine.stats.totalMatches.toNat +
        ((messages.filterMap Message.found?).map (·.matchCount.toNat)).sum) countMax.toNat := by
  rw [foldl_count, totalMatches_run, filterMap_found?_operations, List.map_map, Function.comp_def]

/-- Messages count the malformed lines among them, up to `countMax` and no further. -/
theorem malformedLines_foldl (messages : List Message) (machine : SessionMachine) :
    (messages.foldl count machine).stats.malformedLines.toNat =
      min (machine.stats.malformedLines.toNat + (messages.filterMap malformedText?).length)
        countMax.toNat := by
  rw [foldl_count, malformedLines_run, count_malformed_operations]

/-- After some messages the number of files is the one that was announced last, or the one before
them. -/
theorem totalFiles_foldl (messages : List Message) (machine : SessionMachine) :
    (messages.foldl count machine).stats.totalFiles =
      (messages.filterMap Message.announced?).getLast?.getD machine.stats.totalFiles := by
  rw [foldl_count, totalFiles_run, filterMap_total?_operations]

/-- After some messages the furthest file is the largest one of those reported and of the one before
them. -/
theorem filesProcessed_foldl (messages : List Message) (machine : SessionMachine) :
    (messages.foldl count machine).stats.filesProcessed.toNat =
      ((messages.filterMap Message.progress?).map (·.fileNumber.toNat)).foldl max
        machine.stats.filesProcessed.toNat := by
  rw [foldl_count, filesProcessed_run, filterMap_processed?_operations, List.map_map,
    Function.comp_def]

/-- The largest one of several `numbers` is within a `bound` exactly if all of them are. -/
theorem foldl_max_le_iff (numbers : List Nat) (n bound : Nat) :
    numbers.foldl max n ≤ bound ↔ n ≤ bound ∧ ∀ k ∈ numbers, k ≤ bound := by
  induction numbers generalizing n with
  | nil => simp
  | cons k rest ih => rw [List.foldl_cons, ih, Nat.max_le, and_assoc, List.forall_mem_cons]

/-- After some messages the furthest file is within a `bound` exactly if all those reported are, and
the one before them. -/
theorem filesProcessed_foldl_le_iff (messages : List Message) (machine : SessionMachine)
    (bound : Nat) :
    (messages.foldl count machine).stats.filesProcessed.toNat ≤ bound ↔
      machine.stats.filesProcessed.toNat ≤ bound ∧
        ∀ p ∈ messages.filterMap Message.progress?, p.fileNumber.toNat ≤ bound := by
  rw [filesProcessed_foldl, foldl_max_le_iff, List.forall_mem_map]

end SelectorSearch
