import SelectorSearch.Shell.Tool

/-!
# What the Tools Do

The programs other than the shell. None of them has a long option, so the first argument that
looks like one is refused.

## Main results

* `firstLines_prefix`: the first lines of a file are its front, and as few as they should be.
-/

namespace SelectorSearch.Shell

/-- The absolute path of the current directory with a line end. -/
def currentLine (s : State) : List UInt8 :=
  bytesOfString (s.files.currentPath.text ++ "\n")

/-- How to get help about a tool, as tools say it. -/
def hint (tool : String) : String :=
  "Try '" ++ tool ++ " --help' for more information."

/-- Refuses an option that a tool does not have. -/
def refuseOption (tool option : String) : Action Unit := do
  complain (tool ++ ": unrecognized option '" ++ option ++ "'")
  complain (hint tool)
  setStatus 1

/-- The first argument that looks like a long option, if there is one. -/
def longOption? (args : List String) : Option String :=
  (args.takeWhile (· ≠ "--")).find? fun a => a.startsWith "--"

/-- Runs a tool that has no long options, and refuses one. -/
def withoutOptions (tool : String) (args : List String) (body : Action Unit) : Action Unit :=
  match longOption? args with
  | some option => refuseOption tool option
  | none => body

/-- The content of a file, or the input if the name is a dash; nothing if a tool has to complain
about it. -/
def readFor (tool : String) (name : String) : Action (Option (List UInt8)) := do
  if name = "-" then return some (← takeInput id)
  if name = "/dev/null" then return some []
  match (← get).files.read ⟨name⟩ with
  | .ok bytes => return some bytes
  | .error e =>
    complain (tool ++ ": " ++ name ++ ": " ++ e.reason)
    setStatus 1
    return none

/-- Copies one file to the output. -/
def copyFile (tool name : String) : Action Unit := do
  if let some bytes ← readFor tool name then
    let _ ← write 1 bytes

/-- Copies files to the output, one after another, or the input if none is named. -/
def runCat (tool : String) (args : List String) : Action Unit :=
  withoutOptions tool args do
    let s ← get
    if (s.descriptors.lookup 1).isNone then
      complain (tool ++ ": standard output: Bad file descriptor")
      setStatus 1
    else
      setStatus 0
      (if args.isEmpty then ["-"] else args).forM (copyFile tool)

/-- Writes bytes for a command, which fails if it cannot. -/
def writeOrFail (bytes : List UInt8) (onFailure : Action Unit) : Action Unit := do
  if ← write 1 bytes then setStatus 0
  else
    onFailure
    setStatus 1

/-- The first `count` lines of a file, each with its line end. -/
def firstLines : (count : Nat) → List UInt8 → List UInt8
  | 0, _ => []
  | count + 1, bytes =>
    let line := bytes.takeWhile (· ≠ 10)
    match bytes.drop line.length with
    | [] => line
    | _ :: rest => line ++ 10 :: firstLines count rest

/-- Writes bytes for a tool, which says so if it cannot. -/
def emit (tool : String) (bytes : List UInt8) : Action Unit :=
  writeOrFail bytes (complain (tool ++ ": write error: Bad file descriptor"))

/-- Copies the front of a file: a number of bytes, or of lines. -/
def runHead (tool : String) (args : List String) : Action Unit :=
  withoutOptions tool args do
    let (front, names) : (List UInt8 → List UInt8) × List String := match args with
      | "-c" :: n :: names => (List.take (n.toNat?.getD 0), names)
      | "-n" :: n :: names => (firstLines (n.toNat?.getD 0), names)
      | names => (firstLines 10, names)
    if let some bytes ← readFor tool (names.head?.getD "-") then emit tool (front bytes)

/-- The bounds and the step of a sequence of numbers: the first one, the step and the last one. -/
def sequenceBounds : List Int → Int × Int × Int
  | [last] => (1, 1, last)
  | [first, last] => (first, 1, last)
  | first :: step :: last :: _ => (first, step, last)
  | [] => (1, 1, 0)

/-- Writes the numbers of a sequence, one in a line. -/
def runSeq (tool : String) (args : List String) : Action Unit :=
  withoutOptions tool args do
    let (first, step, last) := sequenceBounds (args.filterMap fun a => a.toInt?)
    let count := if step = 0 then 0 else ((last - first) / step + 1).toNat
    let lines := (List.range count).map fun n : Nat => toString (first + step * (n : Int)) ++ "\n"
    emit tool (bytesOfString (String.join lines))

/-- Writes by a format. Arguments that the format has no use for are told. -/
def runFormat (tool : String) (args : List String) : Action Unit := do
  let format := args.head?.getD ""
  if let some unused := unusedArgument? format args.tail then
    complain (tool ++ ": warning: ignoring excess arguments, starting with '" ++ unused ++ "'")
  emit tool (printfBytes format args.tail)

/-- Writes the current directory, which is the tool `pwd`. -/
def runPwd (tool : String) (args : List String) : Action Unit :=
  withoutOptions tool args do
    emit tool (currentLine (← get))

/-- The seconds of a unit of time, if the text is one. -/
def unitSeconds? : List Char → Option Nat
  | [] | ['s'] => some 1
  | ['m'] => some 60
  | ['h'] => some 3600
  | ['d'] => some 86400
  | _ => none

/-- The microseconds of a duration such as `0.25` or `2m`. -/
def duration? (text : String) : Option Nat := do
  let s := text.toList
  let whole := s.takeWhile Char.isDigit
  let s := s.drop whole.length
  let (fraction, s) := match s with
    | '.' :: rest => (rest.takeWhile Char.isDigit, rest.dropWhile Char.isDigit)
    | s => ([], s)
  if whole.isEmpty && fraction.isEmpty then none
  else
    let unit ← unitSeconds? s
    let micros := (fraction ++ List.replicate 6 '0').take 6
    return (Text.digitsValue 10 (whole ++ micros)) * unit

/-- Finds out how long to sleep; nothing if that cannot be said. -/
def sleepDuration? (tool : String) (args : List String) : Action (Option Nat) := do
  match longOption? args, args.mapM duration? with
  | some option, _ =>
    refuseOption tool option
    return none
  | none, none =>
    complain (tool ++ ": invalid time interval '" ++ args.head?.getD "" ++ "'")
    complain (hint tool)
    setStatus 1
    return none
  | none, some durations => return some (durations.foldl (· + ·) 0)

/-! ### The program that started the shell -/

/-- The descriptor of a stream at the start of a process. -/
def descriptorOf : Stream → Nat
  | .output => 1
  | .error => 2

/-- The program that a name calls again, if it is the one that started the shell. -/
def State.callable? (s : State) (name : String) : Option (Call → Outcome) :=
  if name = parentPath then s.parent else none

/-- The call of a program that sees the files and the variables of a shell. -/
def State.call (s : State) (args : List String) (input : List UInt8) : Call :=
  { files := s.files
    args
    bindings := s.bindings.filter fun v => s.exported.contains v.1
    input }

/-- Calls a `program` and waits for its end. -/
def runCall (program : Call → Outcome) (args : List String) : Action Unit := do
  let input ← takeInput id
  let outcome := program ((← get).call args input)
  for (stream, bytes) in outcome.written do
    let _ ← write (descriptorOf stream) bytes
  setStatus outcome.code

/-! ### Lines of files -/

/-- The first line of a file, up to its line end, if it has one. -/
theorem dropWhile_line {bytes rest : List UInt8} {b : UInt8}
    (h : bytes.drop (bytes.takeWhile (· ≠ 10)).length = b :: rest) :
    b = 10 ∧ bytes = bytes.takeWhile (· ≠ 10) ++ 10 :: rest := by
  have hline : bytes.takeWhile (· ≠ 10) ++ b :: rest = bytes := by
    rw [← h]
    exact List.prefix_iff_eq_append.mp (List.takeWhile_prefix _)
  have hrest : bytes.dropWhile (· ≠ 10) = b :: rest :=
    List.append_cancel_left (List.takeWhile_append_dropWhile.trans hline.symm)
  have hb : b = 10 := by
    have hne : bytes.dropWhile (· ≠ 10) ≠ [] := hrest ▸ List.cons_ne_nil b rest
    have hhead := List.head_dropWhile_not _ hne
    simp only [hrest, List.head_cons] at hhead
    simpa using hhead
  exact ⟨hb, hb ▸ hline.symm⟩

/-- **The first lines of a file are its front**, and hold no more line ends than they should. -/
theorem firstLines_prefix (count : Nat) (bytes : List UInt8) :
    firstLines count bytes <+: bytes ∧ (firstLines count bytes).count 10 ≤ count := by
  induction count generalizing bytes with
  | zero => exact ⟨List.nil_prefix, Nat.le_refl 0⟩
  | succ count ih =>
      have hnone : (bytes.takeWhile (· ≠ 10)).count 10 = 0 := by
        refine List.count_eq_zero.mpr fun h => ?_
        have := List.all_eq_true.mp List.all_takeWhile _ h
        simp at this
      rw [firstLines]
      split
      case h_1 =>
          refine ⟨List.takeWhile_prefix _, ?_⟩
          rw [hnone]
          exact Nat.zero_le _
      case h_2 b rest hrest =>
          obtain ⟨⟨more, hmore⟩, hcount⟩ := ih rest
          constructor
          · refine ⟨more, ?_⟩
            rw [List.append_assoc, List.cons_append, hmore]
            exact (dropWhile_line hrest).2.symm
          · rw [List.count_append, hnone, List.count_cons_self, Nat.zero_add]
            exact Nat.succ_le_succ hcount

end SelectorSearch.Shell
