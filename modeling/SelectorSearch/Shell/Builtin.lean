import SelectorSearch.Shell.Condition
import SelectorSearch.Shell.Expansion
import SelectorSearch.Shell.Toolbox

/-!
# Commands of the Shell Itself

The commands that a shell has without a program, as far as they need no other commands. Some of
them end the shell when they are misused.
-/

namespace SelectorSearch.Shell

/-- The arrangements that the arguments of `trap` make: an `action` for each of the signals, or none
any more. -/
def arrange (action : String) (signals : List String) : Action Unit := do
  for text in signals do
    let text := if text.startsWith "SIG" then (text.drop 3).toString else text
    let number := if text = "EXIT" then some 0 else (Signal.ofText? text).map Signal.number
    match number with
    | some n =>
      modify fun s =>
        let others := s.traps.filter (·.1 ≠ n)
        { s with traps := if action = "-" then others else (n, action.toList) :: others }
    | none =>
      complainHere ("trap: " ++ text ++ ": bad trap")
      setStatus 1

/-- How `kill` is used, as it says itself. -/
def killUsage : String :=
  "kill: Usage: kill [-s sigspec | -signum | -sigspec] [pid | job]... or\nkill -l [exitstatus]"

/-- The signal and the targets among the arguments of `kill`, or what is wrong with them. -/
def killArguments (args : List String) : Except String (Signal × List String) := do
  let (signal, targets) ← match args with
    | "-s" :: name :: targets =>
      match Signal.ofText? name with
      | some signal => pure (signal, targets)
      | none => .error ("kill: invalid signal number or name: " ++ name)
    | first :: targets =>
      if first.startsWith "-" then
        let name := (first.drop 1).toString
        let name := if name.startsWith "SIG" then (name.drop 3).toString else name
        match (Signal.ofText? name).filter (·.number ≤ 64) with
        | some signal => pure (signal, targets)
        | none => .error ("kill: Illegal option " ++ (first.take 2).toString)
      else pure (Signal.terminate, first :: targets)
    | [] => pure (Signal.terminate, [])
  if targets.isEmpty then .error killUsage else .ok (signal, targets)

/-- Changes the current directory, which is the command `cd`. -/
def changeDirectory (args : List String) : Action Unit := do
  let s ← get
  let name := args.head?.getD "/"
  match s.files.changeDirectory ⟨name⟩ with
  | .ok files => set { s with files, status := 0 }
  | .error _ =>
    complainHere ("cd: can't cd to " ++ name)
    setStatus 2

/-- The end of the shell because a command of its own was misused, which the `text` tells. -/
def misuse (text : String) : Action Unit := do
  complainHere text
  exitWith 2

/-- Ends the shell, with the code that is given or the last one. -/
def runExit (args : List String) : Action Unit := do
  match args with
  | [] => exitWith (← get).status
  | text :: _ =>
    match Text.nonNegative? text with
    | some code => exitWith code
    | none => misuse ("exit: Illegal number: " ++ text)

/-- Drops arguments from the front, one if no number is given. -/
def runShift (args : List String) : Action Unit := do
  let s ← get
  let count := (args.head?.bind Text.nonNegative?).getD 1
  if s.args.length < count then misuse "shift: can't shift that many"
  else set { s with args := s.args.drop count, status := 0 }

/-- What options of `set` say about failures, where `before` is what was said last. -/
def stopOption (before : Bool) (words : List String) : Bool :=
  words.foldl
    (fun stops word =>
      if !word.toList.contains 'e' then stops
      else if word.startsWith "-" then true
      else if word.startsWith "+" then false
      else stops)
    before

/-- The words after the options of `set`, if there are any. -/
def setOperands : List String → Option (List String)
  | [] => none
  | "--" :: rest => some rest
  | word :: rest =>
    if word.startsWith "-" || word.startsWith "+" then setOperands rest else some (word :: rest)

/-- Takes a line from the standard input, without its line end; whether the line end was there. -/
def takeLine : Action (List Char × Bool) := do
  let line ← takeInput (firstLines 1)
  let text := line.takeWhile (· ≠ 10)
  return (Utf8.decode text, text.length < line.length)

/-- The text without backslashes that keep a character. -/
def dropBackslashes : List Char → List Char
  | '\\' :: c :: rest => c :: dropBackslashes rest
  | c :: rest => c :: dropBackslashes rest
  | [] => []

/-- Sets variables to the words of a line; the last one gets all that is left. -/
def assignWords : List String → List Char → Action Unit
  | [], _ => pure ()
  | [name], line =>
    setVariable name (String.ofList (Text.dropEndWhile isSpace (line.dropWhile isSpace)))
  | name :: names, line => do
    let line := line.dropWhile isSpace
    let word := line.takeWhile (!isSpace ·)
    setVariable name (String.ofList word)
    assignWords names (line.drop word.length)

/-- Reads a line into variables. A line is not taken apart if the variable `IFS` names no character
to take it apart at. -/
def runRead (args : List String) : Action Unit := do
  let raw := args.head? = some "-r"
  let names := if raw then args.tail else args
  let (line, complete) ← takeLine
  let line := if raw then line else dropBackslashes line
  if (← get).bindings.lookup "IFS" = some "" then
    for name in names.tail do setVariable name ""
    for name in names.take 1 do setVariable name (String.ofList line)
  else assignWords names line
  setStatus (if complete then 0 else 1)

/-- Lets programs see variables, which may be set at the same time. -/
def runExport (args : List String) : Action Unit := do
  setStatus 0
  for arg in args do
    let name := (arg.takeWhile (· ≠ '=')).toString
    if name ≠ arg then setVariable name (arg.drop (name.length + 1)).toString
    modify fun s => { s with exported := name :: s.exported }

/-- Tells by its code whether a condition holds, and says what is wrong with it. -/
def runTest (name : String) (words : List String) : Action Unit := do
  match holds (← get).files words with
  | .ok b => setStatus (if b then 0 else 1)
  | .error text =>
    complainHere (name ++ ": " ++ text)
    setStatus 2

/-- The command `[`, which is `test` with a closing bracket. -/
def runBracket (args : List String) : Action Unit := do
  if args.getLast? = some "]" then runTest "[" args.dropLast
  else
    complainHere "[: missing ]"
    setStatus 2

/-- Writes by a format, and says which arguments are no numbers. -/
def runPrintf (args : List String) : Action Unit := do
  match if args.head? = some "--" then args.tail else args with
  | format :: args =>
    if format.startsWith "-" && format.length ≥ 2 then
      misuse ("printf: Illegal option " ++ (format.take 2).toString)
    writeOrFail (printfBytes format args) (complainHere "printf: printf: I/O error")
    for arg in badNumbers format args do
      complainHere ("printf: " ++ arg ++ ": expected numeric value")
      setStatus 1
  | [] =>
    complainHere "printf: usage: printf format [arg ...]"
    setStatus 2

/-- Makes arrangements for signals, and for the end of the shell. -/
def runTrap (args : List String) : Action Unit := do
  setStatus 0
  match args with
  | [] => return
  | [signal] => arrange "-" [signal]
  | action :: signals => arrange action signals

/-- A command of the shell itself that needs no other commands; nothing if it is none. -/
def runBuiltin (name : String) (args : List String) : Option (Action Unit) :=
  match name with
  | ":" | "true" => some (setStatus 0)
  | "false" => some (setStatus 1)
  | "read" => some (runRead args)
  | "echo" => some (writeOrFail (echoBytes args) (complainHere "echo: echo: I/O error"))
  | "printf" => some (runPrintf args)
  | "pwd" => some do writeOrFail (currentLine (← get)) (complainHere "pwd: pwd: I/O error")
  | "cd" => some (changeDirectory args)
  | "exit" => some (runExit args)
  | "break" => some (throw Interruption.breaks)
  | "continue" => some (throw Interruption.continues)
  | "return" =>
    some do
      if let some code := args.head?.bind Text.nonNegative? then setStatus code
      throw Interruption.returns
  | "shift" => some (runShift args)
  | "set" =>
    let options := args.takeWhile fun a => a ≠ "--" && (a.startsWith "-" || a.startsWith "+")
    some (modify fun s =>
      { s with
        args := (setOperands args).getD s.args
        stopsOnFailure := stopOption s.stopsOnFailure options
        status := 0 })
  | "export" | "readonly" => some (runExport args)
  | "test" => some (runTest "test" args)
  | "[" => some (runBracket args)
  | "unset" =>
    some (modify fun s =>
      { s with bindings := s.bindings.filter fun v => !args.contains v.1, status := 0 })
  | "trap" => some (runTrap args)
  | _ => none

/-- Commands of the shell itself that end it when a redirection of theirs is impossible. -/
def specialCommands : List String :=
  [":", "break", "continue", ".", "eval", "exec", "exit", "export", "readonly", "return", "set",
    "shift", "trap", "unset"]

end SelectorSearch.Shell
