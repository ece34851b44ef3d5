import SelectorSearch.Shell.Builtin
import SelectorSearch.Shell.Redirect

/-!
# Running Shell Scripts

What a shell does with the commands of a script, one after another. A command of the shell itself
runs in place, another program as a child that the shell waits for, and a command in the
background as a child that it does not wait for.

A signal without arrangements ends the shell at once, also while it waits for a child, which then
lives on and keeps its pipes. A signal with arrangements has to wait until the child has ended;
so do all signals until the clock moves. The second command of a pipeline starts when the first
one has ended.

Every call takes one from the fuel that it is given, so that also the run of an endless script
ends, without an end of its process.

## Main results

* `lookup_restored`: what is assigned for one command is gone after it.
-/

namespace SelectorSearch.Shell

/-- The signals that end a shell whatever it is about, unless it has arranged something for them. -/
def isDeadly (s : State) (x : Sending) : Bool :=
  x.signal = .kill || (x.signal.isFatal && (s.traps.lookup x.signal.number).isNone)

/-- The end of a shell by a signal. -/
def endBy (x : Sending) : Action Unit := do
  modify fun s => { s with clock := max s.clock x.time }
  throw (Interruption.ended (.signal x.signal))

/-- Catches what a command in a loop says about the loop: whether the loop goes on. -/
def inLoop (body : Action Unit) : Action Bool := do
  try
    body
    return true
  catch
    | .breaks => return false
    | .continues => return true
    | e => throw e

/-- Catches what a command says about the function that it is in. -/
def catchReturn (body : Action Unit) : Action Unit := do
  try body catch
    | .returns => pure ()
    | e => throw e

/-- Runs a command whose failure does not end the shell. -/
def tolerating (body : Action Unit) : Action Unit := do
  let outer := (← get).tolerant
  modify fun s => { s with tolerant := true }
  let restore : Action Unit := modify fun s => { s with tolerant := outer }
  try body catch e => do
    restore
    throw e
  restore

/-- Ends the shell after a failure, if it is so arranged. -/
def stopIfFailed : Action Unit := do
  let s ← get
  if s.stopsOnFailure && !s.tolerant && s.status ≠ 0 then exitWith s.status

/-- Runs a command with other descriptors, and has the old ones again behind it. -/
def withDescriptors (ds : Descriptors) (body : Action Unit) : Action Unit := do
  let s ← get
  set { s with descriptors := ds }
  let restore := modify fun t => { t with descriptors := s.descriptors }
  try body catch
    | .ended status => throw (Interruption.ended status)
    | e => do
      restore
      throw e
  restore

/-- The bindings after a command for which some `names` were bound, and only for it: those have the
values that they had `before`. -/
def restored (names : List String) (before after : List (String × String)) :
    List (String × String) :=
  before.filter (fun v => names.contains v.1) ++ after.filter (fun v => !names.contains v.1)

/-- **Only what was bound for a command is restored**: after it the variables with some `names` have
the values from `before`, and all others those from `after`. -/
theorem lookup_restored (names : List String) (before after : List (String × String))
    (name : String) :
    (restored names before after).lookup name =
      if names.contains name then before.lookup name else after.lookup name := by
  rw [restored, List.lookup_append, lookup_filter names.contains,
    lookup_filter fun name => !names.contains name]
  cases names.contains name <;> simp

/-! ### Shells as programs -/

/-- What the options of a shell say about where its script comes from and about failures. -/
structure ShellOptions where
  /-- Whether the script is an argument itself. -/
  hasText : Bool := false
  stopsOnFailure : Bool := false
  deriving DecidableEq, Repr

/-- The letters of the options that a shell has. -/
def shellLetters : List Char :=
  "acefinsuvxbmCEIV".toList

/-- Reads the options of a shell: what they say and the arguments after them, or the first option
that the shell does not have. -/
def shellOptions (o : ShellOptions) : List String → Except String (ShellOptions × List String)
  | [] => .ok (o, [])
  | word :: rest =>
    match word.toList with
    | ['-'] | ['-', '-'] => .ok (o, rest)
    | '-' :: letters =>
      match letters.find? fun c => !shellLetters.contains c with
      | some c => .error (String.ofList ['-', c])
      | none =>
        let o : ShellOptions :=
          { hasText := o.hasText || letters.contains 'c'
            stopsOnFailure := o.stopsOnFailure || letters.contains 'e' }
        shellOptions o rest
    | _ => .ok (o, word :: rest)

/-- The state in which a shell begins that is started by another one. -/
def State.forShell (s : State) (name : String) : State :=
  { s with
    name
    line := 0
    bindings := s.bindings.filter fun v => s.exported.contains v.1
    functions := []
    tolerant := false
    status := 0 }

/-! ### Parameters -/

/-- The fields after a parameter, where the text that its use needs is expanded. -/
def useParameter (f : Fields) (name : String) (use : Use) (operand : List Glyph) (quoted : Bool) :
    Action Fields := do
  let s ← get
  let text := operand.map Glyph.char
  match use with
  | .value => return addParameter s f name quoted
  | .length => return f.put quoted (toString (parameter s name).length).toList
  | .orElse colon assigns =>
    if hasValue s name colon then return addParameter s f name quoted
    if assigns then setVariable name (String.ofList text)
    return f.put quoted text
  | .required colon =>
    if !hasValue s name colon then
      let usual := if colon then "parameter not set or null" else "parameter not set"
      misuse (name ++ ": " ++ (if text.isEmpty then usual else String.ofList text))
    return addParameter s f name quoted
  | .provided colon => return if hasValue s name colon then f.put quoted text else f
  | .trim front longest =>
    let trim := if front then trimFront else trimEnd
    return f.put quoted (trim longest operand (parameter s name))

/-- Says how a child in the foreground was ended, if a signal ended it. -/
def reportEnd : ExitStatus → Action Unit
  | .signal x =>
    match x.description? with
    | some text => complain text
    | none => pure ()
  | .code _ => pure ()

mutual

/-- Runs commands one after another. -/
def runAll : (fuel : Nat) → List Command → Action Unit
  | 0, _ => throw .unfinished
  | _ + 1, [] => pure ()
  | fuel + 1, c :: rest => do
    run fuel c
    runAll fuel rest

/-- Runs the lines of a script, each one before the next one is read. -/
def runLines : (fuel : Nat) → List Lexeme → Action Unit
  | 0, _ => throw .unfinished
  | fuel + 1, ts =>
    match nextLine? ts with
    | none => pure ()
    | some (.ok (commands, rest)) => do
      runAll fuel commands
      runLines fuel rest
    | some (.error e) => do
      modify fun s => { s with line := e.found.line }
      complainHere ("Syntax error: " ++ e.message)
      exitWith 2

/-- Runs a text as a script. -/
def runText : (fuel : Nat) → List Char → Action Unit
  | 0, _ => throw .unfinished
  | fuel + 1, script => runLines fuel (tokens script)

/-- What the shell does at a signal: it ends, does what is arranged, or nothing. -/
def receive : (fuel : Nat) → Sending → Action Unit
  | 0, _ => throw .unfinished
  | fuel + 1, x => do
    let s ← get
    if isDeadly s x then endBy x
    else match s.traps.lookup x.signal.number with
      | some action =>
        runText fuel action
        setStatus s.status
      | none => pure ()

/-- Lets time pass, for a child in the foreground or for the shell itself. -/
def pass : (fuel : Nat) → (duration : Nat) → Action Unit
  | 0, _ => throw .unfinished
  | fuel + 1, duration => do
    let s ← get
    let arrival := s.clock + duration
    let due := s.pending.takeWhile (·.time < arrival)
    match due.find? (isDeadly s) with
    | some x => endBy x
    | none =>
      if horizon < arrival then throw .unfinished
      set { s with clock := arrival, pending := s.pending.drop due.length }
      receiveAll fuel due

/-- What the shell does at some signals, one after another. -/
def receiveAll : (fuel : Nat) → List Sending → Action Unit
  | 0, _ => throw .unfinished
  | _ + 1, [] => pure ()
  | fuel + 1, x :: rest => do
    receive fuel x
    receiveAll fuel rest

/-- Waits for a shell within, which has the same clock. -/
def runWithin : (fuel : Nat) → Action Unit → Action Unit
  | 0, _ => throw .unfinished
  | fuel + 1, body => do
    let s ← get
    match ← inOwnShell body with
    | some (time, status) =>
      pass fuel (time - s.clock)
      reportEnd status
      setStatus status.visibleCode
    | none => throw .unfinished

/-- The output of a script, without the line ends at its end. -/
def outputOf : (fuel : Nat) → List Char → Action (List Char)
  | 0, _ => throw .unfinished
  | fuel + 1, script => do
    let s ← get
    set { s with captured := [], descriptors := s.descriptors.set 1 .captured }
    runWithin fuel (runText fuel script)
    let t ← get
    set { t with captured := s.captured, descriptors := s.descriptors }
    return Text.dropEndWhile (· = '\n') (Utf8.decode t.captured.reverse.flatten)

/-- The fields after a word, piece by piece. -/
def expand : (fuel : Nat) → Fields → Word → Action Fields
  | 0, _, _ => throw .unfinished
  | _ + 1, f, [] => pure f
  | fuel + 1, f, piece :: rest => do
    match piece with
    | .text s quoted => expand fuel (f.add (glyphs quoted s)) rest
    | .parameter name use operand quoted =>
      let operand ← expandOperand fuel operand
      expand fuel (← useParameter f name use operand quoted) rest
    | .output script quoted =>
      expand fuel (f.put quoted (← outputOf fuel script)) rest
    | .sum text quoted =>
      let text := (← expandOperand fuel text).map Glyph.char
      match Arithmetic.evaluate (numberOf (← get)) text with
      | some n => expand fuel (f.put quoted (toString n).toList) rest
      | none => do
        misuse ("arithmetic expression: expecting primary: \"" ++ String.ofList text ++ "\"")
        pure f

/-- The characters of a text within a word, with spaces between its fields. -/
def expandOperand : (fuel : Nat) → List Char → Action (List Glyph)
  | 0, _ => throw .unfinished
  | _ + 1, [] => pure []
  | fuel + 1, text => do
    let fields ← expand fuel {} (operandPieces text)
    return List.intercalate [⟨' ', true⟩] fields.toGlyphs

/-- The text of a word that is not split into fields. -/
def expandText : (fuel : Nat) → Word → Action String
  | 0, _ => throw .unfinished
  | fuel + 1, w => return (← expand fuel {} w).joined

/-- The fields of some words, with the paths that they match in place of patterns. -/
def expandAll : (fuel : Nat) → List Word → Action (List String)
  | 0, _ => throw .unfinished
  | _ + 1, [] => pure []
  | fuel + 1, w :: rest => do
    let fields ← expand fuel {} w
    let paths := fields.toGlyphs.flatMap (expandPaths (← get).files)
    return paths ++ (← expandAll fuel rest)

/-- The descriptors after some redirections; nothing if one is impossible. -/
def redirectAll : (fuel : Nat) → Descriptors → List Redirection → Action (Option Descriptors)
  | 0, _, _ => throw .unfinished
  | _ + 1, ds, [] => pure (some ds)
  | fuel + 1, ds, r :: rest => do
    match ← redirect ds r (← expandText fuel r.target) with
    | some ds => redirectAll fuel ds rest
    | none => return none

/-- Sets variables to the texts of their words, one after another. -/
def assignAll : (fuel : Nat) → List (String × Word) → Action Unit
  | 0, _ => throw .unfinished
  | _ + 1, [] => pure ()
  | fuel + 1, (name, w) :: rest => do
    setVariable name (← expandText fuel w)
    assignAll fuel rest

/-- Runs a tool. It is a child, unless it takes the place of the shell. -/
def runTool : (fuel : Nat) → (inPlace : Bool) → (name : String) → Tool → List String →
    Action Unit
  | 0, _, _, _, _ => throw .unfinished
  | fuel + 1, inPlace, name, tool, args =>
    match tool with
    | .ending code => setStatus code
    | .cat => runCat name args
    | .head => runHead name args
    | .seq => runSeq name args
    | .echo => emit name (plainEchoBytes args)
    | .printf => runFormat name args
    | .pwd => runPwd name args
    | .sleep => do
      if let some duration ← sleepDuration? name args then
        if !inPlace then
          modify fun s =>
            { s with log := s.log.hold s.descriptors (.upTo (s.clock + duration)) }
        pass fuel duration
        setStatus 0
    | .shell =>
      if inPlace then runShell fuel name args else runWithin fuel (runShell fuel name args)

/-- Runs a shell with the arguments of its program. -/
def runShell : (fuel : Nat) → (name : String) → List String → Action Unit
  | 0, _, _ => throw .unfinished
  | fuel + 1, name, args => do
    modify (·.forShell name)
    match shellOptions {} args with
    | .error option => misuse ("Illegal option " ++ option)
    | .ok (options, rest) =>
      modify fun s => { s with stopsOnFailure := options.stopsOnFailure }
      match options.hasText, rest with
      | true, [] => misuse "-c requires an argument"
      | true, script :: rest =>
        modify fun s => { s with name := rest.head?.getD name, args := rest.tail }
        runText fuel script.toList
      | false, [] => runText fuel (Utf8.decode (← takeInput id))
      | false, script :: rest =>
        match (← get).files.read ⟨script⟩ with
        | .ok bytes =>
          modify fun s => { s with name := script, args := rest }
          runText fuel (Utf8.decode bytes)
        | .error .isADirectory => pure ()
        | .error e => misuse ("cannot open " ++ script ++ ": " ++ openReason "No such file" e)

/-- Sends a signal to the processes with some numbers, the shell itself among them. -/
def sendTo : (fuel : Nat) → Signal → List String → Action Unit
  | 0, _, _ => throw .unfinished
  | _ + 1, _, [] => pure ()
  | fuel + 1, signal, target :: rest => do
    let s ← get
    if target = toString ownNumber then
      if signal.number ≠ 0 then receive fuel ⟨s.clock, signal⟩
    else if target = toString parentNumber then
      if signal = .interrupt then
        set { s with log.interrupts := s.clock :: s.log.interrupts }
    else if s.jobs.any fun j => toString j.number = target then
      let jobs := s.jobs.map fun j : Job =>
        if toString j.number = target then j.sent s.clock signal else j
      set { s with jobs }
    else
      complainHere "kill: No such process\n"
      setStatus 1
    sendTo fuel signal rest

/-- Waits for the children in the background with some numbers. -/
def waitFor : (fuel : Nat) → List String → Action Unit
  | 0, _ => throw .unfinished
  | _ + 1, [] => pure ()
  | fuel + 1, target :: rest => do
    let s ← get
    match s.jobs.find? fun j => toString j.number = target with
    | none => setStatus 127
    | some j =>
      match j.ended with
      | some (time, status) =>
        pass fuel (time - s.clock)
        reportEnd status
        setStatus status.visibleCode
      | none => throw .unfinished
    waitFor fuel rest

/-- Runs a function with its arguments, and has the arguments from before again behind it. -/
def callFunction : (fuel : Nat) → Command → List String → Action Unit
  | 0, _, _ => throw .unfinished
  | fuel + 1, body, args => do
    let outer := (← get).args
    modify fun s => { s with args }
    catchReturn (run fuel body)
    modify fun s => { s with args := outer }

/-- Runs a file as a part of the script, in the same shell. -/
def runFile : (fuel : Nat) → (name : String) → Action Unit
  | 0, _ => throw .unfinished
  | fuel + 1, name => do
    match (← get).files.read ⟨name⟩ with
    | .ok bytes => catchReturn (runText fuel (Utf8.decode bytes))
    | .error _ => misuse (".: cannot open " ++ name ++ ": No such file")

/-- Runs a program that is no command of the shell itself. -/
def runProgram : (fuel : Nat) → (inPlace : Bool) → String → List String → Action Unit
  | 0, _, _, _ => throw .unfinished
  | fuel + 1, inPlace, name, args => do
    let front := if inPlace then "exec: " else ""
    let s ← get
    match s.callable? name, findProgram s.files name with
    | some program, _ => runCall program args
    | none, .ok tool => runTool fuel inPlace name tool args
    | none, .error .permissionDenied =>
      complainHere (front ++ name ++ ": Permission denied")
      setStatus 126
    | none, .error _ =>
      complainHere (front ++ name ++ ": not found")
      setStatus 127

/-- Runs a command with its arguments: one of the shell, a function, or a program. -/
def invoke : (fuel : Nat) → String → List String → Action Unit
  | 0, _, _ => throw .unfinished
  | fuel + 1, name, args =>
    match name with
    | "exec" => do
      match args with
      | program :: args =>
        modify fun s => { s with traps := s.traps.filter (·.2.isEmpty) }
        runProgram fuel true program args
        exitWith (← get).status
      | [] => setStatus 0
    | "eval" => runText fuel (joinArguments args)
    | "kill" => do
      setStatus 0
      match killArguments args with
      | .ok (signal, targets) => sendTo fuel signal targets
      | .error text => misuse text
    | "wait" => do
      setStatus 0
      let own := (← get).jobs.map fun j => toString j.number
      waitFor fuel (if args.isEmpty then own else args)
      if args.isEmpty then setStatus 0
    | "." => runFile fuel (args.head?.getD "")
    | "command" =>
      match args with
      | name :: args => do
        modify fun s => { s with functions := s.functions.filter (·.1 ≠ name) }
        invoke fuel name args
      | [] => setStatus 0
    | name => do
      match (← get).functions.lookup name, runBuiltin name args with
      | some body, _ => callFunction fuel body args
      | none, some action => action
      | none, none => runProgram fuel false name args

/-- Runs a simple command. A redirection of nothing but `exec` stays; what is assigned before a
command stays if there is none. -/
def runSimple : (fuel : Nat) → List Word → List Redirection → Action Unit
  | 0, _, _ => throw .unfinished
  | fuel + 1, words, redirections => do
    let (assignments, words) := splitAssignments words
    let fields ← expandAll fuel words
    let s ← get
    if fields.isEmpty then setStatus 0
    assignAll fuel assignments
    match ← redirectAll fuel (← get).descriptors redirections with
    | none =>
      if fields.head?.any specialCommands.contains then exitWith 2
      setStatus 2
    | some ds =>
      match fields with
      | [] => pure ()
      | ["exec"] =>
        modify fun s => { s.held with descriptors := ds, status := 0 }
      | name :: args =>
        modify fun t => { t with exported := assignments.map Prod.fst ++ t.exported }
        withDescriptors ds (invoke fuel name args)
        if !assignments.isEmpty then
          let names := assignments.map Prod.fst
          modify fun t =>
            { t with bindings := restored names s.bindings t.bindings, exported := s.exported }

/-- Runs the first branch that has a pattern which matches a text. -/
def runBranches : (fuel : Nat) → List Char → List (List Word × Command) → Action Unit
  | 0, _, _ => throw .unfinished
  | _ + 1, _, [] => setStatus 0
  | fuel + 1, subject, (patterns, body) :: rest => do
    if ← matchesAny fuel subject patterns then
      setStatus 0
      run fuel body
    else runBranches fuel subject rest

/-- Whether one of some patterns matches a text. -/
def matchesAny : (fuel : Nat) → List Char → List Word → Action Bool
  | 0, _, _ => throw .unfinished
  | _ + 1, _, [] => pure false
  | fuel + 1, subject, pattern :: rest => do
    let fields ← expand fuel {} pattern
    if matchesPattern fields.toGlyphs.flatten subject then return true
    matchesAny fuel subject rest

/-- Runs a body for each of some values, one after another. -/
def runEach : (fuel : Nat) → String → List String → Command → Action Unit
  | 0, _, _, _ => throw .unfinished
  | _ + 1, _, [], _ => pure ()
  | fuel + 1, name, value :: rest, body => do
    setVariable name value
    if ← inLoop (run fuel body) then runEach fuel name rest body

/-- Runs a command, whatever it is made of. -/
def run : (fuel : Nat) → Command → Action Unit
  | 0, _ => throw .unfinished
  | fuel + 1, c =>
    match c with
    | .simple line words redirections => do
      modify fun s => { s with line }
      runSimple fuel words redirections
      stopIfFailed
    | .sequence commands => runAll fuel commands
    | .both first second => do
      tolerating (run fuel first)
      if (← get).status = 0 then run fuel second
    | .either first second => do
      tolerating (run fuel first)
      if (← get).status ≠ 0 then run fuel second
    | .negation c => do
      tolerating (run fuel c)
      setStatus (if (← get).status = 0 then 1 else 0)
    | .pipe first second => do
      let s ← get
      set { s with captured := [], descriptors := s.descriptors.set 1 .captured }
      let ended ← inOwnShell (run fuel first)
      let t ← get
      let written ← openSource t.captured.reverse.flatten
      modify fun t =>
        { t with captured := s.captured, descriptors := s.descriptors.set 0 written }
      match ended with
      | none => throw .unfinished
      | some (time, _) =>
        pass fuel (time - s.clock)
        runWithin fuel (run fuel second)
        modify fun t => { t with descriptors := s.descriptors }
        stopIfFailed
    | .background c => do
      let s ← get
      let child := do
        modify fun s => { s with descriptors := s.descriptors.set 0 .nothing }
        run fuel c
      let ended ← inOwnShell child
      let number := ((s.jobs.head?.map Job.number).getD ownNumber) + 1
      modify fun t => { t with status := 0, jobs := ⟨number, ended⟩ :: t.jobs }
    | .loop whileTrue condition body => do
      tolerating (run fuel condition)
      if ((← get).status = 0) = whileTrue then
        if ← inLoop (run fuel body) then
          pass fuel millisecond
          run fuel (.loop whileTrue condition body)
      else setStatus 0
    | .each name words body => do
      let values ← match words with
        | some words => expandAll fuel words
        | none => pure (← get).args
      setStatus 0
      runEach fuel name values body
    | .choice condition yes no => do
      tolerating (run fuel condition)
      if (← get).status = 0 then run fuel yes
      else
        setStatus 0
        run fuel no
    | .cases subject branches => do
      runBranches fuel (← expandText fuel subject).toList branches
    | .group body redirections => do
      match ← redirectAll fuel (← get).descriptors redirections with
      | some ds => withDescriptors ds (run fuel body)
      | none => setStatus 2
    | .subshell body => do
      runWithin fuel (run fuel body)
      stopIfFailed
    | .function name body =>
      modify fun s =>
        { s with functions := (name, body) :: s.functions.filter (·.1 ≠ name), status := 0 }

end

end SelectorSearch.Shell
