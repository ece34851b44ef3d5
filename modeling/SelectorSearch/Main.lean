import SelectorSearch.CommandLine.Run
import SelectorSearch.Text.Timestamp
import Std.Time.DateTime.Timestamp

/-!
# The Program

Gathers what surrounds a command line, runs it, and writes what it says. The files below the
current directory are read first, with those outside of it that the command line names, so that
everything after that is a computation.
-/

namespace SelectorSearch.Main

/-- How deep directories are read into the tree. -/
def maxDepth : Nat := 32

/-- The tree with the content of a file, if there is one at the path. -/
def addFile (t : FileTree) (path : String) : IO FileTree := do
  try
    let content ← IO.FS.readBinFile path
    return t.writeFile ⟨path⟩ content.toList false
  catch _ => return t

/-- The tree with what a directory has under a name, down to some depth. -/
def addEntry : (depth : Nat) → FileTree → IO.FS.DirEntry → IO FileTree
  | 0, t, _ => pure t
  | depth + 1, t, entry => do
    if ← entry.path.isDir then
      let t := t.makeDirectory ⟨entry.path.toString⟩
      (← entry.path.readDir).foldlM (addEntry depth) t
    else addFile t entry.path.toString

/-- The files below the current directory, and the tools that scripts may call. -/
def currentTree : IO FileTree := do
  let folder ← IO.currentDir
  let start : FileTree :=
    { current := ((Path.mk folder.toString).segments.filter (· ≠ [])).map String.ofList }
  let t := Shell.installTools (start.makeDirectory ⟨folder.toString⟩)
  (← folder.readDir).foldlM (addEntry maxDepth) t

/-- The variables that the program and its children are told of. -/
def variableNames : List String :=
  ["RUST_LOG", "XDG_CONFIG_HOME", "HOME", "PATH", "LC_ALL"]

/-- The variables among `variableNames` that are set, with their values. -/
def bindings : IO (List (String × String)) :=
  variableNames.filterMapM fun name => return (← IO.getEnv name).map (name, ·)

/-- The directory with the settings of the user, by the variables of the system. -/
def userSettings : IO Config.UserSettings := do
  let configHome ← IO.getEnv "XDG_CONFIG_HOME"
  let home ← IO.getEnv "HOME"
  return .ofVariables (configHome.map .mk) (home.map .mk)

/-- The tree `t` with the files that a command line and its configuration name. -/
def namedFiles (t : FileTree) (settings : Config.UserSettings) (line : CommandLine.SearchLine) :
    IO FileTree := do
  let searched := Config.searchPaths settings line.configFile
  let t ← searched.foldlM (fun t p => addFile t p.text) t
  let script := match Config.load t searched with
    | .ok c => (c.override line.overrides).scriptPath
    | .error _ => none
  script.toList.foldlM (fun t p => addFile t p.text) t

/-- What surrounds a command line, but for its input. -/
def surroundings (words : List String) : IO CommandLine.Surroundings := do
  let settings ← userSettings
  let t ← currentTree
  let files ← match CommandLine.parse words with
    | .error _ => pure t
    | .ok line => namedFiles t settings line
  return { files, userSettings := settings, bindings := ← bindings }

/-- The time of the system as a text, as lines of the log show it. -/
def now : IO String := do
  let t ← Std.Time.Timestamp.now
  return Text.ofMicroseconds (t.toNanosecondsSinceUnixEpoch.val.toNat / 1000)

/-- Writes to the terminal, each text to the stream that receives it. -/
def write (writes : List TerminalWrite) : IO Unit := do
  let output ← IO.getStdout
  let error ← IO.getStderr
  for w in writes do
    output.putStr w.output
    error.putStr (w.error (← now))
  output.flush
  error.flush

/-- Whether a question has been asked last of all. -/
def asks (writes : List TerminalWrite) : Bool :=
  match writes.getLast? with
  | some (.question ..) => true
  | _ => false

/-- A line of the standard input; nothing at its end, or if the line is no text. -/
def readLine : IO String := do
  try (← IO.getStdin).getLine catch _ => return ""

/-- Runs a command line. A run without any input ends with the question, if there is one; only then
is a line of input read. -/
def run (words : List String) : IO UInt32 := do
  let around ← surroundings words
  let unanswered := CommandLine.run words around
  write unanswered.writes
  if asks unanswered.writes then
    let line ← readLine
    let ending := CommandLine.run words { around with input := line.toUTF8.toList }
    write (ending.writes.drop unanswered.writes.length)
    return ending.exitCode.toUInt32
  else return unanswered.exitCode.toUInt32

end SelectorSearch.Main

/-- Runs the program with the `words` of its command line. -/
def main (words : List String) : IO UInt32 :=
  SelectorSearch.Main.run words
