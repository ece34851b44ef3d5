import SelectorSearch.CommandLine
import SelectorSearch.Config.Loader
import SelectorSearch.Terminal
import SelectorSearch.Text.Timestamp
import SelectorSearch.Worker.Launch

/-!
# Running a Command Line

What the program writes and how it ends, given its words, its standard input and the files around
it. The configuration file is read first, and the command line goes over it. Then the search runs
with the terminal as its host: the active file, the selected text, the project folders and the
selector come from the command line, the folders from the current directory if there are none,
and the selector from the standard input if there is none.

Between what a command does to the terminal stand the lines of the log, those of the command itself
and of the driver of its session. The thread of the worker logs at moments of its own, of which a
run knows nothing; the laws of the display allow a line of the log anywhere. A script that the
search runs can call the program again, which then finds the files and the variables of that script.

## Main results

* `filterMap_effect?_events`: the log changes nothing about what a command does to the terminal.
* `run_of_configError`: a configuration that cannot be had is the one failure that is shown.
* `exitCode_eq_zero_iff`: a command succeeds if its session does, or if the question was dismissed.
-/

namespace SelectorSearch

/-! ### The log of a command -/

/-- What is logged about a search that does not start, with the reason. -/
def SearchError.logged (e : SearchError) : LogRecord where
  level := .error
  origin := "element_finder::commands::search"
  message := "Search could not start"
  values := [("error", e.message)]

namespace SearchCommand

/-- What is logged right before an effect of a command that ends with a `result`: before the dialog
of an error, why the search could not start, and before the status of a session is erased, how the
session ended. -/
def loggedBefore (session : String) (result : Except SearchError (Option SessionReport)) :
    HostEffect → List LogRecord
  | .dialog _ =>
    match result with
    | .error e => [e.logged]
    | .ok _ => []
  | .view (.eraseStatus _) =>
    match result with
    | .ok (some report) => (report.outcome.logged? session).toList
    | _ => []
  | _ => []

/-- What reaches the terminal from a command with some `effects` and a `result`: its effects, with
the lines of the log where they are written. -/
def events (logging : Logging) (result : Except SearchError (Option SessionReport))
    (effects : List HostEffect) : List Terminal.Event :=
  effects.flatMap fun e =>
    ((loggedBefore logging.session result e).filter logging.keeps).map .log ++ [.effect e]

/-- **The log changes nothing about what a command does**: the effects among its `events` are its
`effects`, whatever is logged. -/
theorem filterMap_effect?_events (logging : Logging)
    (result : Except SearchError (Option SessionReport)) (effects : List HostEffect) :
    (events logging result effects).filterMap Terminal.Event.effect? = effects := by
  have hlog (records : List LogRecord) :
      (records.map Terminal.Event.log).filterMap Terminal.Event.effect? = [] := by
    rw [List.filterMap_map]
    exact List.filterMap_eq_nil_iff.mpr fun _ _ => rfl
  induction effects with
  | nil => rfl
  | cons e rest ih =>
      rw [events, List.flatMap_cons, List.filterMap_append, List.filterMap_append, hlog]
      exact congrArg (e :: ·) ih

end SearchCommand

namespace CommandLine

/-! ### Runs -/

/-- What surrounds a run of the program: the files, the user with the input that is typed, and the
variables. -/
structure Surroundings where
  files : FileTree
  userSettings : Config.UserSettings
  input : List UInt8 := []
  /-- The variables that the program and its children see. Unless they are given, they turn the log
  off. -/
  bindings : List (String × String) := [("RUST_LOG", "off")]

/-- What a run of the program leaves behind: its exit code, and all that it has written. -/
structure Ending where
  exitCode : UInt8
  writes : List TerminalWrite := []
  deriving DecidableEq, Repr

/-- The name and the version of the program, as one line. -/
def versionText : String := "element-finder 0.1.0\n"

/-- How to use the program, which is what help shows. -/
def usage : String :=
  "Find elements matching a CSS selector\n\n"
    ++ "Usage: element-finder [OPTIONS] <COMMAND> [SEARCH OPTIONS] [PATHS]...\n\n"
    ++ "Commands:\n"
    ++ "  folders  Search in the selected folders\n"
    ++ "  paths    Search in a selected file or folder\n"
    ++ "  help     Print this message\n\n"
    ++ "Options:\n"
    ++ "  -v, --verbose          Increase verbosity (-v, -vv, -vvv)\n"
    ++ "      --config <FILE>    Config file\n"
    ++ "  -h, --help             Print help\n"
    ++ "  -V, --version          Print version\n\n"
    ++ "Search options:\n"
    ++ "  -s, --selector <TEXT>     Selector to search for\n"
    ++ "      --selection <TEXT>    Text used to prefill the prompt\n"
    ++ "      --active-file <FILE>  File treated as open\n"
    ++ "      --folder <FOLDER>     Project folder (repeatable)\n"
    ++ "      --node <FILE>         Executable that runs the search tool\n"
    ++ "      --script <FILE>       Script passed to the executable\n"
    ++ "      --extension <TEXT>    File extension to search\n"
    ++ "      --ignore <PATTERN>    Pattern to ignore (repeatable)\n"

/-- How a run ends that does no search: help and the version are results, and refused words have the
code 2. -/
def Stop.ending : Stop → Ending
  | .help => ⟨0, [.results usage]⟩
  | .version => ⟨0, [.results versionText]⟩
  | .refused => ⟨2, []⟩

/-- The terminal as a command line describes it: what is active and selected comes from options, and
answers from the input. -/
def SearchLine.host (line : SearchLine) (around : Surroundings) : Host where
  activeFile := line.activeFile
  selection := line.selection
  folders := if line.folders.isEmpty then [around.files.currentPath] else line.folders
  platform := .linux
  answer initial := line.selector <|> Terminal.answer? around.input initial

/-- The code that a session ends with: 130 if it was cancelled, one if it has something to tell, and
otherwise zero. -/
def sessionExitCode (report : SessionReport) : UInt8 :=
  match report.outcome with
  | .completed _ => if report.malformed.isEmpty then 0 else 1
  | .cancelled => 130
  | _ => 1

/-- The code that a search command ends with: that of its session, one for an error, and zero for a
dismissed question. -/
def exitCode : Except SearchError (Option SessionReport) → UInt8
  | .ok (some report) => sessionExitCode report
  | .ok none => 0
  | .error _ => 1

/-- What is logged in a run of a command line, by its flags and the variable for the log. -/
def SearchLine.logging (line : SearchLine) (around : Surroundings) : Logging :=
  .ofBindings around.bindings line.verbosity

/-- The run of a command line in some `host`, with some outcome of reading the configuration, some
launcher for each configuration, and a log. -/
def SearchLine.endingIn (line : SearchLine) (host : Host) (loaded : Except ConfigError Config)
    (launch : Config → Launcher) (logging : Logging) : Ending :=
  match loaded with
  | .error e => ⟨1, [.failure e.message]⟩
  | .ok config =>
    let config := config.override line.overrides
    let (effects, result) := line.command.run line.paths host config (launch config)
    ⟨exitCode result,
      Terminal.writes line.selector.isNone (SearchCommand.events logging result effects)⟩

/-- Runs a search with its `config`, in an environment for its process. -/
def SearchLine.search (line : SearchLine) (environment : Shell.Environment) (around : Surroundings)
    (config : Config) : Ending :=
  line.endingIn (line.host around) (.ok config)
    (fun config => config.launch around.files .onInterrupt environment) (line.logging around)

/-- Reads the configuration and runs a search with it, in an environment for its process. -/
def SearchLine.run (line : SearchLine) (environment : Shell.Environment) (around : Surroundings) :
    Ending :=
  line.endingIn (line.host around)
    (Config.load around.files (Config.searchPaths around.userSettings line.configFile))
    (fun config => config.launch around.files .onInterrupt environment) (line.logging around)

/-- Runs the program on some `words`, in an environment for the process of its search. -/
def runIn (environment : Shell.Environment) (words : List String) (around : Surroundings) :
    Ending :=
  match parse words with
  | .error stop => stop.ending
  | .ok line => line.run environment around

/-! ### Runs within runs -/

/-- The time that a run within another one shows, where clocks start with their process. -/
def startTime : String := Text.ofMicroseconds 0

/-- What a caller gets from a run: both streams, in the order of the writes, and the code. -/
def Ending.outcome (e : Ending) : Shell.Outcome where
  written := e.writes.flatMap fun w =>
    [(.output, Shell.bytesOfString w.output), (.error, Shell.bytesOfString (w.error startTime))]
  code := e.exitCode.toNat

/-- What surrounds a run that a script calls, which keeps the settings of the user. -/
def Surroundings.called (around : Surroundings) (call : Shell.Call) : Surroundings :=
  { around with files := call.files, input := call.input, bindings := call.bindings }

/-- The program as a script can call it, if runs may be `depth` deep within one another. -/
def callable : (depth : Nat) → Surroundings → Option (Shell.Call → Shell.Outcome)
  | 0, _ => none
  | depth + 1, around =>
    some fun call =>
      let around := around.called call
      (runIn ⟨around.bindings, callable depth around⟩ call.args around).outcome

/-- How deep runs may be within one another before a call finds no program. -/
def maxDepth : Nat := 4

/-- What the process of a search finds: the variables of the program, and the program itself. -/
def Surroundings.environment (around : Surroundings) : Shell.Environment :=
  ⟨around.bindings, callable maxDepth around⟩

/-- Runs the program on some `words`, with all that surrounds it. -/
def run (words : List String) (around : Surroundings) : Ending :=
  runIn around.environment words around

/-- **A configuration that cannot be had is the one failure that is shown**, and nothing is
logged. -/
theorem run_of_configError {words : List String} {around : Surroundings} {line : SearchLine}
    {e : ConfigError} (hp : parse words = .ok line)
    (hc : Config.load around.files (Config.searchPaths around.userSettings line.configFile) =
      .error e) :
    run words around = ⟨1, [.failure e.message]⟩ := by
  simp [run, runIn, SearchLine.run, SearchLine.endingIn, hp, hc]

/-- **A command ends with zero** exactly if its question was dismissed, or its session completed
with no malformed line. -/
theorem exitCode_eq_zero_iff (result : Except SearchError (Option SessionReport)) :
    exitCode result = 0 ↔ result = .ok none ∨
      ∃ report summary, result = .ok (some report) ∧ report.outcome = .completed summary ∧
        report.malformed = [] := by
  match result with
  | .error _ => simp [exitCode]
  | .ok none => simp [exitCode]
  | .ok (some report) =>
    cases h : report.outcome <;> simp [exitCode, sessionExitCode, h]

end CommandLine

end SelectorSearch
