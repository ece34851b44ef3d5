import SelectorSearch.FileTree
import SelectorSearch.Request

/-!
# Invocations of the Search Tool

The command line that runs the search tool: the executable, its arguments and the directory it
runs in. The arguments are the script if there is one, then the selector, the extension and the
patterns each behind its flag, then a flag that asks for messages, and the paths at the end.

Inside a working directory means inside the primary path, or inside the folder that contains it if
it is a file.
-/

namespace SelectorSearch

/-- A command line of the search tool, with the directory that it runs in if that is not the current
one. -/
structure Invocation where
  executable : Path
  selector : String
  script : Option Path := none
  extension : Option String := none
  /-- The patterns to ignore, separated by commas. -/
  ignore : Option String := none
  paths : List Path := []
  workingDirectory : Option Path := none
  deriving DecidableEq, Repr

namespace Invocation

/-- A flag with its value behind it, and nothing if there is no value. -/
def flag (name : String) : Option String → List String
  | none => []
  | some value => [name, value]

/-- The arguments of the executable: a script if there is one, the flags with their values, and the
paths. -/
def arguments (i : Invocation) : List String :=
  (i.script.map Path.text).toList ++ ["--selector", i.selector] ++ flag "--extension" i.extension
    ++ flag "--ignore" i.ignore ++ ["--json"] ++ i.paths.map Path.text

end Invocation

namespace SearchRequest

/-- The directory in which a search of a path runs: the path, or what contains it if it is a
file. -/
def directoryOf (t : FileTree) (p : Path) : Path :=
  if t.isFile p then p.parent?.getD p else p

/-- The patterns to ignore, separated by commas, if there are any. -/
def joinedPatterns (patterns : List String) : Option String :=
  if patterns.isEmpty then none else some (String.intercalate "," patterns)

/-- The directory that the tool runs in, where the mode of the request asks for one. -/
def workingDirectory (r : SearchRequest) (t : FileTree) : Option Path :=
  match r.mode with
  | .workingDirectory => some (directoryOf t r.primaryPath)
  | .explicitPaths => none

/-- The paths that the tool gets as arguments, which are none if it runs inside the path. -/
def argumentPaths (r : SearchRequest) : List Path :=
  match r.mode with
  | .workingDirectory => []
  | .explicitPaths => r.paths

/-- The command line that a request asks for, in a tree that says where it runs. -/
def invocation (r : SearchRequest) (t : FileTree) : Invocation :=
  { executable := r.options.executable
    selector := r.selector
    script := r.options.script
    extension := r.options.extension
    ignore := joinedPatterns r.options.ignore
    paths := r.argumentPaths
    workingDirectory := r.workingDirectory t }

end SearchRequest

end SelectorSearch
