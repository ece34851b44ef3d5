import SelectorSearch.Path

/-!
# Configuration

The settings of a search: the executable that runs the search tool, with one for each platform
that overrides it, the script, the file extension, the patterns to ignore, and two durations in
milliseconds. What the command line gives takes precedence over the file.

## Main results

* `executableFor_override`: an executable from the command line runs on every platform.
-/

namespace SelectorSearch

/-- The platforms that can have an executable of their own, and all `other` ones. -/
inductive Platform where
  | osx
  | windows
  | linux
  | other
  deriving DecidableEq, Repr

/-- The settings of a search, with the values that hold where no file and no command line gives
others. -/
structure Config where
  /-- Runs the search tool where the platform has no executable of its own. -/
  nodePath : Path := ⟨"node"⟩
  nodePathOsx : Option Path := none
  nodePathWindows : Option Path := none
  nodePathLinux : Option Path := none
  /-- Comes before all other arguments of the executable. -/
  scriptPath : Option Path := none
  /-- The extension of the files to search. -/
  extension : Option String := some "html"
  /-- The patterns to ignore. -/
  ignore : List String := [".git", "node_modules"]
  /-- The time between two ticks of a session. -/
  tickIntervalMs : UInt64 := 100
  /-- The time that a process has to end when it is asked to. -/
  terminateTimeoutMs : UInt64 := 2000
  deriving DecidableEq, Repr

namespace Config

/-- The executable of a platform's own, if the configuration has one. -/
def ownExecutable? (c : Config) : Platform → Option Path
  | .osx => c.nodePathOsx
  | .windows => c.nodePathWindows
  | .linux => c.nodePathLinux
  | .other => none

/-- The executable that runs the search tool on a platform: its own one, or else the one for all. -/
def executableFor (c : Config) (platform : Platform) : Path :=
  (c.ownExecutable? platform).getD c.nodePath

/-- The time between two ticks, which is never zero. -/
def tickInterval (c : Config) : UInt64 :=
  max c.tickIntervalMs 1

/-- Settings that the command line gives, each of which may be missing. -/
structure Overrides where
  node : Option Path := none
  script : Option Path := none
  extension : Option String := none
  ignore : List String := []
  deriving DecidableEq, Repr

/-- The configuration with `node` as its executable, on every platform. -/
def withNode (c : Config) (node : Path) : Config :=
  { c with nodePath := node, nodePathOsx := none, nodePathWindows := none, nodePathLinux := none }

/-- The configuration with what the command line gives in place of what it has. -/
def override (c : Config) (o : Overrides) : Config :=
  let c := (o.node.map c.withNode).getD c
  { c with
    scriptPath := o.script <|> c.scriptPath
    extension := o.extension <|> c.extension
    ignore := if o.ignore.isEmpty then c.ignore else o.ignore }

/-- **An executable from the command line runs on every platform**, whatever the configuration `c`
has. -/
theorem executableFor_override (c : Config) {o : Overrides} {node : Path} (h : o.node = some node)
    (platform : Platform) : (c.override o).executableFor platform = node := by
  cases platform <;> simp [override, h, withNode, executableFor, ownExecutable?]

end Config

end SelectorSearch
