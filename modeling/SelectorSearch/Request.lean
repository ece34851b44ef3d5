import SelectorSearch.Config
import SelectorSearch.Text.Blank

/-!
# Search Requests

What is to be searched: a selector that is not blank, at least one path, the options of the search
tool, and whether the tool runs inside the first path or gets all of them as arguments.

## Main results

* `primaryPath_mem`: the primary path is one of the paths.
* `make_ok_iff`: a request can be made of what is not blank and not empty.
-/

namespace SelectorSearch

/-- How the paths are handed to the search tool: as arguments, or as the directory that it runs
in. -/
inductive InvocationMode where
  /-- The tool runs inside the first path; the others do not count. -/
  | workingDirectory
  /-- Every path is an argument. -/
  | explicitPaths
  deriving DecidableEq, Repr, Inhabited

/-- The options of the search tool, the executable and the script that runs it included. -/
structure SearchOptions where
  executable : Path
  script : Option Path
  extension : Option String
  ignore : List String
  deriving DecidableEq, Repr

/-- The options that a configuration gives on a platform. -/
def Config.options (c : Config) (platform : Platform) : SearchOptions :=
  { executable := c.executableFor platform
    script := c.scriptPath
    extension := c.extension
    ignore := c.ignore }

/-- What is to be searched, and how, with the proof that there is a selector and a path. -/
structure SearchRequest where
  selector : String
  paths : List Path
  options : SearchOptions
  mode : InvocationMode
  selector_not_blank : Text.allBlank selector = false
  paths_ne_nil : paths ≠ []
  deriving DecidableEq, Repr

/-- Why a request cannot be made. -/
inductive RequestError where
  | emptySelector
  | noTargets
  deriving DecidableEq, Repr

/-- The wording of an error. -/
def RequestError.message : RequestError → String
  | .emptySelector => "Selector is empty"
  | .noTargets => "No files or folders to search"

namespace SearchRequest

/-- A request, if the `selector` is not blank and there is a path. -/
def make (selector : String) (paths : List Path) (options : SearchOptions)
    (mode : InvocationMode) : Except RequestError SearchRequest :=
  if hs : Text.allBlank selector = true then .error .emptySelector
  else if hp : paths = [] then .error .noTargets
  else .ok ⟨selector, paths, options, mode, by simpa using hs, hp⟩

/-- The first path of a request, which every request has. -/
def primaryPath (r : SearchRequest) : Path :=
  r.paths.head r.paths_ne_nil

/-- The primary path is one of the paths of a request. -/
theorem primaryPath_mem (r : SearchRequest) : r.primaryPath ∈ r.paths :=
  List.head_mem r.paths_ne_nil

/-- **A request can be made** exactly of a `selector` that is not blank and of at least one path. -/
theorem make_ok_iff {selector : String} {paths : List Path} {options : SearchOptions}
    {mode : InvocationMode} :
    (∃ r, make selector paths options mode = .ok r) ↔
      Text.allBlank selector = false ∧ paths ≠ [] := by
  unfold make
  by_cases hs : Text.allBlank selector = true
  · simp [hs]
  · by_cases hp : paths = [] <;> simp [hs, hp]

end SearchRequest

end SelectorSearch
