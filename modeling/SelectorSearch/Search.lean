import SelectorSearch.Launch
import SelectorSearch.Request

/-!
# Search Commands

The two commands that a user can give, where they apply, and which paths they search.

What is selected is searched. If nothing is, the project folders that contain the active file
are; containment goes by the components of paths. One command searches all of these folders, the
other one only the first.

## Main results

* `scope_ne_nil`: what is searched is never nothing.
* `scope_selectedPaths`: the second command searches the first path of the first command.
-/

namespace SelectorSearch

/-- The two commands: one searches folders, the other one a single path from within. -/
inductive SearchCommand where
  /-- Searches all selected folders, handed over as arguments. -/
  | selectedFolders
  /-- Searches one selected file or folder, from inside. -/
  | selectedPaths
  deriving DecidableEq, Repr

/-- Where a command is given: in the side bar, or in the command palette. -/
inductive CommandSource where
  | sideBar
  | commandPalette
  deriving DecidableEq, Repr

/-- Why a search does not start. -/
inductive SearchError where
  /-- Nothing is selected, and no project folder contains the active file. -/
  | invalidDirectory
  | request (e : RequestError)
  | launch (e : LaunchError)
  deriving DecidableEq, Repr

namespace SearchError

/-- The wording of an error, for the log. -/
def message : SearchError → String
  | .invalidDirectory => "No directory to search"
  | .request e => e.message
  | .launch e => e.message

/-- What the user is told about an error, in a dialog. -/
def userMessage : SearchError → String
  | .invalidDirectory =>
    "Element Finder doesn't know which directory to search in. "
      ++ "Right-click a folder in the Side Bar and select 'Find Elements in Folder...'."
  | .request e => "Element Finder: " ++ e.message
  | .launch (.executableNotFound p) =>
    "Could not find Node JS at " ++ p.text ++ ". Check your Element Finder preferences."
  | .launch e => "Element Finder could not start: " ++ e.message

end SearchError

namespace SearchCommand

/-- How the paths of a command are handed over to the search tool. -/
def mode : SearchCommand → InvocationMode
  | .selectedFolders => .explicitPaths
  | .selectedPaths => .workingDirectory

/-- Whether a menu lists the command. In the side bar the folders command needs exactly one
folder. -/
def isVisible (command : SearchCommand) (source : CommandSource) (selected : List Path) : Bool :=
  match command, source with
  | .selectedFolders, .sideBar => selected.length = 1
  | _, _ => true

/-- The paths that a command takes of those that are there: all of them, or the first one. -/
def take (command : SearchCommand) (paths : List Path) : List Path :=
  match command with
  | .selectedFolders => paths
  | .selectedPaths => paths.take 1

/-- The project folders that contain the active file, with repetitions and in their order. -/
def containing (activeFile : Option Path) (folders : List Path) : List Path :=
  match activeFile with
  | none => []
  | some file => folders.filter file.startsWith

/-- The paths that a command can choose from: what is selected, or else the folders that contain the
active file. -/
def candidates (selected : List Path) (activeFile : Option Path) (folders : List Path) :
    List Path :=
  if selected.isEmpty then containing activeFile folders else selected

/-- The paths that a command searches, of which there must be one at least. -/
def scope (command : SearchCommand) (selected : List Path) (activeFile : Option Path)
    (folders : List Path) : Except SearchError (List Path) :=
  let paths := candidates selected activeFile folders
  if paths.isEmpty then .error .invalidDirectory else .ok (command.take paths)

/-- What is searched is never nothing. -/
theorem scope_ne_nil {command : SearchCommand} {selected folders paths : List Path}
    {activeFile : Option Path} (h : command.scope selected activeFile folders = .ok paths) :
    paths ≠ [] := by
  simp only [scope] at h
  split at h
  · cases h
  · rename_i hne
    cases h
    cases command
    · simpa [take] using hne
    · simpa [take, List.isEmpty_iff] using hne

/-- **The paths command searches the first path of what the folders command searches**, and fails
with it. -/
theorem scope_selectedPaths (selected folders : List Path) (activeFile : Option Path) :
    scope .selectedPaths selected activeFile folders =
      (scope .selectedFolders selected activeFile folders).map (·.take 1) := by
  simp only [scope]
  split <;> rfl

end SearchCommand

end SelectorSearch
