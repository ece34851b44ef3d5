import SelectorSearch.Path

/-!
# Launch Errors

Why a process or its worker could not be started.
-/

namespace SelectorSearch

/-- Why a worker could not be started. -/
inductive LaunchError where
  /-- The executable, or the directory to run it in, does not exist. -/
  | executableNotFound (executable : Path)
  | permissionDenied (executable : Path)
  /-- The system refused for another reason. -/
  | refused (reason : String)
  /-- There is no runtime for the worker. -/
  | noRuntime (reason : String)
  /-- There is no thread for the worker. -/
  | noThread (reason : String)
  /-- The process has no pipe of this name. -/
  | missingPipe (name : String)
  deriving DecidableEq, Repr

namespace LaunchError

/-- The wording of an error, which names the executable or gives the reason of the system. -/
def message : LaunchError → String
  | .executableNotFound p => "Executable not found: " ++ p.text
  | .permissionDenied p => "Permission denied: " ++ p.text
  | .refused reason => "I/O error: " ++ reason
  | .noRuntime reason => "Failed to build worker runtime: " ++ reason
  | .noThread reason => "Failed to start worker thread: " ++ reason
  | .missingPipe name => "Process " ++ name ++ " not available"

/-- Whether the error is that the executable was not found. -/
def isExecutableNotFound : LaunchError → Bool
  | .executableNotFound _ => true
  | _ => false

end LaunchError

end SelectorSearch
