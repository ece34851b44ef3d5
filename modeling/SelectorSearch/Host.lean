import SelectorSearch.Search
import SelectorSearch.Session.Run

/-!
# Search Commands in a Host

A host is what a search command runs in, an editor or a terminal: it knows the active file, the
selected text and the project folders, can ask the user for a line of text, opens result views and
shows dialogs. Everything a command does to its host is one `HostEffect`.

A command finds out what to search, asks for a selector, launches the search, shows its session in
a new view, and at the end a dialog if the session needs one. Every failure on the way ends in
exactly one dialog.
-/

namespace SelectorSearch

/-- What a search command runs in: what is open and selected, the platform, and the user who answers
questions. -/
structure Host where
  activeFile : Option Path := none
  /-- The text that is selected in the active file. -/
  selection : Option String := none
  folders : List Path := []
  platform : Platform := .linux
  /-- What the user answers to a prompt that starts with a text; nothing if the prompt is
  dismissed. -/
  answer : (initial : String) → Option String := fun _ => none

/-- What is done to a host: a question, a view that is opened and changed, or a dialog. -/
inductive HostEffect where
  | prompt (caption initial : String)
  | openView
  /-- Something is done to the view that was opened last. -/
  | view (e : ViewEvent)
  | dialog (text : String)
  deriving DecidableEq, Repr

/-- The caption of the prompt for a selector. -/
def promptCaption : String := "Find elements matching CSS selector:"

/-- Launches a search: it fails, or gives what will surround the session at each of its ticks. -/
abbrev Launcher := SearchRequest → Except LaunchError (List Moment)

namespace SearchCommand

/-- What to search: the scope, and the selector that the user gives. A dismissed prompt makes no
request. -/
def prepare (command : SearchCommand) (selected : List Path) (host : Host) (config : Config) :
    List HostEffect × Except SearchError (Option SearchRequest) :=
  match command.scope selected host.activeFile host.folders with
  | .error e => ([], .error e)
  | .ok paths =>
    let initial := host.selection.getD ""
    let effects := [.prompt promptCaption initial]
    match host.answer initial with
    | none => (effects, .ok none)
    | some selector =>
      let options := config.options host.platform
      (effects, ((SearchRequest.make selector paths options command.mode).mapError .request).map
        some)

/-- What a session does to its view, without what it does to its worker. -/
def viewEvents (effects : List SessionEffect) : List ViewEvent :=
  effects.filterMap fun
    | .view e => some e
    | .stopWorker => none

/-- What a session does to the host from its start to its dialog: it opens a view, sets it up and
shows messages in it. -/
def sessionEffects (selector : String) (session : FinishedRun) : List HostEffect :=
  .openView :: (openingEvents selector ++ viewEvents session.effects).map .view
    ++ (session.report.errorMessage.map .dialog).toList

/-- A whole command: what it does to the host, and the report of its session if there was one. -/
def run (command : SearchCommand) (selected : List Path) (host : Host) (config : Config)
    (launch : Launcher) : List HostEffect × Except SearchError (Option SessionReport) :=
  match command.prepare selected host config with
  | (effects, .error e) => (effects ++ [.dialog e.userMessage], .error e)
  | (effects, .ok none) => (effects, .ok none)
  | (effects, .ok (some request)) =>
    match launch request with
    | .error e =>
      let e := SearchError.launch e
      (effects ++ [.dialog e.userMessage], .error e)
    | .ok schedule =>
      let session := SessionWorld.finish schedule
      (effects ++ sessionEffects request.selector session, .ok (some session.report))

end SearchCommand

end SelectorSearch
