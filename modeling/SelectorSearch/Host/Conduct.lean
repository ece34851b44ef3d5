import SelectorSearch.Host

/-!
# The Conduct of a Search Command

Everything a command does, in its order: what it does to its host, the launch of the search, and
the stop of the worker. Leaving out the last two gives what is done to the host, and the launcher
matters only for the requests that are launched.

## Main results

* `run_eq`: what a command does to its host, and its result, by its acts.
* `acts_congr`: two launchers that agree on what is launched lead to the same acts.
-/

namespace SelectorSearch

/-- One thing that a command does: something to its host, a launch, or a demand to its worker to
stop. -/
inductive CommandAct where
  | host (e : HostEffect)
  /-- A search is launched, with or without success. -/
  | launch (request : SearchRequest)
  | stopWorker
  deriving DecidableEq, Repr

namespace CommandAct

/-- What a session does, as an act of its command. -/
def ofSession : SessionEffect → CommandAct
  | .view e => .host (.view e)
  | .stopWorker => .stopWorker

/-- What is done to the host, for an act that does something to it. -/
def host? : CommandAct → Option HostEffect
  | .host e => some e
  | .launch _ | .stopWorker => none

/-- The request of a launch, for an act that is one. -/
def launched? : CommandAct → Option SearchRequest
  | .launch request => some request
  | .host _ | .stopWorker => none

@[simp] theorem host?_host (e : HostEffect) : host? (.host e) = some e := rfl

@[simp] theorem host?_launch (request : SearchRequest) : host? (.launch request) = none := rfl

/-- Of acts that are all on the host, the host sees all. -/
theorem filterMap_host?_map {α : Type} (effect : α → HostEffect) (xs : List α) :
    (xs.map fun x => CommandAct.host (effect x)).filterMap host? = xs.map effect := by
  induction xs with
  | nil => rfl
  | cons x rest ih => simp only [List.map_cons, List.filterMap_cons, host?_host, ih]

/-- Of what a session does, the host sees what is done to the view, and nothing of the worker. -/
theorem filterMap_host?_map_ofSession (effects : List SessionEffect) :
    (effects.map ofSession).filterMap host? =
      (SearchCommand.viewEvents effects).map .view := by
  rw [List.filterMap_map, SearchCommand.viewEvents, List.map_filterMap]
  congr 1
  funext e
  cases e <;> rfl

end CommandAct

namespace SearchCommand

open CommandAct

/-- What is done from the launch of a search to the dialog of its session, in its order. -/
def sessionActs (request : SearchRequest) (session : FinishedRun) : List CommandAct :=
  .launch request :: .host .openView ::
    (openingEvents request.selector).map (fun e => .host (.view e)) ++
    session.effects.map ofSession ++
    session.report.errorMessage.toList.map (fun text => .host (.dialog text))

/-- A whole command: everything that it does, and the report of its session if there was one. -/
def acts (command : SearchCommand) (selected : List Path) (host : Host) (config : Config)
    (launch : Launcher) : List CommandAct × Except SearchError (Option SessionReport) :=
  match command.prepare selected host config with
  | (effects, .error e) => (effects.map .host ++ [.host (.dialog e.userMessage)], .error e)
  | (effects, .ok none) => (effects.map .host, .ok none)
  | (effects, .ok (some request)) =>
    match launch request with
    | .error e =>
      let e := SearchError.launch e
      (effects.map .host ++ [.launch request, .host (.dialog e.userMessage)], .error e)
    | .ok schedule =>
      let session := SessionWorld.finish schedule
      (effects.map .host ++ sessionActs request session, .ok (some session.report))

variable (command : SearchCommand) (selected : List Path) (host : Host) (config : Config)

/-- The host sees of a session its view and its dialog, which are its `sessionEffects`. -/
theorem filterMap_host?_sessionActs (request : SearchRequest) (session : FinishedRun) :
    (sessionActs request session).filterMap host? = sessionEffects request.selector session := by
  simp only [sessionActs, sessionEffects, List.cons_append, List.filterMap_cons,
    List.filterMap_append, host?_launch, host?_host, filterMap_host?_map,
    filterMap_host?_map_ofSession, List.map_append, Option.toList_map]

/-- **A command is its acts**: what it does to its host, and its result, are those of `acts`. -/
theorem run_eq (launch : Launcher) :
    command.run selected host config launch =
      ((command.acts selected host config launch).1.filterMap host?,
        (command.acts selected host config launch).2) := by
  have hhost (effects : List HostEffect) :
      (effects.map CommandAct.host).filterMap host? = effects := by
    simpa using filterMap_host?_map id effects
  rw [run, acts]
  obtain ⟨effects, e | _ | request⟩ := command.prepare selected host config
  · simp only [List.filterMap_append, hhost]
    rfl
  · simp only [hhost]
  · dsimp only
    cases launch request with
    | error e =>
        simp only [List.filterMap_append, hhost]
        rfl
    | ok schedule => simp only [List.filterMap_append, hhost, filterMap_host?_sessionActs]

/-- **Launchers matter only for what is launched**: two of them that agree on that lead to the same
acts and to the same result. -/
theorem acts_congr {launch launch' : Launcher}
    (h : ∀ request ∈ (command.acts selected host config launch).1.filterMap launched?,
      launch request = launch' request) :
    command.acts selected host config launch = command.acts selected host config launch' := by
  rw [acts] at h
  rw [acts, acts]
  generalize command.prepare selected host config = prepared at h
  obtain ⟨effects, e | _ | request⟩ := prepared
  · rfl
  · rfl
  · have hagree : launch request = launch' request := by
      refine h request ?_
      dsimp only
      cases launch request <;> simp [sessionActs, launched?]
    dsimp only
    rw [hagree]

end SearchCommand

end SelectorSearch
