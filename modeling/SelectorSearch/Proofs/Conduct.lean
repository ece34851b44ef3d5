import SelectorSearch.Host.Conduct
import SelectorSearch.Proofs.Drained

/-!
# What a Command Does

A command goes one of five ways. Without a scope it shows a dialog. Otherwise it asks its one
question, and ends there if the question is dismissed, in a dialog if the answer is blank or the
search cannot be launched, and else in a session. There is one lemma for each way, with everything
that is done on it and the result.

What a session does to its view is known from the messages that it has drained
(`SessionWorld.reached_finish`), so the last way is known to its end, the dialog of the report.

## Main results

* `filterMap_dialog?_run`: the dialogs of a command are those of its result.
* `sessionActs_eq`: what is done from the launch to the dialog.
* `acts_cases`: the five ways, with everything that is done on each of them.
-/

namespace SelectorSearch

open Session

/-- A blank `selector` makes no request, whatever there is to search. -/
theorem SearchRequest.make_of_blank {selector : String} (h : Text.allBlank selector = true)
    (paths : List Path) (options : SearchOptions) (mode : InvocationMode) :
    make selector paths options mode = .error .emptySelector := by
  rw [make, dif_pos h]

/-- A `selector` that is not blank makes a request, if there is a path to search. -/
theorem SearchRequest.make_of_not_blank {selector : String} {paths : List Path}
    (h : Text.allBlank selector = false) (hp : paths ≠ []) (options : SearchOptions)
    (mode : InvocationMode) :
    ∃ request, make selector paths options mode = .ok request ∧ request.selector = selector := by
  rw [make, dif_neg (by simp [h]), dif_neg hp]
  exact ⟨_, rfl, rfl⟩

/-- A request that was made has the selector, the paths, the options and the mode that it was made
of. -/
theorem SearchRequest.of_make {selector : String} {paths : List Path} {options : SearchOptions}
    {mode : InvocationMode} {request : SearchRequest}
    (h : make selector paths options mode = .ok request) :
    request.selector = selector ∧ request.paths = paths ∧ request.options = options ∧
      request.mode = mode := by
  unfold make at h
  split at h
  · cases h
  · split at h
    · cases h
    · obtain rfl := Except.ok.inj h
      exact ⟨rfl, rfl, rfl, rfl⟩

/-- The text of a dialog, for an act on the host that shows one. -/
def HostEffect.dialog? : HostEffect → Option String
  | .dialog text => some text
  | _ => none

/-- The text that an act appends to the view, for an act that appends one. -/
def CommandAct.appended? : CommandAct → Option String
  | .host (.view (.append text)) => some text
  | _ => none

/-- What a session appends to its view is what its command appends, since its effects are acts of
the command. -/
theorem CommandAct.filterMap_appended?_map_ofSession (effects : List SessionEffect) :
    (effects.map ofSession).filterMap appended? =
      effects.filterMap SessionEffect.appended? := by
  rw [List.filterMap_map]
  congr 1
  funext e
  cases e with
  | view e => cases e <;> rfl
  | stopWorker => rfl

namespace SearchCommand

variable {command : SearchCommand} {selected paths : List Path} {host : Host} {config : Config}
  {launch : Launcher} {selector : String} {request : SearchRequest}

/-! ### Dialogs -/

/-- The dialogs that a result of a command calls for: one for an error, and one for a report that
has an error message. -/
def dialogs : Except SearchError (Option SessionReport) → List String
  | .error e => [e.userMessage]
  | .ok none => []
  | .ok (some report) => report.errorMessage.toList

/-- A command shows no dialog while it prepares its request, whether it gets one or not. -/
theorem filterMap_dialog?_prepare (command : SearchCommand) (selected : List Path) (host : Host)
    (config : Config) :
    (command.prepare selected host config).1.filterMap HostEffect.dialog? = [] := by
  rw [prepare]
  split
  · rfl
  · dsimp only
    split <;> rfl

/-- A session shows the dialog that its report calls for, and no other. -/
theorem filterMap_dialog?_sessionEffects (selector : String) (session : FinishedRun) :
    (sessionEffects selector session).filterMap HostEffect.dialog? =
      session.report.errorMessage.toList := by
  have hview (events : List ViewEvent) :
      (events.map HostEffect.view).filterMap HostEffect.dialog? = [] := by
    rw [List.filterMap_map]
    exact List.filterMap_eq_nil_iff.mpr fun _ _ => rfl
  rw [sessionEffects, List.filterMap_append, List.filterMap_cons, hview]
  cases session.report.errorMessage <;> rfl

/-- **The dialogs of a command are those of its result**: the one that an error calls for, or the
one of a session with something to tell. -/
theorem filterMap_dialog?_run (command : SearchCommand) (selected : List Path) (host : Host)
    (config : Config) (launch : Launcher) :
    (command.run selected host config launch).1.filterMap HostEffect.dialog? =
      dialogs (command.run selected host config launch).2 := by
  have hprepare := filterMap_dialog?_prepare command selected host config
  rw [run]
  generalize command.prepare selected host config = prepared at hprepare ⊢
  obtain ⟨effects, e | _ | request⟩ := prepared
  · rw [List.filterMap_append, hprepare]
    rfl
  · exact hprepare
  · dsimp only
    cases launch request with
    | error e =>
        rw [List.filterMap_append, hprepare]
        rfl
    | ok schedule =>
        rw [List.filterMap_append, hprepare, filterMap_dialog?_sessionEffects]
        rfl

/-! ### The five ways -/

/-- Without a scope there is one dialog, with the message of the error, and no question. -/
theorem acts_of_scope_error {e : SearchError}
    (h : command.scope selected host.activeFile host.folders = .error e) :
    command.acts selected host config launch = ([.host (.dialog e.userMessage)], .error e) := by
  simp [acts, prepare, h]

/-- A dismissed question is all there is: nothing is launched, and no dialog is shown. -/
theorem acts_of_dismissed (h : command.scope selected host.activeFile host.folders = .ok paths)
    (ha : host.answer (host.selection.getD "") = none) :
    command.acts selected host config launch =
      ([.host (.prompt promptCaption (host.selection.getD ""))], .ok none) := by
  simp [acts, prepare, h, ha]

/-- What an answer leads to is what the request that is made of it leads to, behind the question. -/
theorem acts_of_answer (h : command.scope selected host.activeFile host.folders = .ok paths)
    (ha : host.answer (host.selection.getD "") = some selector) :
    command.acts selected host config launch =
      let asked := CommandAct.host (.prompt promptCaption (host.selection.getD ""))
      match SearchRequest.make selector paths (config.options host.platform) command.mode with
      | .error e =>
        ([asked, .host (.dialog (SearchError.request e).userMessage)], .error (.request e))
      | .ok request =>
        match launch request with
        | .error e =>
          ([asked, .launch request, .host (.dialog (SearchError.launch e).userMessage)],
            .error (.launch e))
        | .ok schedule =>
          (asked :: sessionActs request (SessionWorld.finish schedule),
            .ok (some (SessionWorld.finish schedule).report)) := by
  simp only [acts, prepare, h, ha]
  cases SearchRequest.make selector paths (config.options host.platform) command.mode with
  | error e => rfl
  | ok request => cases launch request <;> rfl

/-- A blank answer leads to one dialog behind the question, and nothing is launched. -/
theorem acts_of_blank (h : command.scope selected host.activeFile host.folders = .ok paths)
    (ha : host.answer (host.selection.getD "") = some selector)
    (hs : Text.allBlank selector = true) :
    command.acts selected host config launch =
      ([.host (.prompt promptCaption (host.selection.getD "")),
        .host (.dialog (SearchError.request .emptySelector).userMessage)],
        .error (.request .emptySelector)) := by
  rw [acts_of_answer h ha, SearchRequest.make_of_blank hs]

/-- A launch that fails leads to one dialog behind the question and the attempt, and no view is
opened. -/
theorem acts_of_launch_error
    (h : command.scope selected host.activeFile host.folders = .ok paths)
    (ha : host.answer (host.selection.getD "") = some selector)
    (hr : SearchRequest.make selector paths (config.options host.platform) command.mode =
      .ok request) {e : LaunchError} (hl : launch request = .error e) :
    command.acts selected host config launch =
      ([.host (.prompt promptCaption (host.selection.getD "")), .launch request,
        .host (.dialog (SearchError.launch e).userMessage)], .error (.launch e)) := by
  simp only [acts_of_answer h ha, hr, hl]

/-- A launch that succeeds leads to a session, whose acts come behind the question, from the launch
to the dialog. -/
theorem acts_of_launched
    (h : command.scope selected host.activeFile host.folders = .ok paths)
    (ha : host.answer (host.selection.getD "") = some selector)
    (hr : SearchRequest.make selector paths (config.options host.platform) command.mode =
      .ok request) {schedule : List Moment} (hl : launch request = .ok schedule) :
    command.acts selected host config launch =
      (.host (.prompt promptCaption (host.selection.getD "")) ::
        sessionActs request (SessionWorld.finish schedule),
        .ok (some (SessionWorld.finish schedule).report)) := by
  simp only [acts_of_answer h ha, hr, hl]

/-- A command ends without an error and without a session exactly if there is a scope and its
question is dismissed. -/
theorem run_eq_ok_none_iff :
    (command.run selected host config launch).2 = .ok none ↔
      (∃ paths, command.scope selected host.activeFile host.folders = .ok paths) ∧
        host.answer (host.selection.getD "") = none := by
  rw [run_eq]
  cases h : command.scope selected host.activeFile host.folders with
  | error e => simp [acts_of_scope_error h]
  | ok paths =>
      cases ha : host.answer (host.selection.getD "") with
      | none => simp [acts_of_dismissed h ha]
      | some selector =>
          rw [acts_of_answer h ha]
          cases SearchRequest.make selector paths (config.options host.platform) command.mode with
          | error e => simp
          | ok request => cases hl : launch request <;> simp [hl]

/-- What is done from the launch of a search to the dialog of its session: the view is opened and
set up, the messages up to the first summary are shown in it, the worker is stopped, the status is
erased, and the dialog is shown if there is one. -/
theorem sessionActs_eq {drained : List Message} {session : FinishedRun}
    (hreport : session.world.session.report = some session.report)
    (h : Reached drained session.world.session session.effects) (request : SearchRequest) :
    sessionActs request session = .launch request :: .host .openView ::
      (openingEvents request.selector ++ (uptoSummary drained).flatMap Message.events).map
        (fun e => .host (.view e)) ++
      [.stopWorker, .host (.view (.eraseStatus statusKey))] ++
      session.report.errorMessage.toList.map (fun text => .host (.dialog text)) := by
  have heffects : session.effects = shown (uptoSummary drained) ++
      [.stopWorker, .view (.eraseStatus statusKey)] := by
    rw [h.effects_eq, lastEffects, hreport]
    rfl
  rw [sessionActs, heffects]
  simp [shown, CommandAct.ofSession]

/-- From the launch to the dialog, the bodies of the messages that were shown are appended to the
view, and nothing else. -/
theorem filterMap_appended?_sessionActs {drained : List Message} {session : FinishedRun}
    (h : Reached drained session.world.session session.effects) (request : SearchRequest) :
    (sessionActs request session).filterMap CommandAct.appended? =
      (uptoSummary drained).filterMap (·.render.body) := by
  have hdialog (texts : List String) : (texts.map fun text =>
      CommandAct.host (.dialog text)).filterMap CommandAct.appended? = [] := by
    rw [List.filterMap_map]
    exact List.filterMap_eq_nil_iff.mpr fun _ _ => rfl
  rw [sessionActs, List.filterMap_append, List.filterMap_append, hdialog, List.append_nil,
    CommandAct.filterMap_appended?_map_ofSession, h.appended_eq]
  rfl

/-- **What a command does**, in whatever host, with whatever launcher, and whatever happens to the
session that it starts. Its acts are all of it: those on the host are what `run` does there, and
the launcher matters only for what is launched. Without a scope there is one dialog. Otherwise the
first act is the one question, which shows the selected text. If it is dismissed, that is all; a
blank answer and a failed launch lead to one dialog, which says why. A launch that succeeds opens
one view and sets it up, shows messages in it, stops the worker, erases the status, and shows the
dialog of the report if there is one. What the messages have appended to the view stays there. -/
theorem acts_cases (command : SearchCommand) (selected : List Path) (host : Host) (config : Config)
    (launch : Launcher) :
    let acts := (command.acts selected host config launch).1
    let result := (command.acts selected host config launch).2
    let initial := host.selection.getD ""
    let asked := CommandAct.host (.prompt promptCaption initial)
    command.run selected host config launch = (acts.filterMap CommandAct.host?, result) ∧
    (∀ launch' : Launcher,
      (∀ request ∈ acts.filterMap CommandAct.launched?, launch request = launch' request) →
      command.acts selected host config launch' = (acts, result)) ∧
    (∀ e, command.scope selected host.activeFile host.folders = .error e →
      acts = [.host (.dialog e.userMessage)] ∧ result = .error e) ∧
    ∀ paths, command.scope selected host.activeFile host.folders = .ok paths →
      (host.answer initial = none → acts = [asked] ∧ result = .ok none) ∧
      ∀ selector, host.answer initial = some selector →
        (Text.allBlank selector = true →
          acts = [asked, .host (.dialog (SearchError.request .emptySelector).userMessage)] ∧
          result = .error (.request .emptySelector)) ∧
        (Text.allBlank selector = false →
          ∃ request, SearchRequest.make selector paths (config.options host.platform)
              command.mode = .ok request ∧
          (∀ e, launch request = .error e →
            acts = [asked, .launch request,
              .host (.dialog (SearchError.launch e).userMessage)] ∧
            result = .error (.launch e)) ∧
          ∀ schedule, launch request = .ok schedule →
            let report := (SessionWorld.finish schedule).report
            let opening : List ViewEvent := [.name (viewTitle selector), .scratch true,
              .syntaxFile resultSyntax, .setting "result_file_regex" resultFilePattern,
              .setting "result_line_regex" resultLinePattern]
            result = .ok (some report) ∧
            ∃ drained, drained <+: schedule.flatMap Moment.pushed ∧
              acts = asked :: .launch request :: .host .openView ::
                (opening ++ (uptoSummary drained).flatMap Message.events).map
                  (fun e => .host (.view e)) ++
                [.stopWorker, .host (.view (.eraseStatus statusKey))] ++
                report.errorMessage.toList.map (fun text => .host (.dialog text)) ∧
              acts.filterMap CommandAct.appended? =
                (uptoSummary drained).filterMap (·.render.body) ∧
              report.malformed = (uptoSummary drained).filterMap malformedText?) := by
  intro acts result initial asked
  refine ⟨run_eq .., fun launch' h => (acts_congr _ _ _ _ h).symm,
    fun e h => Prod.mk.inj (acts_of_scope_error h), fun paths h =>
    ⟨fun ha => Prod.mk.inj (acts_of_dismissed h ha), fun selector ha =>
    ⟨fun hs => Prod.mk.inj (acts_of_blank h ha hs), fun hs => ?_⟩⟩⟩
  obtain ⟨request, hr, rfl⟩ :=
    SearchRequest.make_of_not_blank hs (scope_ne_nil h) (config.options host.platform) command.mode
  refine ⟨request, hr, fun e hl => Prod.mk.inj (acts_of_launch_error h ha hr hl),
    fun schedule hl => ?_⟩
  intro report opening
  obtain ⟨hreport, drained, hdrained, hreached⟩ := SessionWorld.reached_finish schedule
  have hsession := sessionActs_eq hreport hreached request
  have hall := acts_of_launched h ha hr hl
  have hacts : acts = asked :: sessionActs request (SessionWorld.finish schedule) :=
    congrArg Prod.fst hall
  refine ⟨congrArg Prod.snd hall, drained, hdrained, ?_, ?_, ?_⟩
  · rw [hacts, hsession]
    rfl
  · rw [hacts, List.filterMap_cons_none (by rfl)]
    exact filterMap_appended?_sessionActs hreached request
  · exact (hreached.of_report hreport).2.trans hreached.malformed_eq

end SearchCommand

end SelectorSearch
