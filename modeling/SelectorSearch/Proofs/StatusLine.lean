import SelectorSearch.CommandLine.Run
import SelectorSearch.Proofs.Conduct
import SelectorSearch.Proofs.Display

/-!
# The Status Line of a Session

Everything that a session and its command do to a terminal is orderly: the questions come before any
status, the view is named before the first message is shown, and a session erases its status at its
end, whatever the end is, and before the dialog. So the standard output receives the results and
nothing else, results and dialogs find each status wiped, and a wipe is written exactly if there is
something to wipe.

This holds whatever is logged in between, by whichever part of the program. But a line of the log
that is written right behind a status takes the cursor to a new line, and the wipe that follows
misses the status: it stays on the screen. The program does that to itself. A session whose process
exits without a summary logs so before it erases its status, and by default that line is written.

## Main results

* `SearchCommand.orderly_effectsUntil`: what a session does to its host is orderly at any time.
* `SearchCommand.run_effects`: what a command does to its host, by its questions and its session.
* `Terminal.tidy_with_log`: sessions and whole commands on a terminal, with any log.
* `Terminal.not_gone_by_default`: a run without flags that leaves its status on the screen.
-/

namespace SelectorSearch

open Session

/-! ### Effects of sessions -/

namespace SearchCommand

open HostEffect (Orderly)

/-- What a session does to the host until some moment: a view is opened and set up, the session
shows something in it, and a report can come with a dialog. -/
def effectsUntil (selector : String) (s : Session) (effects : List SessionEffect) :
    List HostEffect :=
  .openView :: (openingEvents selector ++ viewEvents effects).map .view ++
    ((s.report.bind SessionReport.errorMessage).map .dialog).toList

/-- What a session does to the host from its start to its dialog is what it does until its end,
where it has a report. -/
theorem sessionEffects_eq {f : FinishedRun} (h : f.world.session.report = some f.report)
    (selector : String) :
    sessionEffects selector f = effectsUntil selector f.world.session f.effects := by
  rw [sessionEffects, effectsUntil, h]
  rfl

/-- What a session appends to its view is what it appends in its host. -/
theorem filterMap_appended?_effectsUntil (selector : String) (s : Session)
    (effects : List SessionEffect) :
    (effectsUntil selector s effects).filterMap HostEffect.appended? =
      effects.filterMap SessionEffect.appended? := by
  have hdialog : ((s.report.bind SessionReport.errorMessage).map HostEffect.dialog).toList.filterMap
      HostEffect.appended? = [] := by
    cases s.report.bind SessionReport.errorMessage <;> rfl
  have hviews : ((viewEvents effects).map HostEffect.view).filterMap HostEffect.appended? =
      effects.filterMap SessionEffect.appended? := by
    rw [viewEvents, List.map_filterMap, List.filterMap_filterMap]
    congr 1
    funext e
    cases e with
    | view v => cases v <;> rfl
    | stopWorker => rfl
  rw [effectsUntil, List.map_append, List.filterMap_append, hdialog, List.append_nil]
  exact hviews

/-- What a message does to the view goes below no status without wiping it. -/
theorem not_needsClear_of_mem_events {m : Message} {e : ViewEvent} (h : e ∈ m.events) :
    ¬ (HostEffect.view e).NeedsClear := by
  rw [Message.events, Rendered.events, List.mem_append, Option.mem_toList, Option.mem_toList,
    Option.map_eq_some_iff, Option.map_eq_some_iff] at h
  obtain ⟨text, -, rfl⟩ | ⟨text, -, rfl⟩ := h <;> exact id

variable {drained : List Message} {s : Session} {effects : List SessionEffect}

/-- What a session does to its view are the events of the messages up to the first summary, and the
end of the status if the session has ended. -/
theorem viewEvents_eq (h : Reached drained s effects) :
    viewEvents effects = (uptoSummary drained).flatMap Message.events ++
      if s.report.isSome then [.eraseStatus statusKey] else [] := by
  have hshown (events : List ViewEvent) : viewEvents (events.map SessionEffect.view) = events := by
    rw [viewEvents, List.filterMap_map]
    exact List.filterMap_some
  rw [h.effects_eq, lastEffects, viewEvents, List.filterMap_append]
  congr 1
  · exact hshown _
  · split <;> rfl

/-- What a session does to its view goes below no status without wiping it, whatever status was
there before. -/
theorem orderly_viewEvents (h : Reached drained s effects) (before : Option String) :
    Orderly before ((viewEvents effects).map .view) := by
  refine HostEffect.orderly_of_forall (fun e he => ?_) before
  obtain ⟨v, hv, rfl⟩ := List.mem_map.mp he
  rw [viewEvents_eq h, List.mem_append, List.mem_flatMap] at hv
  rcases hv with ⟨m, -, hm⟩ | hv
  · exact not_needsClear_of_mem_events hm
  · split at hv
    · obtain rfl := List.mem_singleton.mp hv
      exact id
    · cases hv

/-- A session that has ended has erased its status last of all. -/
theorem foldl_onDisplay_viewEvents (h : Reached drained s effects) (hended : s.report ≠ none)
    (before : Option String) :
    ((viewEvents effects).map HostEffect.view).foldl HostEffect.onDisplay before = none := by
  rw [viewEvents_eq h, if_pos (Option.isSome_iff_ne_none.mpr hended), List.map_append,
    List.foldl_append]
  rfl

/-- **What a session does to the host is orderly at any time**, and it leaves no status if the
session has ended. -/
theorem orderly_effectsUntil (h : Reached drained s effects) (selector : String) :
    Orderly none (effectsUntil selector s effects) ∧
      (s.report ≠ none →
        (effectsUntil selector s effects).foldl HostEffect.onDisplay none = none) := by
  have hviews (hended : s.report ≠ none) :
      (HostEffect.openView :: (openingEvents selector ++ viewEvents effects).map .view).foldl
        HostEffect.onDisplay none = none := by
    rw [List.foldl_cons, List.map_append, List.foldl_append]
    exact foldl_onDisplay_viewEvents h hended _
  rw [effectsUntil, HostEffect.orderly_append, List.foldl_append]
  refine ⟨⟨⟨fun _ => rfl, ?_⟩, ?_⟩, fun hended => ?_⟩
  · rw [List.map_append, HostEffect.orderly_append]
    refine ⟨⟨fun _ => rfl, HostEffect.orderly_of_forall (fun e he => ?_) _⟩,
      orderly_viewEvents h _⟩
    obtain ⟨v, hv, rfl⟩ := List.mem_map.mp he
    simp only [List.mem_cons, List.not_mem_nil, or_false] at hv
    obtain rfl | rfl | rfl | rfl := hv <;> exact id
  · cases hdialog : s.report.bind SessionReport.errorMessage with
    | none => trivial
    | some text =>
        have hended : s.report ≠ none := by
          intro hreport
          rw [hreport] at hdialog
          cases hdialog
        exact ⟨fun _ => hviews hended, trivial⟩
  · rw [hviews hended]
    cases s.report.bind SessionReport.errorMessage <;> rfl

/-! ### Effects of commands -/

/-- The effect is a question to the user. -/
def IsPrompt (e : HostEffect) : Prop :=
  ∃ caption initial, e = .prompt caption initial

/-- Questions `asked` before some effects change nothing about the display or the text. -/
theorem orderly_asked {asked : List HostEffect} (hasked : ∀ e ∈ asked, IsPrompt e)
    (rest : List HostEffect) :
    (Orderly none (asked ++ rest) ↔ Orderly none rest) ∧
      (asked ++ rest).foldl HostEffect.onDisplay none = rest.foldl HostEffect.onDisplay none ∧
      (asked ++ rest).filterMap HostEffect.appended? = rest.filterMap HostEffect.appended? := by
  induction asked with
  | nil => exact ⟨.rfl, rfl, rfl⟩
  | cons e more ih =>
      obtain ⟨⟨caption, initial, rfl⟩, hmore⟩ := List.forall_mem_cons.mp hasked
      obtain ⟨horderly, hdisplay, htext⟩ := ih hmore
      exact ⟨(and_iff_right fun _ => rfl).trans horderly, hdisplay, htext⟩

/-- Until there is a request the host is asked questions, and nothing else is done to it. -/
theorem isPrompt_of_mem_prepare {command : SearchCommand} {selected : List Path} {host : Host}
    {config : Config} {e : HostEffect} (h : e ∈ (command.prepare selected host config).1) :
    IsPrompt e := by
  rw [prepare] at h
  split at h
  · cases h
  · have hmem : e ∈ [HostEffect.prompt promptCaption (host.selection.getD "")] := by
      dsimp only at h
      split at h <;> exact h
    exact ⟨_, _, List.mem_singleton.mp hmem⟩

/-- **What a command does to its host**: it asks its questions, and then either shows at most a
dialog or does what a session does that was launched. -/
theorem run_effects (command : SearchCommand) (selected : List Path) (host : Host)
    (config : Config) (launch : Launcher) :
    ∃ asked : List HostEffect, (∀ e ∈ asked, IsPrompt e) ∧
      ((∃ dialog : Option String,
          (command.run selected host config launch).1 =
            asked ++ (dialog.map HostEffect.dialog).toList ∧
          ∀ report, (command.run selected host config launch).2 ≠ .ok (some report)) ∨
        ∃ request schedule, launch request = .ok schedule ∧
          command.run selected host config launch =
            (asked ++ sessionEffects request.selector (SessionWorld.finish schedule),
              .ok (some (SessionWorld.finish schedule).report))) := by
  have hasked : ∀ e ∈ (command.prepare selected host config).1, IsPrompt e :=
    fun _ => isPrompt_of_mem_prepare
  rw [run]
  generalize command.prepare selected host config = prepared at hasked ⊢
  obtain ⟨asked, e | _ | request⟩ := prepared
  · exact ⟨asked, hasked, .inl ⟨some e.userMessage, rfl, fun _ => by simp⟩⟩
  · exact ⟨asked, hasked, .inl ⟨none, (List.append_nil _).symm, fun _ => by simp⟩⟩
  · dsimp only
    cases hlaunch : launch request with
    | error e =>
        exact ⟨asked, hasked,
          .inl ⟨some (SearchError.launch e).userMessage, rfl, fun _ => by simp⟩⟩
    | ok schedule => exact ⟨asked, hasked, .inr ⟨request, schedule, hlaunch, rfl⟩⟩

/-- A dialog behind some questions `asked` is orderly, and leaves no status. -/
theorem orderly_dialog {asked : List HostEffect} (hasked : ∀ e ∈ asked, IsPrompt e)
    (dialog : Option String) :
    Orderly none (asked ++ (dialog.map HostEffect.dialog).toList) ∧
      (asked ++ (dialog.map HostEffect.dialog).toList).foldl HostEffect.onDisplay none = none ∧
      (asked ++ (dialog.map HostEffect.dialog).toList).filterMap HostEffect.appended? = [] := by
  obtain ⟨horderly, hdisplay, htext⟩ := orderly_asked hasked (dialog.map HostEffect.dialog).toList
  rw [horderly, hdisplay, htext]
  cases dialog with
  | none => exact ⟨trivial, rfl, rfl⟩
  | some text => exact ⟨⟨fun _ => rfl, trivial⟩, rfl, rfl⟩

/-- A whole session behind some questions `asked` is orderly, leaves no status, and appends the
bodies of the messages up to the first summary. -/
theorem orderly_session {asked : List HostEffect} (hasked : ∀ e ∈ asked, IsPrompt e)
    {f : FinishedRun} (hreport : f.world.session.report = some f.report)
    (h : Reached drained f.world.session f.effects) (selector : String) :
    Orderly none (asked ++ sessionEffects selector f) ∧
      (asked ++ sessionEffects selector f).foldl HostEffect.onDisplay none = none ∧
      (asked ++ sessionEffects selector f).filterMap HostEffect.appended? =
        (uptoSummary drained).filterMap (·.render.body) := by
  obtain ⟨horderly, hdisplay, htext⟩ := orderly_asked hasked (sessionEffects selector f)
  obtain ⟨hsession, hlast⟩ := orderly_effectsUntil h selector
  have hended : f.world.session.report ≠ none := by
    rw [hreport]
    exact Option.some_ne_none _
  rw [horderly, hdisplay, htext, sessionEffects_eq hreport, filterMap_appended?_effectsUntil,
    h.appended_eq]
  exact ⟨hsession, hlast hended, rfl⟩

end SearchCommand

/-! ### Sessions and commands on a terminal -/

namespace Terminal

open HostEffect (Orderly)
open SearchCommand (effectsUntil)
open TerminalWrite (Cleared ClearsNext Gone)

variable {asks : Bool} {effects : List HostEffect} {events : List Event}

/-- What is done to the host writes no line `r` of the log. -/
theorem log_notMem_present (r : LogRecord) (asks : Bool) (t : Terminal) (e : HostEffect) :
    .log r ∉ (t.present asks e).2 := by
  cases e with
  | prompt caption initial => cases asks <;> simp [present]
  | view v => cases t with | mk statusShown =>
    cases v <;> cases statusShown <;> simp [present, showView, wiping]
  | _ => simp [present]

/-- The lines of the log that are written are those among the `events`. -/
theorem log_mem_reactAll_iff (r : LogRecord) (asks : Bool) (t : Terminal) (events : List Event) :
    .log r ∈ (reactAll asks t events).2 ↔ .log r ∈ events := by
  induction events generalizing t with
  | nil => exact iff_of_false List.not_mem_nil List.not_mem_nil
  | cons e rest ih =>
      rw [reactAll_cons, List.mem_append, ih, List.mem_cons]
      cases e with
      | log r' => simp [react]
      | effect e => simp [react, log_notMem_present]

/-- What is on the screen at the end of a run: the clear-line sequence has been sent behind every
status, and it has removed them all unless a line of the log was written right behind one. -/
structure Settled (asks : Bool) (events : List Event) : Prop where
  cleared : Cleared (writes asks events)
  gone_iff : Gone (writes asks events) ↔
    ∀ before text r after, writes asks events ≠ before ++ .status text :: .log r :: after
  gone_of_silent : (∀ r, .log r ∉ events) → Gone (writes asks events)

/-- Effects that are orderly and leave no status are settled, whatever is logged between them. -/
theorem settled_of_orderly (asks : Bool) (h : Orderly none (events.filterMap Event.effect?))
    (hlast : (events.filterMap Event.effect?).foldl HostEffect.onDisplay none = none) :
    Settled asks events := by
  have hwiped := wiped_of_orderly asks h hlast
  have hiff := TerminalWrite.gone_iff (clean_reactAll rfl h) hwiped
  refine ⟨hwiped.cleared, hiff, fun hsilent => hiff.mpr fun before text r after hwrites => ?_⟩
  have hmem : .log r ∈ (reactAll asks {} events).2 := by
    rw [hwrites]
    exact List.mem_append_right _ (.tail _ (.head _))
  exact hsilent r ((log_mem_reactAll_iff r asks {} events).mp hmem)

/-- Where no level is written, nothing is logged. -/
theorem log_notMem_events {logging : Logging} (h : logging.level = none)
    (result : Except SearchError (Option SessionReport)) (effects : List HostEffect)
    (r : LogRecord) : .log r ∉ SearchCommand.events logging result effects := by
  have hkeeps : logging.keeps = fun _ => false := by
    funext r
    simp [Logging.keeps, h]
  simp [SearchCommand.events, hkeeps]

/-- **Terminal output can be piped, and its statuses are gone but where the log comes in.** This
holds of a session with a view of its own, whatever is queued and whenever it ticks, before its end
and after it, and of whole commands, with any lines of the log between any two effects: the standard
output has received the bodies of the messages that were shown and counted, and nothing else; before
each result and each dialog every status was followed by the clear-line sequence; that sequence goes
with a text or an erased status exactly if there is a status that waits for it; and after the end it
has followed every status. It has removed them all from the screen exactly if no line of the log was
written right behind a status, so it has if nothing is logged. -/
theorem tidy_with_log (asks : Bool) :
    (∀ (selector : String) (around : Session.Surroundings) (steps : List SessionStep)
      (events : List Event),
      let reached := ({ around } : SessionWorld).run steps
      events.filterMap Event.effect? = effectsUntil selector reached.1.session reached.2 →
      (∃ drained, around.queued ++ steps.filterMap SessionStep.message? =
          drained ++ reached.1.around.queued ∧
        reached.1.session.machine.stats = ((uptoSummary drained).foldl count {}).stats ∧
        Tidy asks events ((uptoSummary drained).filterMap (·.render.body))) ∧
      (reached.1.session.report ≠ none → Settled asks events)) ∧
    (∀ (command : SearchCommand) (selected : List Path) (host : Host) (config : Config)
      (launch : Launcher) (events : List Event),
      let ended := command.run selected host config launch
      events.filterMap Event.effect? = ended.1 →
      Settled asks events ∧
      ((∀ report, ended.2 ≠ .ok (some report)) → Tidy asks events []) ∧
      ∀ report, ended.2 = .ok (some report) →
        ∃ request schedule drained, launch request = .ok schedule ∧
          drained <+: schedule.flatMap Moment.pushed ∧
          report.stats = ((uptoSummary drained).foldl count {}).stats ∧
          Tidy asks events ((uptoSummary drained).filterMap (·.render.body))) ∧
    ∀ (line : CommandLine.SearchLine) (host : Host) (loaded : Config) (launch : Config → Launcher)
      (logging : Logging),
      let config := loaded.override line.overrides
      ∃ events : List Event,
        events.filterMap Event.effect? =
          (line.command.run line.paths host config (launch config)).1 ∧
        (line.endingIn host (.ok loaded) launch logging).writes =
          writes line.selector.isNone events ∧
        (logging.level = none → ∀ r, .log r ∉ events) := by
  refine ⟨?_, ?_, ?_⟩
  · intro selector around steps events reached hevents
    obtain ⟨drained, hdrained, h⟩ := SessionWorld.reached_run_new around steps
    obtain ⟨horderly, hlast⟩ := SearchCommand.orderly_effectsUntil h selector
    rw [← hevents] at horderly hlast
    refine ⟨⟨drained, hdrained, h.stats_eq, ?_⟩,
      fun hended => settled_of_orderly asks horderly (hlast hended)⟩
    rw [← h.appended_eq, ← SearchCommand.filterMap_appended?_effectsUntil selector, ← hevents]
    exact tidy_of_orderly asks horderly
  · intro command selected host config launch events ended hevents
    obtain ⟨asked, hasked, ⟨dialog, heffects, hresult⟩ | ⟨request, schedule, hlaunch, hrun⟩⟩ :=
      SearchCommand.run_effects command selected host config launch
    · have hall := SearchCommand.orderly_dialog hasked dialog
      rw [← heffects, ← hevents] at hall
      obtain ⟨horderly, hlast, htext⟩ := hall
      exact ⟨settled_of_orderly asks horderly hlast, fun _ => htext ▸ tidy_of_orderly asks horderly,
        fun report hreport => absurd hreport (hresult report)⟩
    · obtain ⟨hreport, drained, hdrained, h⟩ := SessionWorld.reached_finish schedule
      have hresult : ended.2 = .ok (some (SessionWorld.finish schedule).report) :=
        congrArg Prod.snd hrun
      have heffects : ended.1 =
          asked ++ SearchCommand.sessionEffects request.selector (SessionWorld.finish schedule) :=
        congrArg Prod.fst hrun
      have hall := SearchCommand.orderly_session hasked hreport h request.selector
      rw [← heffects, ← hevents] at hall
      obtain ⟨horderly, hlast, htext⟩ := hall
      refine ⟨settled_of_orderly asks horderly hlast, fun hnone => absurd hresult (hnone _),
        fun report hended => ?_⟩
      obtain rfl : (SessionWorld.finish schedule).report = report :=
        Option.some.inj (Except.ok.inj (hresult.symm.trans hended))
      exact ⟨request, schedule, drained, hlaunch, hdrained,
        (h.of_report hreport).1.trans h.stats_eq, htext ▸ tidy_of_orderly asks horderly⟩
  · intro line host loaded launch logging config
    refine ⟨SearchCommand.events logging
        (line.command.run line.paths host config (launch config)).2
        (line.command.run line.paths host config (launch config)).1,
      SearchCommand.filterMap_effect?_events _ _ _, rfl, fun h r => log_notMem_events h _ _ r⟩

/-- **A status that stays.** A search for `p` in the current directory, without flags and without
the variable for the log, whose process tells of a first file out of two and exits with one: what is
logged of that is written behind the status, and the clear-line sequence comes too late. -/
theorem not_gone_by_default :
    let line : CommandLine.SearchLine :=
      ⟨.selectedPaths, 0, none, some "p", none, none, [], {}, [⟨"."⟩]⟩
    let schedule : List Moment :=
      [{ pushed := [.processingFile ⟨1, 2⟩], status := some (.exited (some 1)) }]
    let ending := line.endingIn { answer := fun _ => line.selector } (.ok {})
      (fun _ _ => .ok schedule) (.ofBindings [] line.verbosity)
    let logged : LogRecord :=
      ⟨.warn, "element_finder::session::driver", "element-finder exited without completing",
        [("session", "00000000-0000-0000-0000-000000000000"), ("code", "Some(1)")]⟩
    CommandLine.parse ["paths", "-s", "p", "."] = .ok line ∧ ending.exitCode = 1 ∧
      ending.writes = [.title "p - Element Finder Results",
        .wipe, .status "Element Finder is searching... (1/2 files)", .log logged, .wipe,
        .failure "Element Finder CLI exited before completing the search (exit code 1)."] ∧
      ¬ Gone ending.writes := by
  intro line schedule ending logged
  have hwrites : ending.writes = [.title "p - Element Finder Results",
      .wipe, .status "Element Finder is searching... (1/2 files)", .log logged, .wipe,
      .failure "Element Finder CLI exited before completing the search (exit code 1)."] := by
    rfl
  have hbefore : CommandLine.read .before {} ["paths", "-s", "p", "."] =
      .ok ({}, ["paths", "-s", "p", "."]) := by
    rw [CommandLine.read.eq_def]
    rfl
  have hend (g : CommandLine.Given) : CommandLine.read .behind g [] = .ok (g, []) := by
    rw [CommandLine.read.eq_def]
  have hpath (g : CommandLine.Given) : CommandLine.read .behind g ["."] =
      .ok ({ g with paths := g.paths ++ [⟨"."⟩] }, []) := by
    rw [CommandLine.read.eq_def]
    exact hend _
  have hbehind : CommandLine.read .behind {} ["-s", "p", "."] =
      .ok ({ settings := [(.selector, "p")], paths := [⟨"."⟩] }, []) := by
    rw [CommandLine.read.eq_def]
    exact hpath _
  have hparse : CommandLine.parse ["paths", "-s", "p", "."] = .ok line := by
    rw [CommandLine.parse, hbefore]
    exact congrArg (Except.map _) hbehind
  refine ⟨hparse, rfl, hwrites, fun hgone => ?_⟩
  exact TerminalWrite.not_clearsNext_log logged _ (hgone [_, _] _ _ hwrites)

end Terminal

end SelectorSearch
