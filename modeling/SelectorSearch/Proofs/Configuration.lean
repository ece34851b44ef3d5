import SelectorSearch.CommandLine.Run
import SelectorSearch.Proofs.Scope
import SelectorSearch.Proofs.Settings

/-!
# The Effective Configuration

A search goes by what the command line gives, then by the configuration file, then by the defaults.
The three go over each other in different ways. A file is taken whole: the first path that names
anything decides, and if there is something wrong with it, neither another file nor the defaults
step in. The defaults are replaced setting by setting. The command line replaces texts and lists
whole, and an executable on every platform.

## Main results

* `readFile_of_assigns`, `readFile_of_wrongKind`: what the entries of a file make.
* `options_override`: the options of a search under what the command line gives.
* `effective_configuration`: all of it, from the search for a file to the launch.
-/

namespace SelectorSearch

open CommandAct

/-! ### Files -/

namespace Config

variable {t : FileTree} {p : Path} {bytes : List UInt8} {content : List Char}

/-- A file that cannot be read is no configuration, and the `cause` is told. -/
theorem readFile_of_refused {cause : OsError} (h : t.read p = .error cause) :
    readFile t p = .error (.refused p cause) := by
  rw [readFile, h]

/-- A file whose bytes are no UTF-8 is no configuration. -/
theorem readFile_of_notText (hread : t.read p = .ok bytes) (h : Utf8.decode? bytes = none) :
    readFile t p = .error (.notText p) := by
  simp only [readFile, hread, h]

/-- A file whose text is no TOML is no configuration. -/
theorem readFile_of_notToml (hread : t.read p = .ok bytes)
    (htext : Utf8.decode? bytes = some content) (h : Toml.parse? content = none) :
    readFile t p = .error (.notToml p) := by
  simp only [readFile, hread, htext, h]

/-- The entries of a file make its configuration, or a fault that is told together with the text. -/
theorem readFile_of_entries {entries : Toml.Entries} (hread : t.read p = .ok bytes)
    (htext : Utf8.decode? bytes = some content) (h : Toml.parse? content = some entries) :
    readFile t p = (ofEntries entries).mapError (.wrongKind p content) := by
  simp only [readFile, hread, htext, h]

/-- Entries that give a setting a value of another kind are no configuration. -/
theorem readFile_of_wrongKind {entries : Toml.Entries} (hread : t.read p = .ok bytes)
    (htext : Utf8.decode? bytes = some content) (hparse : Toml.parse? content = some entries)
    (h : ∀ a, ¬ Assigns entries a) :
    ∃ fault, readFile t p = .error (.wrongKind p content fault) := by
  rw [readFile_of_entries hread htext hparse]
  cases hentries : ofEntries entries with
  | error fault => exact ⟨fault, rfl⟩
  | ok c =>
      obtain ⟨a, ha, -⟩ := (ofEntries_eq_ok_iff (Toml.sound_of_parse? hparse)).mp hentries
      exact absurd ha (h a)

/-- **The configuration in a file** is the default one with the settings that the file gives. -/
theorem readFile_of_assigns {entries : Toml.Entries} {a : Assignments}
    (hread : t.read p = .ok bytes) (htext : Utf8.decode? bytes = some content)
    (hparse : Toml.parse? content = some entries) (h : Assigns entries a) :
    readFile t p = .ok (a.over {}) := by
  have hentries : ofEntries entries = .ok (a.over {}) :=
    (ofEntries_eq_ok_iff (Toml.sound_of_parse? hparse)).mpr ⟨a, h, rfl⟩
  rw [readFile_of_entries hread htext hparse, hentries]
  rfl

/-- A file decides by its content alone, whatever else is in the tree. -/
theorem readFile_congr {t' : FileTree} (h : t'.read p = t.read p) :
    readFile t' p = readFile t p := by
  rw [readFile, h]
  rfl

/-! ### The command line over the file -/

/-- **The options of a search** under the overrides `o`: what the command line gives, and otherwise
what the configuration `c` has. -/
theorem options_override (c : Config) (o : Overrides) (platform : Platform) :
    (c.override o).options platform =
      { executable := o.node.getD ((c.ownExecutable? platform).getD c.nodePath)
        script := o.script <|> c.scriptPath
        extension := o.extension <|> c.extension
        ignore := if o.ignore = [] then c.ignore else o.ignore } := by
  have hexecutable : (c.override o).executableFor platform =
      o.node.getD ((c.ownExecutable? platform).getD c.nodePath) := by
    cases hnode : o.node with
    | some node => exact executableFor_override c hnode platform
    | none => cases platform <;> simp [override, hnode, executableFor, ownExecutable?]
  have hnode : ((o.node.map c.withNode).getD c).scriptPath = c.scriptPath ∧
      ((o.node.map c.withNode).getD c).extension = c.extension ∧
      ((o.node.map c.withNode).getD c).ignore = c.ignore := by
    cases o.node <;> exact ⟨rfl, rfl, rfl⟩
  rw [options, hexecutable]
  simp only [override, hnode, List.isEmpty_iff]

/-- The command line leaves the two durations of a configuration alone. -/
theorem durations_override (c : Config) (o : Overrides) :
    (c.override o).tickIntervalMs = c.tickIntervalMs ∧
      (c.override o).terminateTimeoutMs = c.terminateTimeoutMs := by
  rw [override]
  cases o.node <;> exact ⟨rfl, rfl⟩

end Config

/-! ### Launches -/

/-- A `request` is launched among some `acts` exactly if one of them is its launch. -/
theorem CommandAct.mem_filterMap_launched? {acts : List CommandAct} {request : SearchRequest} :
    request ∈ acts.filterMap launched? ↔ .launch request ∈ acts := by
  rw [List.mem_filterMap]
  constructor
  · rintro ⟨act, hact, h⟩
    cases act with
    | launch r =>
        obtain rfl := Option.some.inj h
        exact hact
    | _ => cases h
  · intro h
    exact ⟨_, h, rfl⟩

/-- What a session does is no launch. -/
theorem CommandAct.ofSession_ne_launch (e : SessionEffect) (request : SearchRequest) :
    ofSession e ≠ .launch request := by
  cases e <;> nofun

namespace SearchCommand

variable {command : SearchCommand} {selected : List Path} {host : Host} {config : Config}
  {launch : Launcher} {request : SearchRequest}

/-- What a command launches is the `request` that it has prepared. -/
theorem prepare_of_launched
    (h : request ∈ (command.acts selected host config launch).1.filterMap launched?) :
    (command.prepare selected host config).2 = .ok (some request) := by
  rw [mem_filterMap_launched?, acts] at h
  generalize command.prepare selected host config = prepared at h ⊢
  obtain ⟨effects, e | _ | prepared⟩ := prepared
  · simp at h
  · simp at h
  · have hlaunched : request = prepared := by
      dsimp only at h
      cases hlaunch : launch prepared with
      | error e => simpa [hlaunch] using h
      | ok schedule => simpa [hlaunch, sessionActs, ofSession_ne_launch] using h
    rw [hlaunched]

/-- What a command launches has the options of the configuration that the command was given. -/
theorem options_of_launched
    (h : request ∈ (command.acts selected host config launch).1.filterMap launched?) :
    request.options = config.options host.platform := by
  obtain ⟨paths, selector, -, -, hmake⟩ := prepare_eq_ok_some (prepare_of_launched h)
  exact (SearchRequest.of_make hmake).2.2.1

end SearchCommand

/-! ### From the file to the launch -/

namespace CommandLine

/-- The end of a run with its configuration `c`, by the acts of its command: the exit code is that
of its result, and what is written is what the terminal makes of its effects and of the log. -/
theorem SearchLine.search_eq (line : SearchLine) (environment : Shell.Environment)
    (around : Surroundings) (c : Config) :
    let acts := line.command.acts line.paths (line.host around) (c.override line.overrides)
      ((c.override line.overrides).launch around.files .onInterrupt environment)
    line.search environment around c = ⟨exitCode acts.2,
      Terminal.writes line.selector.isNone
        (SearchCommand.events (line.logging around) acts.2 (acts.1.filterMap host?))⟩ := by
  intro acts
  have hrun := SearchCommand.run_eq line.command line.paths (line.host around)
    (c.override line.overrides)
    ((c.override line.overrides).launch around.files .onInterrupt environment)
  simp only [search, endingIn, hrun]
  rfl

/-- With a configuration `c` that can be had, an accepted command line runs its search with it. -/
theorem run_of_config {words : List String} {around : Surroundings} {line : SearchLine} {c : Config}
    (hp : parse words = .ok line)
    (hc : Config.load around.files (Config.searchPaths around.userSettings line.configFile) =
      .ok c) :
    run words around = line.search around.environment around c := by
  simp only [run, runIn, hp, SearchLine.run, hc]
  rfl

/-- **The effective configuration.** With a path on the command line no other path is searched.
If no path names anything, the defaults hold. The first one that does decides by its content alone,
whatever stands behind it: what cannot be read, is no text, is no TOML or gives a setting a value
of another kind is an error, and otherwise the defaults are replaced by what the file gives each
setting, in any order and beside any other entries. An error ends the run, which shows it and does
nothing else. Without one, what the run launches has the options that its command line gives, then
those of the configuration; an executable from the command line takes precedence on every platform.
The two durations are those of the configuration. -/
theorem effective_configuration :
    let options (c : Config) (o : Config.Overrides) (platform : Platform) : SearchOptions :=
      { executable := o.node.getD ((c.ownExecutable? platform).getD c.nodePath)
        script := o.script <|> c.scriptPath
        extension := o.extension <|> c.extension
        ignore := if o.ignore = [] then c.ignore else o.ignore }
    (∀ userSettings p, Config.searchPaths userSettings (some p) = [p]) ∧
    (∀ (t : FileTree) (paths : List Path), (∀ p ∈ paths, t.contains p = false) →
      Config.load t paths = .ok {}) ∧
    (∀ (t : FileTree) (before after : List Path) (p : Path),
      (∀ q ∈ before, t.contains q = false) → t.contains p = true →
      let loaded := Config.load t (before ++ p :: after)
      (∀ (t' : FileTree) (after' : List Path), (∀ q ∈ before, t'.contains q = false) →
        t'.contains p = true → t'.read p = t.read p →
        Config.load t' (before ++ p :: after') = loaded) ∧
      (∀ cause, t.read p = .error cause → loaded = .error (.refused p cause)) ∧
      ∀ bytes, t.read p = .ok bytes →
        (Utf8.decode? bytes = none → loaded = .error (.notText p)) ∧
        ∀ content, Utf8.decode? bytes = some content →
          (Toml.parse? content = none → loaded = .error (.notToml p)) ∧
          ∀ entries, Toml.parse? content = some entries →
            (entries.map Prod.fst).Nodup ∧
            (∀ a : Config.Assignments, Config.Assigns entries a → loaded = .ok (a.over {})) ∧
            ((∀ a, ¬ Config.Assigns entries a) →
              ∃ fault, loaded = .error (.wrongKind p content fault))) ∧
    (∀ (words : List String) (around : Surroundings) (line : SearchLine), parse words = .ok line →
      let loaded :=
        Config.load around.files (Config.searchPaths around.userSettings line.configFile)
      (∀ e, loaded = .error e → run words around = ⟨1, [.failure e.message]⟩) ∧
      ∀ c, loaded = .ok c →
        let config := c.override line.overrides
        let acts := line.command.acts line.paths (line.host around) config
          (config.launch around.files .onInterrupt around.environment)
        run words around = line.search around.environment around c ∧
        run words around = ⟨exitCode acts.2, Terminal.writes line.selector.isNone
          (SearchCommand.events (line.logging around) acts.2 (acts.1.filterMap host?))⟩ ∧
        ∀ request ∈ acts.1.filterMap launched?,
          request.options = options c line.overrides (line.host around).platform) ∧
    ∀ (c : Config) (o : Config.Overrides),
      (∀ platform, (c.override o).options platform = options c o platform) ∧
      (∀ (command : SearchCommand) (selected : List Path) (host : Host) (launch : Launcher),
        ∀ request ∈ (command.acts selected host (c.override o) launch).1.filterMap launched?,
          request.options = options c o host.platform) ∧
      (c.override o).tickIntervalMs = c.tickIntervalMs ∧
      (c.override o).terminateTimeoutMs = c.terminateTimeoutMs := by
  intro options
  have hlaunched (c : Config) (o : Config.Overrides) (command : SearchCommand)
      (selected : List Path) (host : Host) (launch : Launcher) :
      ∀ request ∈ (command.acts selected host (c.override o) launch).1.filterMap launched?,
        request.options = options c o host.platform := by
    intro request hrequest
    rw [SearchCommand.options_of_launched hrequest]
    exact Config.options_override c o host.platform
  refine ⟨fun _ _ => rfl, fun t paths h => Config.load_of_missing h, ?_, ?_, ?_⟩
  · intro t before after p hbefore hp loaded
    have hloaded : loaded = Config.readFile t p := Config.load_of_found hbefore hp
    rw [hloaded]
    refine ⟨fun t' after' hbefore' hp' hread => ?_, fun cause hread => ?_, fun bytes hread => ?_⟩
    · rw [Config.load_of_found hbefore' hp', Config.readFile_congr hread]
    · exact Config.readFile_of_refused hread
    · refine ⟨Config.readFile_of_notText hread, fun content htext => ?_⟩
      refine ⟨Config.readFile_of_notToml hread htext, fun entries hparse => ?_⟩
      exact ⟨(Toml.sound_of_parse? hparse).distinct,
        fun a ha => Config.readFile_of_assigns hread htext hparse ha,
        Config.readFile_of_wrongKind hread htext hparse⟩
  · intro words around line hline loaded
    refine ⟨fun e he => run_of_configError hline he, fun c hc => ?_⟩
    intro config acts
    have hrun : run words around = line.search around.environment around c :=
      run_of_config hline hc
    exact ⟨hrun, hrun.trans (line.search_eq around.environment around c),
      hlaunched c line.overrides line.command line.paths (line.host around) _⟩
  · intro c o
    exact ⟨Config.options_override c o, hlaunched c o, Config.durations_override c o⟩

end CommandLine

end SelectorSearch
