import SelectorSearch.Proofs.Components
import SelectorSearch.Proofs.Conduct

/-!
# What a Command Searches

Both commands choose from the same paths, which are those that are selected, or else the project
folders that contain the active file. One command takes all of them and the other one the first, so
neither can fail without the other, and neither is left with nothing.

Whether a folder contains the active file is a matter of components (`Path.startsWith_iff`), and
what a respelled or a longer path makes of these is known from `Path.Respelled.components_eq` and
`Path.startsWith_sibling`.

## Main results

* `scope_selectedFolders_eq`: what the folders command searches.
* `prepare_eq_ok_some`, `prepare_eq_error`: what a request is made of, and why there is none.
* `scope_and_containment`: the scope of both commands, containment, and the requests that are made.
-/

namespace SelectorSearch.SearchCommand

variable {command : SearchCommand} {selected folders paths : List Path} {activeFile : Option Path}
  {host : Host} {config : Config} {request : SearchRequest}

/-! ### Scopes -/

/-- The folders command searches all that there is to choose from, and fails with `invalidDirectory`
if that is nothing. -/
theorem scope_selectedFolders_eq (selected folders : List Path) (activeFile : Option Path) :
    scope .selectedFolders selected activeFile folders =
      if candidates selected activeFile folders = [] then .error .invalidDirectory
      else .ok (candidates selected activeFile folders) := by
  simp only [scope, List.isEmpty_iff]
  rfl

/-- There is only one reason for either command to search nothing, and that is
`invalidDirectory`. -/
theorem scope_eq_error {e : SearchError}
    (h : command.scope selected activeFile folders = .error e) : e = .invalidDirectory := by
  simp only [scope] at h
  split at h
  · exact (Except.error.inj h).symm
  · cases h

/-- What is `selected` is searched in its order, whatever the active file and the open folders
are. -/
theorem scope_selectedFolders_of_selected (h : selected ≠ []) (activeFile : Option Path)
    (folders : List Path) : scope .selectedFolders selected activeFile folders = .ok selected := by
  have hcandidates : candidates selected activeFile folders = selected := by
    simp [candidates, h]
  rw [scope_selectedFolders_eq, hcandidates, if_neg h]

/-- If nothing is selected, there are those `folders` to choose from whose components are a prefix
of those of the active file. -/
theorem candidates_nil_some (file : Path) (folders : List Path) :
    candidates [] (some file) folders =
      folders.filter fun folder => folder.components <+: file.components := by
  have hfilter : ∀ folder ∈ folders,
      file.startsWith folder = decide (folder.components <+: file.components) := by
    intro folder _
    rw [Bool.eq_iff_iff, decide_eq_true_iff]
    exact Path.startsWith_iff
  exact List.filter_congr hfilter

/-- If nothing is selected, there is nothing to search exactly if no folder contains the active
file, in particular if there is none. -/
theorem candidates_nil_eq_nil_iff :
    candidates [] activeFile folders = [] ↔
      ∀ file, activeFile = some file → ∀ folder ∈ folders,
        ¬folder.components <+: file.components := by
  cases activeFile with
  | none => exact ⟨fun _ file h => (Option.some_ne_none file h.symm).elim, fun _ => rfl⟩
  | some file =>
      rw [candidates_nil_some, List.filter_eq_nil_iff]
      simp

/-- The paths command searches the first path of what the folders command searches, and no other. -/
theorem scope_selectedPaths_of_ok
    (h : scope .selectedFolders selected activeFile folders = .ok paths) :
    ∃ first rest, paths = first :: rest ∧
      scope .selectedPaths selected activeFile folders = .ok [first] := by
  obtain ⟨first, rest, rfl⟩ := List.exists_cons_of_ne_nil (scope_ne_nil h)
  refine ⟨first, rest, rfl, ?_⟩
  rw [scope_selectedPaths, h]
  rfl

/-- The two commands fail together, for the same reason `e`. -/
theorem scope_selectedPaths_eq_error_iff {e : SearchError} :
    scope .selectedPaths selected activeFile folders = .error e ↔
      scope .selectedFolders selected activeFile folders = .error e := by
  rw [scope_selectedPaths]
  cases scope .selectedFolders selected activeFile folders with
  | error e' => simp [Except.map]
  | ok paths => simp [Except.map]

/-! ### Requests -/

/-- **What a request is made of**: the scope, the answer to the question and the options of the
`config`, in the mode of the command. -/
theorem prepare_eq_ok_some (h : (command.prepare selected host config).2 = .ok (some request)) :
    ∃ paths selector, command.scope selected host.activeFile host.folders = .ok paths ∧
      host.answer (host.selection.getD "") = some selector ∧
      SearchRequest.make selector paths (config.options host.platform) command.mode =
        .ok request := by
  unfold prepare at h
  split at h
  · cases h
  · next paths hpaths =>
      dsimp only at h
      split at h
      · cases h
      · next selector hselector =>
          refine ⟨paths, selector, hpaths, hselector, ?_⟩
          dsimp only at h
          cases hmake : SearchRequest.make selector paths (config.options host.platform)
              command.mode with
          | error e =>
              rw [hmake] at h
              cases h
          | ok made =>
              rw [hmake] at h
              cases h
              rfl

/-- If no request can be made, then there is no scope, or the answer to the question is blank. -/
theorem prepare_eq_error {e : SearchError}
    (h : (command.prepare selected host config).2 = .error e) :
    command.scope selected host.activeFile host.folders = .error e ∨
      e = .request .emptySelector := by
  unfold prepare at h
  split at h
  · next e' he' =>
      obtain rfl := Except.error.inj h
      exact .inl he'
  · next paths hpaths =>
      dsimp only at h
      split at h
      · cases h
      · next selector hselector =>
          cases hblank : Text.allBlank selector with
          | true =>
              rw [SearchRequest.make_of_blank hblank] at h
              exact .inr (Except.error.inj h).symm
          | false =>
              obtain ⟨made, hmake, -⟩ := SearchRequest.make_of_not_blank hblank
                (scope_ne_nil hpaths) (config.options host.platform) command.mode
              rw [hmake] at h
              cases h

/-- A command never fails for having nothing to search: a scope is never empty, so that `noTargets`
is not the error. -/
theorem prepare_ne_noTargets (command : SearchCommand) (selected : List Path) (host : Host)
    (config : Config) :
    (command.prepare selected host config).2 ≠ .error (.request .noTargets) := by
  intro h
  rcases prepare_eq_error h with hscope | hempty
  · cases scope_eq_error hscope
  · cases hempty

/-- A prepared request that runs inside a path has this path alone, which is the first one that the
folders command would search. -/
theorem paths_of_workingDirectory
    (h : (command.prepare selected host config).2 = .ok (some request))
    (hmode : request.mode = .workingDirectory) :
    request.paths = [request.primaryPath] ∧
      ∃ rest, scope .selectedFolders selected host.activeFile host.folders =
        .ok (request.primaryPath :: rest) := by
  obtain ⟨paths, selector, hscope, -, hmake⟩ := prepare_eq_ok_some h
  obtain ⟨-, hpaths, -, hmade⟩ := SearchRequest.of_make hmake
  cases command with
  | selectedFolders => cases hmade.symm.trans hmode
  | selectedPaths =>
      cases hfolders : scope .selectedFolders selected host.activeFile host.folders with
      | error e => cases (scope_selectedPaths_eq_error_iff.mpr hfolders).symm.trans hscope
      | ok all =>
          obtain ⟨first, rest, rfl, hfirst⟩ := scope_selectedPaths_of_ok hfolders
          have hone : request.paths = [first] := by
            rw [hpaths]
            exact Except.ok.inj (hscope.symm.trans hfirst)
          have hprimary : request.primaryPath = first := by
            simp only [SearchRequest.primaryPath, hone, List.head_cons]
          rw [hprimary]
          exact ⟨hone, rest, rfl⟩

open SelectorSearch.Path in
/-- **What is searched.** The two commands fail together, and the paths command searches the first
path of what the folders command searches. That is what is selected, in its order and whatever the
active file is. If nothing is selected, it is those folders, in their order and with repetitions,
whose components are a prefix of those of the active file; there is no scope exactly if there is no
active file or no such folder.

Containment goes by components, so respelling the file or the folder changes nothing. A folder
contains what stands behind it and a slash, and if it ends in an ordinary component it contains
nothing within a sibling whose name is longer.

So a scope is never empty, no request fails for having nothing to search, and a request that runs
inside a path has this path alone. -/
theorem scope_and_containment (selected folders : List Path) (activeFile : Option Path) :
    let folderScope := scope .selectedFolders selected activeFile folders
    let pathScope := scope .selectedPaths selected activeFile folders
    (∀ e, pathScope = .error e ↔ folderScope = .error e) ∧
    (∀ paths, folderScope = .ok paths →
      ∃ first rest, paths = first :: rest ∧ pathScope = .ok [first]) ∧
    (selected ≠ [] → folderScope = .ok selected) ∧
    (selected = [] →
      ((∃ e, folderScope = .error e) ↔ ∀ file, activeFile = some file →
        ∀ folder ∈ folders, ¬folder.components <+: file.components) ∧
      ∀ file paths, activeFile = some file → folderScope = .ok paths →
        paths = folders.filter fun folder => folder.components <+: file.components) ∧
    (∀ file folder : Path, file.startsWith folder = true ↔ folder.components <+: file.components) ∧
    (∀ file file' folder folder' : Path, Relation.EqvGen Respelled file file' →
      Relation.EqvGen Respelled folder folder' →
      file.startsWith folder = file'.startsWith folder') ∧
    (∀ folder rest : String, startsWith ⟨folder ++ "/" ++ rest⟩ ⟨folder⟩ = true) ∧
    (∀ above name more below : String, (above = "" ∨ ∃ a, above = a ++ "/") → IsName name →
      more ≠ "" → '/' ∉ more.toList → (below = "" ∨ ∃ b, below = "/" ++ b) →
      startsWith ⟨above ++ name ++ more ++ below⟩ ⟨above ++ name⟩ = false) ∧
    (∀ command paths, scope command selected activeFile folders = .ok paths → paths ≠ []) ∧
    (∀ command host config,
      (prepare command selected host config).2 ≠ .error (.request .noTargets)) ∧
    ∀ command host config request,
      (prepare command selected host config).2 = .ok (some request) →
      request.mode = .workingDirectory →
      request.paths = [request.primaryPath] ∧
        ∃ rest, scope .selectedFolders selected host.activeFile host.folders =
          .ok (request.primaryPath :: rest) := by
  intro folderScope pathScope
  refine ⟨fun e => scope_selectedPaths_eq_error_iff, fun paths h => scope_selectedPaths_of_ok h,
    fun h => scope_selectedFolders_of_selected h activeFile folders, ?_, fun _ _ => startsWith_iff,
    ?_, startsWith_append_slash, fun _ _ _ _ habove hname hne hslash hbelow =>
    startsWith_sibling habove hname hne hslash hbelow, fun _ _ h => scope_ne_nil h,
    fun command host config => prepare_ne_noTargets command selected host config,
    fun _ _ _ _ h hmode => paths_of_workingDirectory h hmode⟩
  · rintro rfl
    have hscope := scope_selectedFolders_eq [] folders activeFile
    constructor
    · rw [← candidates_nil_eq_nil_iff, show folderScope = _ from hscope]
      split <;> simp [*]
    · intro file paths hfile hpaths
      rw [show folderScope = _ from hscope, hfile] at hpaths
      split at hpaths
      · cases hpaths
      · rw [← candidates_nil_some]
        exact (Except.ok.inj hpaths).symm
  · intro file file' folder folder' hfile hfolder
    rw [Bool.eq_iff_iff, startsWith_iff, startsWith_iff, components_eq_of_eqvGen hfile,
      components_eq_of_eqvGen hfolder]

end SelectorSearch.SearchCommand
