import SelectorSearch.Config.Entries
import SelectorSearch.FileTree
import SelectorSearch.Text.Utf8
import SelectorSearch.Toml.Document
import SelectorSearch.Toml.Excerpt

/-!
# Configuration Files

Configuration is read from the first path of a list that names anything. If that is no readable
file, or does not hold a configuration, there is an error; the paths after it are not looked at,
and defaults do not step in. They do when no path names anything.

## Main results

* `load_of_missing`: without any file the defaults hold.
* `load_of_found`: the first path that names anything decides.
* `UserSettings.folder_eq_some_iff`: where the settings of the user are.
-/

namespace SelectorSearch

/-- Why a configuration could not be had: its file cannot be read, is no text or no TOML, or a value
is at fault. -/
inductive ConfigError where
  /-- The file cannot be read. -/
  | refused (path : Path) (cause : OsError)
  /-- The content is no UTF-8. -/
  | notText (path : Path)
  /-- The content is no TOML. -/
  | notToml (path : Path)
  /-- A setting has a value of the wrong kind. -/
  | wrongKind (path : Path) (content : List Char) (fault : Config.Fault)
  deriving DecidableEq, Repr

namespace ConfigError

/-- The file that an error is about. -/
def path : ConfigError → Path
  | .refused p _ => p
  | .notText p => p
  | .notToml p => p
  | .wrongKind p _ _ => p

/-- The wording of an error, which names the file and says what is wrong with it. -/
def message : ConfigError → String
  | .refused p cause => "Failed to read config file " ++ p.text ++ ": " ++ cause.message
  | .notText p =>
    "Failed to read config file " ++ p.text ++ ": stream did not contain valid UTF-8"
  | .notToml p => "Failed to parse config file " ++ p.text ++ ": TOML parse error\n"
  | .wrongKind p content fault =>
    "Failed to parse config file " ++ p.text ++ ": "
      ++ Toml.excerpt content fault.span fault.mismatch.message

end ConfigError

namespace Config

/-- The configuration in a file: it is read as bytes, as text, as TOML and then as settings. -/
def readFile (t : FileTree) (p : Path) : Except ConfigError Config :=
  match t.read p with
  | .error cause => .error (.refused p cause)
  | .ok bytes =>
    match Utf8.decode? bytes with
    | none => .error (.notText p)
    | some content =>
      match Toml.parse? content with
      | none => .error (.notToml p)
      | some entries => (ofEntries entries).mapError (.wrongKind p content)

/-- The configuration in the first of some `paths` that names anything, and the default one if none
does. -/
def load (t : FileTree) (paths : List Path) : Except ConfigError Config :=
  match paths.find? t.contains with
  | some p => readFile t p
  | none => .ok {}

/-- Where the settings of the user are, on a system that says so. -/
structure UserSettings where
  folder : Option Path
  deriving DecidableEq, Repr

/-- The directory that the values of `XDG_CONFIG_HOME` and of `HOME` give. The first one counts only
if it is an absolute path; the settings are in `.config` below the second one otherwise. -/
def UserSettings.ofVariables (configHome home : Option Path) : UserSettings :=
  ⟨configHome.filter Path.isAbsolute <|> home.map fun p => p.join ".config"⟩

/-- Where configuration is looked for: in the current directory, then among the settings of the
user, if there is such a place. -/
def standardPaths (user : UserSettings) : List Path :=
  ⟨".element-finder.toml"⟩ ::
    (user.folder.map fun p => (p.join "element-finder").join "config.toml").toList

/-- Where configuration is looked for if the command line gives a path: there only. -/
def searchPaths (user : UserSettings) : Option Path → List Path
  | some p => [p]
  | none => standardPaths user

/-- **Where the settings of the user are**: at the value of `XDG_CONFIG_HOME` if that is an absolute
path, which no empty path is, and in the directory `.config` of `HOME` otherwise. -/
theorem UserSettings.folder_eq_some_iff {configHome home : Option Path} {p : Path} :
    (ofVariables configHome home).folder = some p ↔
      (configHome = some p ∧ p.isAbsolute = true) ∨
        ((∀ q, configHome = some q → q.isAbsolute = false) ∧
          ∃ q, home = some q ∧ p = q.join ".config") := by
  have hhome : home.map (·.join ".config") = some p ↔
      ∃ q, home = some q ∧ p = q.join ".config" := by
    rw [Option.map_eq_some_iff]
    exact exists_congr fun q => and_congr_right fun _ => eq_comm
  rw [ofVariables]
  cases configHome with
  | none =>
      refine hhome.trans ⟨fun h => .inr ⟨fun q hq => (by cases hq), h⟩, ?_⟩
      rintro (⟨hnone, -⟩ | ⟨-, h⟩)
      · cases hnone
      · exact h
  | some q =>
      cases hq : q.isAbsolute with
      | true =>
          rw [Option.filter_some, if_pos hq]
          constructor
          · intro h
            exact .inl ⟨h, Option.some.inj h ▸ hq⟩
          · rintro (⟨h, -⟩ | ⟨hrelative, -⟩)
            · exact h
            · exact absurd hq ((hrelative q rfl).symm ▸ Bool.false_ne_true)
      | false =>
          rw [Option.filter_some, if_neg (hq ▸ Bool.false_ne_true)]
          refine hhome.trans ⟨fun h => .inr ⟨fun q' hq' => Option.some.inj hq' ▸ hq, h⟩, ?_⟩
          rintro (⟨h, habsolute⟩ | ⟨-, h⟩)
          · rw [Option.some.inj h, habsolute] at hq
            cases hq
          · exact h

/-- Without any file among the `paths`, the defaults hold. -/
theorem load_of_missing {t : FileTree} {paths : List Path}
    (h : ∀ p ∈ paths, t.contains p = false) : load t paths = .ok {} := by
  have : paths.find? t.contains = none := List.find?_eq_none.2 (by simpa using h)
  simp [load, this]

/-- **The first path that names anything decides**, whatever is behind it. -/
theorem load_of_found {t : FileTree} {before after : List Path} {p : Path}
    (h : ∀ q ∈ before, t.contains q = false) (hp : t.contains p = true) :
    load t (before ++ p :: after) = readFile t p := by
  have hb : before.find? t.contains = none := List.find?_eq_none.2 (by simpa using h)
  simp [load, List.find?_append, hb, hp]

end Config

end SelectorSearch
