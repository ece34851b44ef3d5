import SelectorSearch.Process.Spawn
import SelectorSearch.Proofs.ContainingFolder

/-!
# Where a Search Runs

A search in a working directory runs inside its primary path, or inside the folder of that path if
it is a file. A process that is started in a folder is the one that is started there
(`spawn_of_changeDirectory`), so for every target that exists the working directory never decides
how the start goes: with one exception. The folder of a file that is given by its name alone is the
empty path, which the system does not find, and what is then reported missing is the executable.

## Main results

* `spawn_inside`: inside a directory only the executable decides how the start goes.
* `runs_inside_iff`: the targets for which a search runs in a directory, and in which.
-/

namespace SelectorSearch

namespace Invocation

/-- The invocation `i` without its working directory, which leaves the process where it is. -/
def here (i : Invocation) : Invocation :=
  { i with workingDirectory := none }

variable {i : Invocation} {t t' : FileTree} {folder : Path} {environment : Shell.Environment}

/-- In a `folder` that can be entered, everything is as if the process were started there. -/
theorem spawn_of_changeDirectory (hi : i.workingDirectory = some folder)
    (hnul : '\x00' ∉ folder.text.toList) (h : t.changeDirectory folder = .ok t') :
    spawn t i environment = spawn t' i.here environment := by
  have hsame : i.hasNul = i.here.hasNul := by
    simp [hasNul, systemTexts, here, hi, hnul, arguments]
  have hprepare : i.prepare t = i.here.prepare t' := by
    have hthere : i.here.workingDirectory = none := rfl
    simp only [prepare, hsame, hi, hthere, h, bind, Except.bind]
    rfl
  rw [spawn, spawn, hprepare]
  rfl

/-- In a `folder` that does not exist, the executable counts as not found, whether it is there or
not. -/
theorem spawn_of_missing_folder (hi : i.workingDirectory = some folder) (hnul : i.hasNul = false)
    (h : t.changeDirectory folder = .error .notFound) :
    spawn t i environment = .error (.executableNotFound i.executable) := by
  have hprepare : i.prepare t = .error .notFound := by
    simp [prepare, hnul, hi, h, bind, Except.bind]
  rw [spawn, hprepare]
  rfl

end Invocation

namespace SearchRequest

open FileTree

variable {t : FileTree} {r : SearchRequest} {environment : Shell.Environment}

/-- **Only the executable decides** how the start goes inside a `folder` that is a directory. -/
theorem spawn_inside {folder : Path} (hfolder : (r.invocation t).workingDirectory = some folder)
    (h : t.isDirectory folder = true) :
    ∃ t', t.changeDirectory folder = .ok t' ∧
      spawn t (r.invocation t) environment = spawn t' (r.invocation t).here environment := by
  obtain ⟨place, hplace, hchange⟩ := changeDirectory_of_isDirectory h
  obtain ⟨⟨hnul, -⟩, -⟩ := locate_eq_ok_iff.mp hplace
  exact ⟨_, hchange, Invocation.spawn_of_changeDirectory hfolder hnul hchange⟩

/-- **Where a search runs.** If the primary path of a request names something, the search runs in a
directory exactly if that is a directory or the path has a slash: in the directory itself, or in the
one that contains the file. It then starts as if it were started there, in whatever environment. A
file that is given by its name alone leaves the empty path, and the executable counts as not
found. -/
theorem runs_inside_iff (hmode : r.mode = .workingDirectory)
    (htarget : t.contains r.primaryPath = true) (environment : Shell.Environment) :
    ∃ folder, (r.invocation t).workingDirectory = some folder ∧
      (t.isDirectory folder = true ↔
        t.isDirectory r.primaryPath = true ∨ '/' ∈ r.primaryPath.text.toList) ∧
      (t.isDirectory r.primaryPath = true → folder = r.primaryPath) ∧
      (t.isFile r.primaryPath = true → '/' ∈ r.primaryPath.text.toList →
        ∃ place, t.locate r.primaryPath = .ok place ∧ t.locate folder = .ok place.dropLast) ∧
      (t.isDirectory folder = true → ∃ t', t.changeDirectory folder = .ok t' ∧
        spawn t (r.invocation t) environment = spawn t' (r.invocation t).here environment) ∧
      (t.isDirectory folder = false → folder = ⟨""⟩ ∧ ((r.invocation t).hasNul = false →
        spawn t (r.invocation t) environment =
          .error (.executableNotFound r.options.executable))) := by
  have hinvocation : (r.invocation t).workingDirectory = some (directoryOf t r.primaryPath) := by
    simp [invocation, workingDirectory, hmode]
  obtain hdir | hfile := contains_iff.mp htarget
  · have hself : directoryOf t r.primaryPath = r.primaryPath := by
      simp [directoryOf, isFile_eq_false_of_isDirectory hdir]
    rw [hself] at hinvocation
    refine ⟨_, hinvocation, by simp [hdir], fun _ => rfl, ?_, spawn_inside hinvocation, ?_⟩
    · intro hfile
      simp [isFile_eq_false_of_isDirectory hdir] at hfile
    · intro hnot
      simp [hdir] at hnot
  · obtain ⟨place, content, executable, hplace, hnode⟩ := isFile_iff.mp hfile
    obtain ⟨folder, hparent, -, hlone, hslash⟩ := parent?_of_file hplace hnode
    have hfolder : directoryOf t r.primaryPath = folder := by
      simp [directoryOf, hfile, hparent]
    rw [hfolder] at hinvocation
    have hnot : ¬t.isDirectory r.primaryPath = true := fun hdir => by
      simp [isFile_eq_false_of_isDirectory hdir] at hfile
    refine ⟨folder, hinvocation, ⟨fun hdir => ?_, ?_⟩, fun hdir => absurd hdir hnot, ?_,
      spawn_inside hinvocation, fun hdir => ?_⟩
    · by_contra hno
      obtain rfl := hlone fun hs => hno (.inr hs)
      cases hdir
    · rintro (hdir | hs)
      · exact absurd hdir hnot
      · exact isDirectory_iff.mpr ⟨_, hslash hs⟩
    · exact fun _ hs => ⟨place, hplace, (hslash hs).1⟩
    · have hempty : folder = ⟨""⟩ := hlone fun hs => by
        simp [isDirectory_iff.mpr ⟨_, hslash hs⟩] at hdir
      refine ⟨hempty, fun hnul => ?_⟩
      exact Invocation.spawn_of_missing_folder hinvocation hnul (hempty ▸ rfl)

/-- The name of a file with a slash, and without one. -/
theorem runs_inside_site :
    let t : FileTree :=
      { top := .directory [("site", .directory [("index.html", .file [] false)])] }
    let r : SearchRequest :=
      ⟨"p", [⟨"site//index.html"⟩], ⟨⟨"node"⟩, none, none, []⟩, .workingDirectory, by decide,
        by decide⟩
    t.contains r.primaryPath = true ∧ (r.invocation t).workingDirectory = some ⟨"site"⟩ ∧
      t.isDirectory ⟨"site"⟩ = true := by
  intro t r
  have htarget : t.contains r.primaryPath = true := by decide
  obtain ⟨folder, hfolder, hiff, -⟩ := runs_inside_iff rfl htarget {}
  have hsite : folder = ⟨"site"⟩ := by
    rw [← Option.some.injEq, ← hfolder]
    decide
  exact ⟨htarget, hsite ▸ hfolder, hsite ▸ hiff.mpr (.inr (by decide))⟩

/-- A file that is given by its name alone cannot be searched, though the same file can with a dot
and a slash before its name. -/
theorem not_runs_inside_of_lone_name :
    let t : FileTree := ⟨.directory [("page.html", .file [] false),
      ("node", .file (Shell.bytesOfString "sh") true)], []⟩
    let search (path : String) : SearchRequest :=
      ⟨"p", [⟨path⟩], ⟨⟨"/node"⟩, none, none, []⟩, .workingDirectory, by decide, by simp⟩
    t.isFile ⟨"page.html"⟩ = true ∧
      ((search "page.html").invocation t).workingDirectory = some ⟨""⟩ ∧
      t.isDirectory ⟨""⟩ = false ∧
      spawn t ((search "page.html").invocation t) = .error (.executableNotFound ⟨"/node"⟩) ∧
      (((search "./page.html").invocation t).prepare t).isOk = true := by
  intro t search
  have hempty : ((search "page.html").invocation t).workingDirectory = some ⟨""⟩ := by decide
  refine ⟨by decide, hempty, rfl, ?_, by decide⟩
  exact Invocation.spawn_of_missing_folder hempty (by decide) rfl

end SearchRequest

end SelectorSearch
