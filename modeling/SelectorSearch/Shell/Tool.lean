import SelectorSearch.Shell.State

/-!
# Tools

The programs that can be run, by a script or in place of the search tool: a shell and a few of the
programs that every system has. Where they are is part of the file tree; an executable file says
which tool it is.

A program whose name has no slash is looked for in the usual directories. A directory that does
not exist, or does not have it, is passed over; a file that may not be executed is remembered, in
case nothing better is found.

## Main results

* `searchProgram_eq_ok_iff`: the first directory that has a program decides.
-/

namespace SelectorSearch.Shell

/-- A program that can be run, as far as scripts and searches need one. -/
inductive Tool where
  | shell
  | cat
  | echo
  | printf
  | pwd
  | sleep
  | head
  | seq
  /-- Ends with this code. -/
  | ending (code : Nat)
  deriving DecidableEq, Repr

/-- The tools by their names. -/
def tools : List (String × Tool) :=
  [("sh", .shell), ("cat", .cat), ("echo", .echo), ("printf", .printf), ("pwd", .pwd),
    ("sleep", .sleep), ("head", .head), ("seq", .seq), ("true", .ending 0), ("false", .ending 1)]

/-- The directories in which programs are looked for, in their order. -/
def programDirectories : List Path :=
  [⟨"/usr/local/bin"⟩, ⟨"/usr/bin"⟩, ⟨"/bin"⟩]

/-- A tree with the `tools` in their places. -/
def installTools (t : FileTree) : FileTree :=
  [Path.mk "/usr/bin", ⟨"/bin"⟩].foldl
    (fun t folder => tools.foldl
      (fun t (name, _) => t.writeFile (folder.join ⟨name⟩) (bytesOfString name) true) t)
    t

/-- The tool that an executable file is, by its content. -/
def toolOf? (content : List UInt8) : Option Tool :=
  tools.lookup (String.ofList (Utf8.decode content))

/-- The program at a path, or why there is none. -/
def programAt (t : FileTree) (p : Path) : Except OsError Tool := do
  match ← t.node p with
  | .file content true =>
    match toolOf? content with
    | some tool => .ok tool
    | none => .error .permissionDenied
  | _ => .error .permissionDenied

/-- The program with a name in the first of some directories that has it; without one, the error
that was `remembered`. -/
def searchProgram (t : FileTree) (name : String) (remembered : OsError) :
    List Path → Except OsError Tool
  | [] => .error remembered
  | folder :: rest =>
    match programAt t (folder.join ⟨name⟩) with
    | .ok tool => .ok tool
    | .error .permissionDenied => searchProgram t name .permissionDenied rest
    | .error _ => searchProgram t name remembered rest

/-- The program with a name, which is searched for, or at a path. -/
def findProgram (t : FileTree) (name : String) : Except OsError Tool :=
  if name.toList.contains '/' then programAt t ⟨name⟩
  else if name.isEmpty then .error .notFound
  else if FileTree.maxNameBytes < name.utf8ByteSize then .error .nameTooLong
  else searchProgram t name .notFound programDirectories

/-- **The first directory that has the program decides**: whichever error is remembered, a program
is found exactly if one of the `folders` has it and none before that one does. -/
theorem searchProgram_eq_ok_iff {t : FileTree} {name : String} {remembered : OsError}
    {folders : List Path} {tool : Tool} :
    searchProgram t name remembered folders = .ok tool ↔
      ∃ before folder after, folders = before ++ folder :: after ∧
        programAt t (folder.join ⟨name⟩) = .ok tool ∧
        ∀ other ∈ before, ∃ e, programAt t (other.join ⟨name⟩) = .error e := by
  induction folders generalizing remembered with
  | nil => simp [searchProgram]
  | cons first rest ih =>
      cases hfirst : programAt t (first.join ⟨name⟩) with
      | ok found =>
          rw [searchProgram, hfirst]
          constructor
          · intro h
            exact ⟨[], first, rest, rfl, hfirst.trans h, fun _ h => absurd h List.not_mem_nil⟩
          · rintro ⟨before, folder, after, hfolders, hfolder, hbefore⟩
            cases before with
            | nil =>
                obtain ⟨rfl, rfl⟩ := List.cons.inj hfolders
                exact hfirst.symm.trans hfolder
            | cons other before =>
                obtain ⟨rfl, -⟩ := List.cons.inj hfolders
                obtain ⟨e, he⟩ := hbefore first List.mem_cons_self
                rw [hfirst] at he
                cases he
      | error e =>
          have hnext : ∃ remembered', searchProgram t name remembered (first :: rest) =
              searchProgram t name remembered' rest := by
            rw [searchProgram, hfirst]
            cases e <;> exact ⟨_, rfl⟩
          obtain ⟨remembered', hnext⟩ := hnext
          rw [hnext, ih]
          constructor
          · rintro ⟨before, folder, after, rfl, hfolder, hbefore⟩
            exact ⟨first :: before, folder, after, rfl, hfolder,
              List.forall_mem_cons.mpr ⟨⟨e, hfirst⟩, hbefore⟩⟩
          · rintro ⟨before, folder, after, hfolders, hfolder, hbefore⟩
            cases before with
            | nil =>
                obtain ⟨rfl, rfl⟩ := List.cons.inj hfolders
                rw [hfirst] at hfolder
                cases hfolder
            | cons other before =>
                obtain ⟨rfl, rfl⟩ := List.cons.inj hfolders
                exact ⟨before, folder, after, rfl, hfolder, (List.forall_mem_cons.mp hbefore).2⟩

end SelectorSearch.Shell
