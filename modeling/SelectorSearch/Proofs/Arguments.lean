import SelectorSearch.Invocation

/-!
# What a Command Line Says

The command line of a search tells which search it is. Its values may be any texts, also such that
look like flags, so what a word means is decided by its place alone. The first word is the flag of
the selector, unless there is a script; behind the selector there is one of three flags, and each
of the optional ones is followed by a value and then by a later flag. So the words can be taken off
from the front, one part after another (`flag_append_inj`).

Two things are beyond this. A script that is called like the flag of the selector cannot be told
from that flag, and a pattern with a comma cannot be told from two patterns.

## Main results

* `joinedPatterns_injective`: patterns without commas can be told from their joined text.
* `arguments_inj`: the parts of the arguments, from the arguments.
* `invocation_eq_iff`: which searches have the same command line.
-/

namespace SelectorSearch

/-- A path is its text, so that two paths with the same text are equal. -/
theorem Path.text_injective {p q : Path} (h : p.text = q.text) : p = q := by
  obtain ⟨a⟩ := p
  obtain ⟨b⟩ := q
  exact congrArg Path.mk h

namespace Invocation

/-! ### Flags -/

/-- The words behind a flag that may be missing do not begin with it, so it can be told from them,
with its value. -/
theorem flag_append_inj {name : String} {value value' : Option String} {rest rest' : List String}
    (hrest : rest.head? ≠ some name) (hrest' : rest'.head? ≠ some name)
    (h : flag name value ++ rest = flag name value' ++ rest') :
    value = value' ∧ rest = rest' := by
  cases value with
  | none =>
      cases value' with
      | none => exact ⟨rfl, h⟩
      | some v' =>
          have hhead : rest = name :: v' :: rest' := h
          exact absurd (by rw [hhead]; rfl) hrest
  | some v =>
      cases value' with
      | none =>
          have hhead : name :: v :: rest = rest' := h
          exact absurd (by rw [← hhead]; rfl) hrest'
      | some v' =>
          have hcons : name :: v :: rest = name :: v' :: rest' := h
          obtain ⟨-, hvalues⟩ := List.cons.inj hcons
          obtain ⟨rfl, hrests⟩ := List.cons.inj hvalues
          exact ⟨rfl, hrests⟩

/-- The first of some words behind a flag that may be missing is this flag or the `next` one. -/
theorem head?_flag_append (name next : String) (value : Option String) (rest : List String) :
    (flag name value ++ next :: rest).head? = some name ∨
      (flag name value ++ next :: rest).head? = some next := by
  cases value with
  | none => exact .inr rfl
  | some v => exact .inl rfl

/-- A script that is not called like the flag of the selector can be told from this flag, and so
from the words behind it. -/
theorem script_append_inj {script script' : Option Path} {rest rest' : List String}
    (hscript : script ≠ some ⟨"--selector"⟩) (hscript' : script' ≠ some ⟨"--selector"⟩)
    (h : (script.map Path.text).toList ++ "--selector" :: rest =
      (script'.map Path.text).toList ++ "--selector" :: rest') :
    script = script' ∧ rest = rest' := by
  cases script with
  | none =>
      cases script' with
      | none => exact ⟨rfl, (List.cons.inj h).2⟩
      | some s' =>
          have hname : "--selector" = s'.text := (List.cons.inj h).1
          exact absurd (congrArg some (Path.text_injective hname.symm)) hscript'
  | some s =>
      cases script' with
      | none =>
          have hname : s.text = "--selector" := (List.cons.inj h).1
          exact absurd (congrArg some (Path.text_injective hname)) hscript
      | some s' =>
          obtain ⟨hname, hrests⟩ := List.cons.inj h
          exact ⟨congrArg some (Path.text_injective hname), (List.cons.inj hrests).2⟩

/-- **The parts of an invocation can be told from its arguments**, unless its script is called like
the flag of the selector. Behind the extension stands one of two flags, and neither is that of the
extension. -/
theorem arguments_inj {i j : Invocation} (hi : i.script ≠ some ⟨"--selector"⟩)
    (hj : j.script ≠ some ⟨"--selector"⟩) (h : i.arguments = j.arguments) :
    i.script = j.script ∧ i.selector = j.selector ∧ i.extension = j.extension ∧
      i.ignore = j.ignore ∧ i.paths = j.paths := by
  simp only [arguments, List.append_assoc, List.cons_append, List.nil_append] at h
  obtain ⟨hscript, hselector⟩ := script_append_inj hi hj h
  obtain ⟨hsame, hflags⟩ := List.cons.inj hselector
  have hbehind (k : Invocation) :
      (flag "--ignore" k.ignore ++ "--json" :: k.paths.map Path.text).head? ≠
        some "--extension" := by
    have hhead := head?_flag_append "--ignore" "--json" k.ignore (k.paths.map Path.text)
    rcases hhead with hhead | hhead <;> rw [hhead] <;> decide
  obtain ⟨hextension, hignores⟩ := flag_append_inj (hbehind i) (hbehind j) hflags
  obtain ⟨hignore, hwords⟩ := flag_append_inj (by simp) (by simp) hignores
  have hpaths : i.paths.map Path.text = j.paths.map Path.text := (List.cons.inj hwords).2
  exact ⟨hscript, hsame, hextension, hignore,
    (List.map_inj_right fun _ _ h => Path.text_injective h).mp hpaths⟩

end Invocation

namespace SearchRequest

/-! ### Patterns -/

/-- Patterns without commas can be told from their joined text; no patterns have no text, which is
not the text of an empty pattern. -/
theorem joinedPatterns_injective {patterns patterns' : List String}
    (h : ∀ p ∈ patterns, ',' ∉ p.toList) (h' : ∀ p ∈ patterns', ',' ∉ p.toList)
    (hjoined : joinedPatterns patterns = joinedPatterns patterns') : patterns = patterns' := by
  have hsplit : ∀ texts : List String, texts ≠ [] → (∀ p ∈ texts, ',' ∉ p.toList) →
      (String.intercalate "," texts).toList.splitOn ',' = texts.map String.toList := by
    intro texts hne htexts
    rw [String.toList_intercalate]
    exact List.splitOn_intercalate ',' (List.forall_mem_map.mpr htexts) (by simpa using hne)
  by_cases hnil : patterns = []
  · by_cases hnil' : patterns' = []
    · rw [hnil, hnil']
    · simp [joinedPatterns, hnil, hnil'] at hjoined
  · by_cases hnil' : patterns' = []
    · simp [joinedPatterns, hnil, hnil'] at hjoined
    · have htext : String.intercalate "," patterns = String.intercalate "," patterns' := by
        simpa [joinedPatterns, hnil, hnil'] using hjoined
      have hlists : patterns.map String.toList = patterns'.map String.toList := by
        rw [← hsplit patterns hnil h, htext, hsplit patterns' hnil' h']
      exact (List.map_inj_right fun _ _ h => String.toList_inj.mp h).mp hlists

/-! ### Searches -/

variable {r r' : SearchRequest}

/-- Only a search inside a path has a working directory, so that the directory tells the mode. -/
theorem mode_eq_of_workingDirectory {t : FileTree}
    (h : r.workingDirectory t = r'.workingDirectory t) : r.mode = r'.mode := by
  cases hm : r.mode <;> cases hm' : r'.mode <;> simp [workingDirectory, hm, hm'] at h ⊢

/-- **The command line determines the search.** Let the patterns of two requests have no commas, and
let no script be called like the flag of the selector. They have the same executable, arguments and
working directory, in some tree, exactly if they have the same mode, selector and options, which are
the executable, the script, the extension and the patterns, and search the same: the same paths in
the same order, or inside the same directory. -/
theorem invocation_eq_iff (t : FileTree) (hpatterns : ∀ p ∈ r.options.ignore, ',' ∉ p.toList)
    (hpatterns' : ∀ p ∈ r'.options.ignore, ',' ∉ p.toList)
    (hscript : r.options.script ≠ some ⟨"--selector"⟩)
    (hscript' : r'.options.script ≠ some ⟨"--selector"⟩) :
    ((r.invocation t).executable = (r'.invocation t).executable ∧
      (r.invocation t).arguments = (r'.invocation t).arguments ∧
      (r.invocation t).workingDirectory = (r'.invocation t).workingDirectory) ↔
    (r.mode = r'.mode ∧ r.selector = r'.selector ∧
      r.options.executable = r'.options.executable ∧ r.options.script = r'.options.script ∧
      r.options.extension = r'.options.extension ∧ r.options.ignore = r'.options.ignore ∧
      (r.mode = .explicitPaths → r.paths = r'.paths) ∧
      (r.mode = .workingDirectory →
        directoryOf t r.primaryPath = directoryOf t r'.primaryPath)) := by
  constructor
  · rintro ⟨hexecutable, harguments, hdirectory⟩
    have hmode : r.mode = r'.mode := mode_eq_of_workingDirectory hdirectory
    obtain ⟨hsame, hselector, hextension, hjoined, hpaths⟩ :=
      Invocation.arguments_inj hscript hscript' harguments
    have hignore : r.options.ignore = r'.options.ignore :=
      joinedPatterns_injective hpatterns hpatterns' hjoined
    refine ⟨hmode, hselector, hexecutable, hsame, hextension, hignore, ?_, ?_⟩
    · intro hm
      simpa [invocation, argumentPaths, hm, hmode ▸ hm] using hpaths
    · intro hm
      simpa [invocation, workingDirectory, hm, hmode ▸ hm] using hdirectory
  · rintro ⟨hmode, hselector, hexecutable, hsame, hextension, hignore, hpaths, hdirectory⟩
    have hsearched : r.argumentPaths = r'.argumentPaths ∧
        r.workingDirectory t = r'.workingDirectory t := by
      cases hm : r.mode with
      | workingDirectory =>
          simp [argumentPaths, workingDirectory, hm, hmode ▸ hm, hdirectory hm]
      | explicitPaths => simp [argumentPaths, workingDirectory, hm, hmode ▸ hm, hpaths hm]
    have hinvocation : r.invocation t = r'.invocation t := by
      simp only [invocation, hselector, hexecutable, hsame, hextension, hignore, hsearched]
    rw [hinvocation]
    exact ⟨rfl, rfl, rfl⟩

/-- Two searches whose values all look like flags, one without patterns and one with an empty
pattern. -/
theorem invocation_ne_of_empty_pattern :
    let search (patterns : List String) : SearchRequest :=
      ⟨"--ignore", [⟨"--json"⟩, ⟨""⟩], ⟨⟨"node"⟩, some ⟨"--json"⟩, some "--selector", patterns⟩,
        .explicitPaths, by decide, by decide⟩
    (∀ p ∈ [""], ',' ∉ p.toList) ∧
      some (⟨"--json"⟩ : Path) ≠ some ⟨"--selector"⟩ ∧
      ((search []).invocation {}).arguments ≠ ((search [""]).invocation {}).arguments := by
  intro search
  have hpatterns : ∀ p ∈ [""], ',' ∉ p.toList := by decide
  have hscript : some (⟨"--json"⟩ : Path) ≠ some ⟨"--selector"⟩ := by decide
  refine ⟨hpatterns, hscript, fun harguments => ?_⟩
  have hsame := (@invocation_eq_iff (search []) (search [""]) {} (by decide) hpatterns
    hscript hscript).mp ⟨rfl, harguments, rfl⟩
  obtain ⟨-, -, -, -, -, hignore, -⟩ := hsame
  cases hignore

/-- A script that is called like the flag of the selector is taken for that flag. -/
example :
    let options (script : Option Path) : SearchOptions := ⟨⟨"node"⟩, script, none, []⟩
    let r : SearchRequest := ⟨"--json", [⟨"site"⟩], options (some ⟨"--selector"⟩), .explicitPaths,
      by decide, by decide⟩
    let r' : SearchRequest := ⟨"--selector", [⟨"--json"⟩, ⟨"site"⟩], options none, .explicitPaths,
      by decide, by decide⟩
    (r.invocation {}).arguments = (r'.invocation {}).arguments := by
  decide

end SearchRequest

end SelectorSearch
