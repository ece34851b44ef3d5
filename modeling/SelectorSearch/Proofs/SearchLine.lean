import SelectorSearch.CommandLine

/-!
# What a Command Line Gives

A command line is read word by word, and each word may add to what its side of the command gives.
Whatever is added keeps that proper (`Given.Proper`): an option that takes one value takes it only
where it has none, and no path is empty. So a search line that is accepted holds no empty path,
neither as an operand nor as the value of an option.

## Main results

* `Given.Proper.read`: all that is read on one side of a command is proper.
* `text_ne_empty_of_parse`: no path of a search line is empty.
-/

namespace SelectorSearch.CommandLine

/-- Where `x` and then `f` lead to a result `b`, `x` leads to one that `f` goes on from. -/
theorem exists_of_bind {ε α β : Type} {x : Except ε α} {f : α → Except ε β} {b : β}
    (h : x.bind f = .ok b) : ∃ a, x = .ok a ∧ f a = .ok b := by
  cases x with
  | error e => cases h
  | ok a => exact ⟨a, rfl, h⟩

/-- Where `x` leads to a result that `f` changes to `b`, it leads to one before that. -/
theorem exists_of_map {ε α β : Type} {x : Except ε α} {f : α → β} {b : β}
    (h : x.map f = .ok b) : ∃ a, x = .ok a ∧ f a = b := by
  cases x with
  | error e => cases h
  | ok a => exact ⟨a, rfl, Except.ok.inj h⟩

namespace Given

/-- What one side of a command may give: an option that takes one value has at most one, and no path
is empty. -/
structure Proper (g : Given) : Prop where
  /-- No option that takes one value has two. -/
  unique : ∀ s : Setting, s.isRepeatable = false → (g.values s).length ≤ 1
  /-- The value of an option that takes a path is not empty. -/
  settings : ∀ v ∈ g.settings, v.1.isPath = true → v.2 ≠ ""
  /-- No operand is empty. -/
  paths : ∀ p ∈ g.paths, p.text ≠ ""

theorem proper_empty : Proper {} where
  unique _ _ := Nat.zero_le 1
  settings _ h := absurd h List.not_mem_nil
  paths _ h := absurd h List.not_mem_nil

variable {g g' : Given}

/-- Setting an option keeps what is given proper, since `Given.set` refuses an option that has its
one value already, and an empty path. -/
theorem Proper.set (h : g.Proper) {s : Setting} {value : String} (hset : g.set s value = .ok g') :
    g'.Proper := by
  rw [Given.set] at hset
  split at hset
  case isTrue => cases hset
  case isFalse hfree =>
    split at hset
    case isTrue => cases hset
    case isFalse hfilled =>
      obtain rfl := Except.ok.inj hset
      refine ⟨fun t ht => ?_, fun v hv hpath => ?_, h.paths⟩
      · have hvalues : ({ g with settings := g.settings ++ [(s, value)] } : Given).values t =
            g.values t ++ if s = t then [value] else [] := by
          rw [values, List.filterMap_append]
          split <;> simp_all [values]
        rw [hvalues, List.length_append]
        split
        case isTrue hst =>
            subst hst
            have hnone : g.values s = [] := by
              simpa [ht, value?] using hfree
            exact Nat.le_of_eq (congrArg (·.length + 1) hnone)
        case isFalse => exact h.unique t ht
      · rcases List.mem_append.mp hv with hv | hv
        · exact h.settings v hv hpath
        · obtain rfl := List.mem_singleton.mp hv
          rintro rfl
          exact hfilled (by simp [hpath])

theorem Proper.addPath (h : g.Proper) {text : String} (hadd : g.addPath text = .ok g') :
    g'.Proper := by
  rw [Given.addPath] at hadd
  split at hadd
  case isTrue => cases hadd
  case isFalse hfilled =>
      obtain rfl := Except.ok.inj hadd
      refine ⟨h.unique, h.settings, fun p hp => ?_⟩
      rcases List.mem_append.mp hp with hp | hp
      · exact h.paths p hp
      · obtain rfl := List.mem_singleton.mp hp
        rintro rfl
        exact hfilled rfl

theorem Proper.raise (h : g.Proper) {f : Flag} (hraise : g.raise f = .ok g') : g'.Proper := by
  cases f with
  | verbose =>
      obtain rfl := Except.ok.inj hraise
      exact ⟨h.unique, h.settings, h.paths⟩
  | help => cases hraise
  | version => cases hraise

theorem Proper.readLong (h : g.Proper) {side : Side} {name : String} {value : Option String}
    {left : Option Setting} (hread : g.readLong side name value = .ok (g', left)) : g'.Proper := by
  rw [Given.readLong.eq_def] at hread
  split at hread
  case h_1 =>
      obtain ⟨g₁, hset, hg⟩ := exists_of_map hread
      cases hg
      exact h.set hset
  case h_2 =>
      cases hread
      exact h
  case h_3 => cases hread
  case h_4 =>
      split at hread
      · obtain ⟨g₁, hraise, hg⟩ := exists_of_map hread
        cases hg
        exact h.raise hraise
      · cases hread

theorem Proper.readLetters (h : g.Proper) {side : Side} {letters : List Char}
    {left : Option Setting} (hread : g.readLetters side letters = .ok (g', left)) : g'.Proper := by
  induction letters generalizing g with
  | nil =>
      cases hread
      exact h
  | cons c rest ih =>
      rw [Given.readLetters.eq_def] at hread
      dsimp only at hread
      split at hread
      case h_1 =>
          cases hread
          exact h
      case h_2 | h_3 =>
          obtain ⟨g₁, hset, hg⟩ := exists_of_map hread
          cases hg
          exact h.set hset
      case h_4 =>
          split at hread
          · obtain ⟨g₁, hraise, hrest⟩ := exists_of_bind hread
            exact ih (h.raise hraise) hrest
          · cases hread

theorem Proper.setNext (h : g.Proper) {s : Setting} {word : String}
    (hset : g.setNext s word = .ok g') : g'.Proper := by
  rw [Given.setNext] at hset
  split at hset
  · exact h.set hset
  · cases hset

theorem Proper.foldlM_addPath (h : g.Proper) {texts : List String}
    (hadd : texts.foldlM Given.addPath g = .ok g') : g'.Proper := by
  induction texts generalizing g with
  | nil =>
      cases hadd
      exact h
  | cons text rest ih =>
      rw [List.foldlM_cons] at hadd
      obtain ⟨g₁, hfirst, hrest⟩ := exists_of_bind hadd
      exact ih (h.addPath hfirst) hrest

/-- An option that is left over takes the word behind its own, and what is given stays proper, where
all words that remain are read properly. -/
theorem Proper.readOn (h : g.Proper) {side : Side} {left : Option Setting}
    {rest unread : List String}
    (hread : (match (g, left) with
      | (g, none) => CommandLine.read side g rest
      | (g, some s) =>
        match rest with
        | [] => .error .refused
        | value :: rest => (g.setNext s value).bind (CommandLine.read side · rest)) =
          .ok (g', unread))
    (hrest : ∀ {words : List String} {g : Given}, words.length ≤ rest.length → g.Proper →
      CommandLine.read side g words = .ok (g', unread) → g'.Proper) : g'.Proper := by
  cases left with
  | none => exact hrest (Nat.le_refl _) h hread
  | some s =>
      cases rest with
      | nil => cases hread
      | cons value rest =>
          obtain ⟨g₁, hset, hmore⟩ := exists_of_bind hread
          exact hrest (Nat.le_succ _) (h.setNext hset) hmore

/-- **What is read on one side of a command is proper**, by induction on the number of its words,
since an option may take the word behind its own. -/
theorem Proper.read {side : Side} {words unread : List String} (h : g.Proper)
    (hread : read side g words = .ok (g', unread)) : g'.Proper := by
  induction hlength : words.length using Nat.strongRecOn generalizing words g with | ind n ih =>
  subst hlength
  cases words with
  | nil =>
      cases hread
      exact h
  | cons word rest =>
      have hrest {words : List String} {g : Given} (hle : words.length ≤ rest.length)
          (h : g.Proper) (hread : CommandLine.read side g words = .ok (g', unread)) : g'.Proper :=
        ih _ (Nat.lt_succ_of_le hle) h hread rfl
      rw [CommandLine.read.eq_def] at hread
      dsimp only at hread
      split at hread
      case h_1 =>
          cases hread
          exact h
      case h_2 =>
          obtain ⟨g₁, hadd, hmore⟩ := exists_of_bind hread
          exact hrest (Nat.le_refl _) (h.addPath hadd) hmore
      case h_3 => cases hread
      case h_4 =>
          obtain ⟨g₁, hadd, hg⟩ := exists_of_map hread
          cases hg
          exact h.foldlM_addPath hadd
      case h_5 =>
          obtain ⟨⟨g₁, left⟩, hlong, hmore⟩ := exists_of_bind hread
          exact (h.readLong hlong).readOn hmore hrest
      case h_6 =>
          obtain ⟨⟨g₁, left⟩, hletters, hmore⟩ := exists_of_bind hread
          exact (h.readLetters hletters).readOn hmore hrest

/-- The values of an option that takes a path are not empty, where what is given is proper. -/
theorem Proper.ne_of_mem_values (h : g.Proper) {s : Setting} (hpath : s.isPath = true)
    {value : String} (hvalue : value ∈ g.values s) : value ≠ "" := by
  obtain ⟨⟨t, text⟩, hmem, htext⟩ := List.mem_filterMap.mp hvalue
  dsimp only at htext
  split at htext
  case isTrue ht =>
      obtain rfl := Option.some.inj htext
      exact h.settings (t, text) hmem (ht ▸ hpath)
  case isFalse => cases htext

theorem Proper.ne_of_path? (h : g.Proper) {s : Setting} (hpath : s.isPath = true) {p : Path}
    (hp : g.path? s = some p) : p.text ≠ "" := by
  obtain ⟨value, hvalue, rfl⟩ := Option.map_eq_some_iff.mp hp
  exact h.ne_of_mem_values hpath (List.mem_of_head? hvalue)

end Given

/-- A search line is made of what was properly given on both sides of the command. -/
theorem exists_proper_of_parse {words : List String} {line : SearchLine}
    (h : parse words = .ok line) :
    ∃ command before behind, before.Proper ∧ behind.Proper ∧
      line = .ofGiven command before behind := by
  rw [parse] at h
  obtain ⟨⟨before, rest⟩, hbefore, h⟩ := exists_of_bind h
  cases rest with
  | nil => cases h
  | cons name rest =>
      dsimp only at h
      split at h
      · cases h
      split at h
      case h_1 => cases h
      case h_2 command _ =>
          obtain ⟨⟨behind, unread⟩, hbehind, hline⟩ := exists_of_map h
          exact ⟨command, before, behind, Given.proper_empty.read hbefore,
            Given.proper_empty.read hbehind, hline.symm⟩

/-- **No path of a search line is empty**, be it an operand or the value of an option, `p` among
them all. -/
theorem text_ne_empty_of_parse {words : List String} {line : SearchLine}
    (h : parse words = .ok line) {p : Path}
    (hp : p ∈ line.paths ++ line.folders ++
      [line.configFile, line.activeFile, line.overrides.node, line.overrides.script].flatMap
        Option.toList) : p.text ≠ "" := by
  obtain ⟨command, before, behind, hbefore, hbehind, rfl⟩ := exists_proper_of_parse h
  simp only [SearchLine.ofGiven, List.mem_append, List.mem_map, List.mem_flatMap, List.mem_cons,
    List.not_mem_nil, or_false, Option.mem_toList] at hp
  obtain (hp | ⟨value, hvalue, rfl⟩) | ⟨path?, rfl | rfl | rfl | rfl, hp⟩ := hp
  · exact hbehind.paths p hp
  · exact hbehind.ne_of_mem_values rfl hvalue
  · cases hconfig : behind.path? .config with
    | some q =>
        rw [hconfig] at hp
        obtain rfl := Option.some.inj hp
        exact hbehind.ne_of_path? rfl hconfig
    | none =>
        rw [hconfig] at hp
        exact hbefore.ne_of_path? rfl hp
  · exact hbehind.ne_of_path? rfl hp
  · exact hbehind.ne_of_path? rfl hp
  · exact hbehind.ne_of_path? rfl hp

end SelectorSearch.CommandLine
