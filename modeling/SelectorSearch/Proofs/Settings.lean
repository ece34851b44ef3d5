import SelectorSearch.Config.Entries
import SelectorSearch.Proofs.TomlKeys

/-!
# Settings of a File

A configuration file gives some of nine settings, each at most once, since its keys are distinct.
What an entry can make of a configuration is said once (`Entered`). A `Setting` is one of the nine
with what is common to them: its own entry gives it the value that is spelled there, and no other
entry touches it. So after all entries it has the value of its entry, or the one from before
(`Setting.get_of_enterAll`), in whatever order the entries stand and whatever else is there.

## Main results

* `enter_eq_ok_iff`: the entries that a configuration takes.
* `Setting.get_of_enterAll`: one setting after all entries.
* `ofEntries_eq_ok_iff`: the configuration that a file makes is the default one with the settings
  that the file gives.
-/

namespace SelectorSearch.Config

open Toml (Located Entries Value)

/-! ### Spelling -/

/-- The value `v` is a string, and its characters are this `text`. -/
def SpellsText (v : Value) (text : String) : Prop :=
  v = .string text

/-- The value `v` is a string, which is the path `p` as it stands. -/
def SpellsPath (v : Value) (p : Path) : Prop :=
  v = .string p.text

/-- The value `v` is an integer, and it is the number `n` of 64 bits. -/
def SpellsCount (v : Value) (n : UInt64) : Prop :=
  v = .integer n.toNat

/-- The value `v` is an array of strings, which are these `texts` in their order. -/
def SpellsTexts (v : Value) (texts : List String) : Prop :=
  ∃ items, v.elements? = some items ∧ items.map Prod.snd = texts.map .string

theorem textOf_eq_ok_iff {wanted : Wanted} {v : Located} {text : String} :
    textOf wanted v = .ok text ↔ SpellsText v.2 text := by
  obtain ⟨span, v⟩ := v
  cases v <;> simp [textOf, SpellsText]

theorem pathOf_eq_ok_iff {v : Located} {p : Path} : pathOf v = .ok p ↔ SpellsPath v.2 p := by
  constructor
  · intro h
    cases htext : textOf .path v with
    | error e =>
        rw [pathOf, htext] at h
        cases h
    | ok text =>
        rw [pathOf, htext] at h
        obtain rfl := Except.ok.inj h
        exact textOf_eq_ok_iff.mp htext
  · intro h
    have htext : textOf .path v = .ok p.text := textOf_eq_ok_iff.mpr h
    rw [pathOf, htext]
    rfl

/-- A number is read from exactly those integers that have 64 bits and are not negative. -/
theorem countOf_eq_ok_iff {v : Located} (hfits : v.2.Fits) {n : UInt64} :
    countOf v = .ok n ↔ SpellsCount v.2 n := by
  obtain ⟨span, v⟩ := v
  cases v with
  | integer k =>
      have hlimit : (Toml.wordLimit : Int) < UInt64.size := by decide
      have hk : k < Toml.wordLimit := hfits.2
      rw [countOf]
      split
      · next hpos =>
          have hsmall : k.toNat < UInt64.size := by omega
          have hback : (UInt64.ofNat k.toNat).toNat = k.toNat :=
            UInt64.toNat_ofNat_of_lt hsmall
          constructor
          · intro h
            obtain rfl := Except.ok.inj h
            rw [SpellsCount, hback, Int.toNat_of_nonneg hpos]
          · intro h
            obtain rfl := Value.integer.inj h
            rw [Int.toNat_natCast, UInt64.ofNat_toNat]
      · next hneg =>
          refine ⟨nofun, fun h => ?_⟩
          obtain rfl := Value.integer.inj h
          omega
  | _ => simp [countOf, SpellsCount]

/-- Texts are read from an array one after another, and exactly if each of its items is a string. -/
theorem mapM_textOf_eq_ok_iff {items : List Located} {texts : List String} :
    items.mapM (textOf .text) = .ok texts ↔ items.map Prod.snd = texts.map Value.string := by
  induction items generalizing texts with
  | nil => cases texts <;> simp [pure, Except.pure]
  | cons item rest ih =>
      rw [List.mapM_cons, bind_eq_ok_iff]
      constructor
      · rintro ⟨text, htext, h⟩
        obtain ⟨more, hmore, h⟩ := bind_eq_ok_iff.mp h
        obtain rfl := Except.ok.inj h
        rw [List.map_cons, List.map_cons, ih.mp hmore, textOf_eq_ok_iff.mp htext]
      · intro h
        cases texts with
        | nil => cases h
        | cons text more =>
            obtain ⟨htext, hmore⟩ := List.cons.inj h
            exact ⟨text, textOf_eq_ok_iff.mpr htext,
              bind_eq_ok_iff.mpr ⟨more, ih.mpr hmore, rfl⟩⟩

theorem textsOf_eq_ok_iff {v : Located} {texts : List String} :
    textsOf v = .ok texts ↔ SpellsTexts v.2 texts := by
  rw [textsOf, SpellsTexts]
  cases v.2.elements? with
  | none => exact ⟨nofun, nofun⟩
  | some items => simp [mapM_textOf_eq_ok_iff]

/-! ### Entries -/

/-- The settings that a configuration file can give, each of them under one key. -/
inductive SettingName where
  | nodePath
  | nodePathOsx
  | nodePathWindows
  | nodePathLinux
  | scriptPath
  | extension
  | ignore
  | tickIntervalMs
  | terminateTimeoutMs
  deriving DecidableEq

/-- The key under which a configuration file gives a setting, and nothing else. -/
def SettingName.key : SettingName → String
  | nodePath => "node_path"
  | nodePathOsx => "node_path_osx"
  | nodePathWindows => "node_path_windows"
  | nodePathLinux => "node_path_linux"
  | scriptPath => "script_path"
  | extension => "extension"
  | ignore => "ignore"
  | tickIntervalMs => "tick_interval_ms"
  | terminateTimeoutMs => "terminate_timeout_ms"

/-- Two settings have two keys, so that an entry is about one setting at most. -/
theorem SettingName.key_injective {a b : SettingName} (h : a.key = b.key) : a = b := by
  cases a <;> cases b <;> first | rfl | exact absurd h (by decide)

/-- What the value `v` of a setting can make of a configuration `c`: its own field is replaced, if
the value is of the right kind. -/
inductive Entered (c : Config) (v : Located) : SettingName → Config → Prop
  | nodePath {p} (h : pathOf v = .ok p) : Entered c v .nodePath { c with nodePath := p }
  | nodePathOsx {p} (h : pathOf v = .ok p) :
      Entered c v .nodePathOsx { c with nodePathOsx := some p }
  | nodePathWindows {p} (h : pathOf v = .ok p) :
      Entered c v .nodePathWindows { c with nodePathWindows := some p }
  | nodePathLinux {p} (h : pathOf v = .ok p) :
      Entered c v .nodePathLinux { c with nodePathLinux := some p }
  | scriptPath {p} (h : pathOf v = .ok p) :
      Entered c v .scriptPath { c with scriptPath := some p }
  | extension {s} (h : textOf .text v = .ok s) :
      Entered c v .extension { c with extension := some s }
  | ignore {patterns} (h : textsOf v = .ok patterns) :
      Entered c v .ignore { c with ignore := patterns }
  | tickIntervalMs {n} (h : countOf v = .ok n) :
      Entered c v .tickIntervalMs { c with tickIntervalMs := n }
  | terminateTimeoutMs {n} (h : countOf v = .ok n) :
      Entered c v .terminateTimeoutMs { c with terminateTimeoutMs := n }

/-- **The entries that a configuration takes**, and what they make of it: one of a setting replaces
its field, and one of any other key changes nothing. -/
theorem enter_eq_ok_iff {c c' : Config} {key : String} {v : Located} :
    c.enter key v = .ok c' ↔
      (∃ name : SettingName, name.key = key ∧ Entered c v name c') ∨
        (∀ name : SettingName, name.key ≠ key) ∧ c' = c := by
  constructor
  · intro h
    unfold enter at h
    split at h
    case h_10 =>
        refine .inr ⟨?_, (Except.ok.inj h).symm⟩
        rintro name rfl
        cases name <;> contradiction
    all_goals
      obtain ⟨x, hx, h⟩ := bind_eq_ok_iff.mp h
      obtain rfl := Except.ok.inj h
      left
    · exact ⟨_, rfl, .nodePath hx⟩
    · exact ⟨_, rfl, .nodePathOsx hx⟩
    · exact ⟨_, rfl, .nodePathWindows hx⟩
    · exact ⟨_, rfl, .nodePathLinux hx⟩
    · exact ⟨_, rfl, .scriptPath hx⟩
    · exact ⟨_, rfl, .extension hx⟩
    · exact ⟨_, rfl, .ignore hx⟩
    · exact ⟨_, rfl, .tickIntervalMs hx⟩
    · exact ⟨_, rfl, .terminateTimeoutMs hx⟩
  · rintro (⟨name, rfl, h⟩ | ⟨hnone, rfl⟩)
    · cases h with
      | _ h => exact bind_eq_ok_iff.mpr ⟨_, h, rfl⟩
    · unfold enter
      split
      · exact absurd rfl (hnone .nodePath)
      · exact absurd rfl (hnone .nodePathOsx)
      · exact absurd rfl (hnone .nodePathWindows)
      · exact absurd rfl (hnone .nodePathLinux)
      · exact absurd rfl (hnone .scriptPath)
      · exact absurd rfl (hnone .extension)
      · exact absurd rfl (hnone .ignore)
      · exact absurd rfl (hnone .tickIntervalMs)
      · exact absurd rfl (hnone .terminateTimeoutMs)
      · rfl

/-- The value of a setting makes what it can make by `Entered`, whatever the configuration was
before. -/
theorem enter_of_entered {c c' : Config} {name : SettingName} {v : Located}
    (h : Entered c v name c') : c.enter name.key v = .ok c' :=
  enter_eq_ok_iff.mpr (.inl ⟨name, rfl, h⟩)

/-- What an entry of a setting has made of a configuration is what `Entered` allows. -/
theorem entered_of_enter {c c' : Config} {name : SettingName} {v : Located}
    (h : c.enter name.key v = .ok c') : Entered c v name c' := by
  obtain ⟨other, hkey, h⟩ | ⟨hnone, -⟩ := enter_eq_ok_iff.mp h
  · rwa [← SettingName.key_injective hkey]
  · exact absurd rfl (hnone name)

/-! ### Single settings -/

/-- What the entry of a `key` gives: the value that is spelled there, or nothing where there is no
such entry. -/
def Gives {α : Type} (entries : Entries) (key : String) (spells : Value → α → Prop) :
    Option α → Prop
  | none => entries.lookup key = none
  | some x => ∃ v, entries.lookup key = some v ∧ spells v.2 x

/-- A setting, with the field that it is read from, and with the proof that only its own entry
touches this field. -/
structure Setting (α : Type) where
  name : SettingName
  /-- The value in a configuration, if it has one. -/
  get : Config → Option α
  spells : Value → α → Prop
  spells_inj : ∀ {v x y}, spells v x → spells v y → x = y
  entered : ∀ {c v x}, v.2.Fits → spells v.2 x → ∃ c', Entered c v name c'
  get_of_eq : ∀ {c c' v}, v.2.Fits → Entered c v name c' → ∃ x, spells v.2 x ∧ get c' = some x
  get_of_ne : ∀ {c c' v other}, Entered c v other c' → other ≠ name → get c' = get c

theorem SpellsText.inj {v : Value} {s s' : String} (h : SpellsText v s) (h' : SpellsText v s') :
    s = s' :=
  Value.string.inj (h.symm.trans h')

theorem SpellsPath.inj {v : Value} {p p' : Path} (h : SpellsPath v p) (h' : SpellsPath v p') :
    p = p' := by
  have htext : p.text = p'.text := SpellsText.inj h h'
  rw [← Path.mk.injEq] at htext
  exact htext

theorem SpellsCount.inj {v : Value} {n n' : UInt64} (h : SpellsCount v n)
    (h' : SpellsCount v n') : n = n' :=
  UInt64.toNat_inj.mp (Int.ofNat.inj (Value.integer.inj (h.symm.trans h')))

theorem SpellsTexts.inj {v : Value} {texts texts' : List String} (h : SpellsTexts v texts)
    (h' : SpellsTexts v texts') : texts = texts' := by
  obtain ⟨items, hitems, htexts⟩ := h
  obtain ⟨items', hitems', htexts'⟩ := h'
  obtain rfl := Option.some.inj (hitems.symm.trans hitems')
  exact (List.map_inj_right fun _ _ => Value.string.inj).mp (htexts.symm.trans htexts')

namespace Setting

/-- The setting `node_path`, the executable for all platforms that have none of their own. -/
def nodePath : Setting Path where
  name := .nodePath
  get c := some c.nodePath
  spells := SpellsPath
  spells_inj := SpellsPath.inj
  entered _ h := ⟨_, .nodePath (pathOf_eq_ok_iff.mpr h)⟩
  get_of_eq _ h := by
    cases h with
    | nodePath h => exact ⟨_, pathOf_eq_ok_iff.mp h, rfl⟩
  get_of_ne h hne := by
    cases h <;> first | rfl | exact absurd rfl hne

/-- The setting of the executable for one platform, which takes precedence there over the one for
all. -/
def nodePathOsx : Setting Path where
  name := .nodePathOsx
  get c := c.nodePathOsx
  spells := SpellsPath
  spells_inj := SpellsPath.inj
  entered _ h := ⟨_, .nodePathOsx (pathOf_eq_ok_iff.mpr h)⟩
  get_of_eq _ h := by
    cases h with
    | nodePathOsx h => exact ⟨_, pathOf_eq_ok_iff.mp h, rfl⟩
  get_of_ne h hne := by
    cases h <;> first | rfl | exact absurd rfl hne

def nodePathWindows : Setting Path where
  name := .nodePathWindows
  get c := c.nodePathWindows
  spells := SpellsPath
  spells_inj := SpellsPath.inj
  entered _ h := ⟨_, .nodePathWindows (pathOf_eq_ok_iff.mpr h)⟩
  get_of_eq _ h := by
    cases h with
    | nodePathWindows h => exact ⟨_, pathOf_eq_ok_iff.mp h, rfl⟩
  get_of_ne h hne := by
    cases h <;> first | rfl | exact absurd rfl hne

def nodePathLinux : Setting Path where
  name := .nodePathLinux
  get c := c.nodePathLinux
  spells := SpellsPath
  spells_inj := SpellsPath.inj
  entered _ h := ⟨_, .nodePathLinux (pathOf_eq_ok_iff.mpr h)⟩
  get_of_eq _ h := by
    cases h with
    | nodePathLinux h => exact ⟨_, pathOf_eq_ok_iff.mp h, rfl⟩
  get_of_ne h hne := by
    cases h <;> first | rfl | exact absurd rfl hne

/-- The setting `script_path`, the script that the executable runs. -/
def scriptPath : Setting Path where
  name := .scriptPath
  get c := c.scriptPath
  spells := SpellsPath
  spells_inj := SpellsPath.inj
  entered _ h := ⟨_, .scriptPath (pathOf_eq_ok_iff.mpr h)⟩
  get_of_eq _ h := by
    cases h with
    | scriptPath h => exact ⟨_, pathOf_eq_ok_iff.mp h, rfl⟩
  get_of_ne h hne := by
    cases h <;> first | rfl | exact absurd rfl hne

/-- The setting `extension`, which tells the files to search by their names. -/
def extension : Setting String where
  name := .extension
  get c := c.extension
  spells := SpellsText
  spells_inj := SpellsText.inj
  entered _ h := ⟨_, .extension (textOf_eq_ok_iff.mpr h)⟩
  get_of_eq _ h := by
    cases h with
    | extension h => exact ⟨_, textOf_eq_ok_iff.mp h, rfl⟩
  get_of_ne h hne := by
    cases h <;> first | rfl | exact absurd rfl hne

/-- The setting `ignore`, the patterns of the files and folders that are not searched. -/
def ignore : Setting (List String) where
  name := .ignore
  get c := some c.ignore
  spells := SpellsTexts
  spells_inj := SpellsTexts.inj
  entered _ h := ⟨_, .ignore (textsOf_eq_ok_iff.mpr h)⟩
  get_of_eq _ h := by
    cases h with
    | ignore h => exact ⟨_, textsOf_eq_ok_iff.mp h, rfl⟩
  get_of_ne h hne := by
    cases h <;> first | rfl | exact absurd rfl hne

/-- The setting `tick_interval_ms`, the milliseconds between two ticks. -/
def tickIntervalMs : Setting UInt64 where
  name := .tickIntervalMs
  get c := some c.tickIntervalMs
  spells := SpellsCount
  spells_inj := SpellsCount.inj
  entered hfits h := ⟨_, .tickIntervalMs ((countOf_eq_ok_iff hfits).mpr h)⟩
  get_of_eq hfits h := by
    cases h with
    | tickIntervalMs h => exact ⟨_, (countOf_eq_ok_iff hfits).mp h, rfl⟩
  get_of_ne h hne := by
    cases h <;> first | rfl | exact absurd rfl hne

/-- The setting `terminate_timeout_ms`, the milliseconds that a process has to end. -/
def terminateTimeoutMs : Setting UInt64 where
  name := .terminateTimeoutMs
  get c := some c.terminateTimeoutMs
  spells := SpellsCount
  spells_inj := SpellsCount.inj
  entered hfits h := ⟨_, .terminateTimeoutMs ((countOf_eq_ok_iff hfits).mpr h)⟩
  get_of_eq hfits h := by
    cases h with
    | terminateTimeoutMs h => exact ⟨_, (countOf_eq_ok_iff hfits).mp h, rfl⟩
  get_of_ne h hne := by
    cases h <;> first | rfl | exact absurd rfl hne

variable {α : Type} (s : Setting α) {entries : Entries} {c c' : Config} {given : Option α}

/-- An entry of another `key` leaves the field of a setting alone. -/
theorem get_of_enter_ne {key : String} {v : Located} (h : c.enter key v = .ok c')
    (hne : s.name.key ≠ key) : s.get c' = s.get c := by
  obtain ⟨other, rfl, hentered⟩ | ⟨-, rfl⟩ := enter_eq_ok_iff.mp h
  · refine s.get_of_ne hentered ?_
    rintro rfl
    exact hne rfl
  · rfl

/-- **One setting after all entries**: it has what its own entry has `given`, or else what it had
before. -/
theorem get_of_enterAll (hsound : entries.Sound) (h : enterAll c entries = .ok c')
    (hgives : Gives entries s.name.key s.spells given) :
    s.get c' = (given <|> s.get c) := by
  induction entries generalizing c given with
  | nil =>
      obtain rfl := Except.ok.inj h
      cases given with
      | none => rfl
      | some x =>
          obtain ⟨v, hv, -⟩ := hgives
          cases hv
  | cons e rest ih =>
      obtain ⟨key, v⟩ := e
      obtain ⟨hfits, hnew, hrest⟩ := hsound.of_cons
      rw [enterAll_cons] at h
      obtain ⟨c₁, hfirst, hothers⟩ := bind_eq_ok_iff.mp h
      by_cases hkey : s.name.key = key
      · -- the keys are distinct, so no later entry touches the setting
        subst hkey
        have hlast : s.get c' = (none <|> s.get c₁) := ih hrest hothers hnew
        obtain ⟨x, hx, hget⟩ := s.get_of_eq hfits (entered_of_enter hfirst)
        cases given with
        | none =>
            rw [Gives, List.lookup_cons_self] at hgives
            cases hgives
        | some y =>
            obtain ⟨w, hw, hy⟩ := hgives
            rw [List.lookup_cons_self] at hw
            obtain rfl := Option.some.inj hw
            rw [hlast, hget, s.spells_inj hx hy]
            rfl
      · have hlookup : List.lookup s.name.key ((key, v) :: rest) = rest.lookup s.name.key := by
          rw [List.lookup_cons, beq_false_of_ne hkey]
        have hgives' : Gives rest s.name.key s.spells given := by
          cases given with
          | none => exact hlookup.symm.trans hgives
          | some x =>
              obtain ⟨w, hw, hx⟩ := hgives
              exact ⟨w, hlookup.symm.trans hw, hx⟩
        rw [ih hrest hothers hgives', s.get_of_enter_ne hfirst hkey]

end Setting

/-- If all entries of a file are taken, then each of them was taken by some configuration. -/
theorem exists_enter_of_enterAll {entries : Entries} {c c' : Config}
    (h : enterAll c entries = .ok c') {key : String} {v : Located} (hmem : (key, v) ∈ entries) :
    ∃ d d', enter d key v = .ok d' := by
  induction entries generalizing c with
  | nil => cases hmem
  | cons e rest ih =>
      obtain ⟨c₁, hfirst, hothers⟩ := bind_eq_ok_iff.mp h
      rcases List.mem_cons.mp hmem with rfl | hmem
      · exact ⟨c, c₁, hfirst⟩
      · exact ih hothers hmem

/-- If each entry is taken by any configuration, then all of them are taken, one after another. -/
theorem exists_enterAll {entries : Entries}
    (h : ∀ e ∈ entries, ∀ c : Config, ∃ c', c.enter e.1 e.2 = .ok c') (c : Config) :
    ∃ c', enterAll c entries = .ok c' := by
  induction entries generalizing c with
  | nil => exact ⟨c, rfl⟩
  | cons e rest ih =>
      obtain ⟨hfirst, hothers⟩ := List.forall_mem_cons.mp h
      obtain ⟨c₁, hc₁⟩ := hfirst c
      obtain ⟨c', hc'⟩ := ih hothers c₁
      exact ⟨c', bind_eq_ok_iff.mpr ⟨c₁, hc₁, hc'⟩⟩

/-- If all entries are taken, then each setting is given something, or has no entry. -/
theorem Setting.exists_gives {α : Type} (s : Setting α) {entries : Entries} {c c' : Config}
    (hsound : entries.Sound) (h : enterAll c entries = .ok c') :
    ∃ given, Gives entries s.name.key s.spells given := by
  cases hlookup : entries.lookup s.name.key with
  | none => exact ⟨none, hlookup⟩
  | some v =>
      have hmem : (s.name.key, v) ∈ entries := by
        obtain ⟨before, after, rfl, -⟩ := List.lookup_eq_some_iff.mp hlookup
        exact List.mem_append_right _ List.mem_cons_self
      obtain ⟨d, d', hd⟩ := exists_enter_of_enterAll h hmem
      obtain ⟨x, hx, -⟩ := s.get_of_eq (hsound.fits _ hmem) (entered_of_enter hd)
      exact ⟨some x, v, hlookup, hx⟩

/-- A value that spells what a setting is `given` is taken by any configuration. -/
theorem Setting.exists_enter {α : Type} (s : Setting α) {entries : Entries} (hsound : entries.Sound)
    {given : Option α} (hgives : Gives entries s.name.key s.spells given) {v : Located}
    (hmem : (s.name.key, v) ∈ entries) (c : Config) : ∃ c', c.enter s.name.key v = .ok c' := by
  have hlookup : entries.lookup s.name.key = some v := hsound.lookup_of_mem hmem
  cases given with
  | none =>
      rw [Gives, hlookup] at hgives
      cases hgives
  | some x =>
      obtain ⟨w, hw, hx⟩ := hgives
      obtain rfl := Option.some.inj (hlookup.symm.trans hw)
      obtain ⟨c', hc'⟩ := s.entered (hsound.fits _ hmem) hx
      exact ⟨c', enter_of_entered hc'⟩

/-! ### All settings -/

/-- What a file gives the settings: a value or none for each of them. -/
structure Assignments where
  nodePath : Option Path := none
  nodePathOsx : Option Path := none
  nodePathWindows : Option Path := none
  nodePathLinux : Option Path := none
  scriptPath : Option Path := none
  extension : Option String := none
  ignore : Option (List String) := none
  tickIntervalMs : Option UInt64 := none
  terminateTimeoutMs : Option UInt64 := none

/-- The configuration `c` with what a file gives in place of what it has. -/
def Assignments.over (a : Assignments) (c : Config) : Config where
  nodePath := a.nodePath.getD c.nodePath
  nodePathOsx := a.nodePathOsx <|> c.nodePathOsx
  nodePathWindows := a.nodePathWindows <|> c.nodePathWindows
  nodePathLinux := a.nodePathLinux <|> c.nodePathLinux
  scriptPath := a.scriptPath <|> c.scriptPath
  extension := a.extension <|> c.extension
  ignore := a.ignore.getD c.ignore
  tickIntervalMs := a.tickIntervalMs.getD c.tickIntervalMs
  terminateTimeoutMs := a.terminateTimeoutMs.getD c.terminateTimeoutMs

/-- The `entries` give every setting what `a` has for it, and other entries do not matter. -/
structure Assigns (entries : Entries) (a : Assignments) : Prop where
  nodePath : Gives entries "node_path" SpellsPath a.nodePath
  nodePathOsx : Gives entries "node_path_osx" SpellsPath a.nodePathOsx
  nodePathWindows : Gives entries "node_path_windows" SpellsPath a.nodePathWindows
  nodePathLinux : Gives entries "node_path_linux" SpellsPath a.nodePathLinux
  scriptPath : Gives entries "script_path" SpellsPath a.scriptPath
  extension : Gives entries "extension" SpellsText a.extension
  ignore : Gives entries "ignore" SpellsTexts a.ignore
  tickIntervalMs : Gives entries "tick_interval_ms" SpellsCount a.tickIntervalMs
  terminateTimeoutMs : Gives entries "terminate_timeout_ms" SpellsCount a.terminateTimeoutMs

/-- A value that is `given` stands in place of another one, which is there in any case. -/
theorem eq_getD_of_orElse {α : Type} {given : Option α} {x y : α}
    (h : some x = (given <|> some y)) : x = given.getD y := by
  cases given with
  | none => exact Option.some.inj h
  | some z => exact Option.some.inj h

/-- Entries that give the settings what `a` has for them make just that of a configuration, if they
are taken. -/
theorem eq_over_of_enterAll {entries : Entries} {a : Assignments} {c c' : Config}
    (hsound : entries.Sound) (h : enterAll c entries = .ok c') (ha : Assigns entries a) :
    c' = a.over c := by
  have hnode := eq_getD_of_orElse (Setting.nodePath.get_of_enterAll hsound h ha.nodePath)
  have hosx := Setting.nodePathOsx.get_of_enterAll hsound h ha.nodePathOsx
  have hwindows := Setting.nodePathWindows.get_of_enterAll hsound h ha.nodePathWindows
  have hlinux := Setting.nodePathLinux.get_of_enterAll hsound h ha.nodePathLinux
  have hscript := Setting.scriptPath.get_of_enterAll hsound h ha.scriptPath
  have hextension := Setting.extension.get_of_enterAll hsound h ha.extension
  have hignore := eq_getD_of_orElse (Setting.ignore.get_of_enterAll hsound h ha.ignore)
  have htick := eq_getD_of_orElse
    (Setting.tickIntervalMs.get_of_enterAll hsound h ha.tickIntervalMs)
  have hterminate := eq_getD_of_orElse
    (Setting.terminateTimeoutMs.get_of_enterAll hsound h ha.terminateTimeoutMs)
  obtain ⟨⟩ := c'
  simp only [Setting.nodePathOsx, Setting.nodePathWindows, Setting.nodePathLinux,
    Setting.scriptPath, Setting.extension] at hosx hwindows hlinux hscript hextension
  simp only [Assignments.over, Config.mk.injEq]
  exact ⟨hnode, hosx, hwindows, hlinux, hscript, hextension, hignore, htick, hterminate⟩

/-- Entries that give the settings something are taken by any configuration: an entry of a setting
has a value of its kind, and any other one is passed over. -/
theorem exists_enterAll_of_assigns {entries : Entries} {a : Assignments}
    (hsound : entries.Sound) (ha : Assigns entries a) (c : Config) :
    ∃ c', enterAll c entries = .ok c' := by
  refine exists_enterAll (fun e hmem c => ?_) c
  obtain ⟨key, v⟩ := e
  by_cases hkey : ∃ name : SettingName, name.key = key
  · obtain ⟨name, rfl⟩ := hkey
    cases name with
    | nodePath => exact Setting.nodePath.exists_enter hsound ha.nodePath hmem c
    | nodePathOsx => exact Setting.nodePathOsx.exists_enter hsound ha.nodePathOsx hmem c
    | nodePathWindows =>
        exact Setting.nodePathWindows.exists_enter hsound ha.nodePathWindows hmem c
    | nodePathLinux => exact Setting.nodePathLinux.exists_enter hsound ha.nodePathLinux hmem c
    | scriptPath => exact Setting.scriptPath.exists_enter hsound ha.scriptPath hmem c
    | extension => exact Setting.extension.exists_enter hsound ha.extension hmem c
    | ignore => exact Setting.ignore.exists_enter hsound ha.ignore hmem c
    | tickIntervalMs => exact Setting.tickIntervalMs.exists_enter hsound ha.tickIntervalMs hmem c
    | terminateTimeoutMs =>
        exact Setting.terminateTimeoutMs.exists_enter hsound ha.terminateTimeoutMs hmem c
  · exact ⟨c, enter_eq_ok_iff.mpr (.inr ⟨fun name hname => hkey ⟨name, hname⟩, rfl⟩)⟩

/-- Entries that are taken give the settings something, since each of them was of the right kind. -/
theorem exists_assigns_of_enterAll {entries : Entries} {c c' : Config} (hsound : entries.Sound)
    (h : enterAll c entries = .ok c') : ∃ a, Assigns entries a := by
  obtain ⟨node, hnode⟩ := Setting.nodePath.exists_gives hsound h
  obtain ⟨osx, hosx⟩ := Setting.nodePathOsx.exists_gives hsound h
  obtain ⟨windows, hwindows⟩ := Setting.nodePathWindows.exists_gives hsound h
  obtain ⟨linux, hlinux⟩ := Setting.nodePathLinux.exists_gives hsound h
  obtain ⟨script, hscript⟩ := Setting.scriptPath.exists_gives hsound h
  obtain ⟨extension, hextension⟩ := Setting.extension.exists_gives hsound h
  obtain ⟨ignore, hignore⟩ := Setting.ignore.exists_gives hsound h
  obtain ⟨tick, htick⟩ := Setting.tickIntervalMs.exists_gives hsound h
  obtain ⟨terminate, hterminate⟩ := Setting.terminateTimeoutMs.exists_gives hsound h
  exact ⟨⟨node, osx, windows, linux, script, extension, ignore, tick, terminate⟩,
    ⟨hnode, hosx, hwindows, hlinux, hscript, hextension, hignore, htick, hterminate⟩⟩

/-- **The configuration that entries make** is the default one with what they give the settings, and
there is one exactly if every setting with an entry has a value of its kind. -/
theorem ofEntries_eq_ok_iff {entries : Entries} (hsound : entries.Sound) {c : Config} :
    ofEntries entries = .ok c ↔ ∃ a, Assigns entries a ∧ c = a.over {} := by
  constructor
  · intro h
    obtain ⟨a, ha⟩ := exists_assigns_of_enterAll hsound h
    exact ⟨a, ha, eq_over_of_enterAll hsound h ha⟩
  · rintro ⟨a, ha, rfl⟩
    obtain ⟨c, hc⟩ := exists_enterAll_of_assigns hsound ha {}
    rw [← eq_over_of_enterAll hsound hc ha]
    exact hc

/-- Two settings in another order, beside an entry of another name. -/
example (a b c : Toml.Span) :
    ofEntries [("theme", a, .boolean true), ("ignore", b, .array []),
      ("node_path", c, .string "nodejs")] = .ok { nodePath := ⟨"nodejs"⟩, ignore := [] } :=
  rfl

end SelectorSearch.Config
