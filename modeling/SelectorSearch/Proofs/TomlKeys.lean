import Mathlib.Data.List.Nodup
import Mathlib.Data.Option.Basic
import SelectorSearch.Toml.Document

/-!
# The Entries of a Document

No key of a document has two entries, and its integers have 64 bits with a sign. Both are facts
about one table at a time: whatever a header or an entry does to a table further down, the table
above it gets at most a table under a key that is new or has one already. So a change that keeps a
table sound keeps it sound at the end of any keys (`keeps_extend`), and each way to change a
document is such a change.

## Main results

* `keeps_extend`: a change at the end of some keys.
* `scanValue_fits`: the integers that are read fit.
* `sound_of_parse?`: the entries of a document are sound.
-/

namespace SelectorSearch.Toml

/-! ### Sound tables -/

/-- An integer fits if it has 64 bits with a sign, and any other value fits. -/
def Value.Fits : Value → Prop
  | .integer n => -wordLimit ≤ n ∧ n < wordLimit
  | _ => True

/-- No key of a table has two entries, and the values of all entries fit. -/
structure Entries.Sound (entries : Entries) : Prop where
  distinct : (entries.map Prod.fst).Nodup
  fits : ∀ e ∈ entries, e.2.2.Fits

namespace Entries

theorem sound_nil : Sound [] :=
  ⟨List.nodup_nil, nofun⟩

/-- A key for which `lookup` finds nothing is none of the keys. -/
theorem not_mem_keys_of_lookup {entries : Entries} {key : String}
    (h : entries.lookup key = none) : key ∉ entries.map Prod.fst := by
  intro hmem
  obtain ⟨e, he, rfl⟩ := List.mem_map.mp hmem
  have hne : (e.1 == e.1) = false := by simpa using List.lookup_eq_none_iff.mp h e he
  simp at hne

/-- The first entry of a sound table has a value that fits and a key of its own, and the `rest` is
sound. -/
theorem Sound.of_cons {e : String × Located} {rest : Entries} (h : Sound (e :: rest)) :
    e.2.2.Fits ∧ rest.lookup e.1 = none ∧ Sound rest := by
  obtain ⟨hdistinct, hfits⟩ := h
  obtain ⟨hfirst, hrest⟩ := List.forall_mem_cons.mp hfits
  obtain ⟨hnew, hothers⟩ := List.nodup_cons.mp hdistinct
  refine ⟨hfirst, List.lookup_eq_none_iff.mpr fun other hother => ?_, hothers, hrest⟩
  have hne : e.1 ≠ other.1 := by
    intro heq
    exact hnew (heq ▸ List.mem_map_of_mem hother)
  simpa using hne

/-- In a sound table each entry is the one that `lookup` finds for its key. -/
theorem Sound.lookup_of_mem {entries : Entries} (h : entries.Sound) {key : String} {v : Located}
    (hmem : (key, v) ∈ entries) : entries.lookup key = some v := by
  induction entries with
  | nil => cases hmem
  | cons e rest ih =>
      obtain ⟨-, hnew, hrest⟩ := h.of_cons
      rcases List.mem_cons.mp hmem with rfl | hmem
      · exact List.lookup_cons_self
      · have hlater : rest.lookup key = some v := ih hrest hmem
        have hne : key ≠ e.1 := by
          rintro rfl
          rw [hnew] at hlater
          cases hlater
        rw [List.lookup_cons, beq_false_of_ne hne, hlater]

/-- A key without an entry can get one, whose value fits, and the table stays sound. -/
theorem Sound.append {entries : Entries} (h : entries.Sound) {key : String}
    (hkey : entries.lookup key = none) {v : Located} (hv : v.2.Fits) :
    Sound (entries ++ [(key, v)]) := by
  constructor
  · rw [List.map_append, List.map_singleton]
    refine List.nodup_append.mpr ⟨h.distinct, List.nodup_singleton key, ?_⟩
    intro a ha b hb heq
    rw [heq, List.mem_singleton.mp hb] at ha
    exact not_mem_keys_of_lookup hkey ha
  · intro e he
    rcases List.mem_append.mp he with he | he
    · exact h.fits e he
    · rw [List.mem_singleton.mp he]
      exact hv

/-- Values can change under their keys, if they fit after that, and the table stays sound. -/
theorem Sound.map {entries : Entries} (h : entries.Sound)
    {f : String × Located → String × Located} (hkey : ∀ e, (f e).1 = e.1)
    (hv : ∀ e, e.2.2.Fits → (f e).2.2.Fits) : Sound (entries.map f) := by
  constructor
  · have hkeys : (entries.map f).map Prod.fst = entries.map Prod.fst := by
      rw [List.map_map]
      exact List.map_congr_left fun e _ => hkey e
    rw [hkeys]
    exact h.distinct
  · intro e he
    obtain ⟨old, hold, rfl⟩ := List.mem_map.mp he
    exact hv old (h.fits old hold)

/-- A `key` can get another value that fits, and the table stays sound. -/
theorem Sound.replace {entries : Entries} (h : entries.Sound) (key : String) {v : Located}
    (hv : v.2.Fits) : Sound (entries.replace key v) := by
  refine h.map (fun e => ?_) (fun e he => ?_)
  · dsimp only
    split <;> rfl
  · dsimp only
    split
    · exact hv
    · exact he

/-- The entry of a `key` can be left out, and the table stays sound. -/
theorem Sound.without {entries : Entries} (h : entries.Sound) (key : String) :
    Sound (entries.without key) :=
  ⟨h.distinct.sublist (List.filter_sublist.map Prod.fst),
    fun e he => h.fits e (List.mem_filter.mp he).1⟩

/-- A `key` that was left out is not found any more. -/
theorem lookup_without (entries : Entries) (key : String) :
    (entries.without key).lookup key = none := by
  rw [List.lookup_eq_none_iff]
  intro e he
  have hne : e.1 ≠ key := by simpa using (List.mem_filter.mp he).2
  simpa using hne.symm

end Entries

/-! ### Changes of a table -/

/-- A `change` leaves a sound table sound, wherever it comes from and if it succeeds. -/
def Keeps (change : Origin → Entries → Option Entries) : Prop :=
  ∀ origin entries entries', entries.Sound → change origin entries = some entries' → entries'.Sound

/-- What keeps tables sound does so at the end of any `keys`, since only the topmost table counts,
and that has one entry replaced or added. -/
theorem keeps_extend {change : Origin → Entries → Option Entries} (h : Keeps change)
    (how : Extension) (keys : List Key) : Keeps (extend how change keys) := by
  intro origin entries entries' hsound hextend
  cases keys with
  | nil => exact h origin entries entries' hsound hextend
  | cons key keys =>
      rw [extend] at hextend
      split at hextend
      · next hkey =>
          obtain ⟨below, -, heq⟩ := Option.bind_eq_some_iff.mp hextend
          obtain rfl := Option.some.inj heq
          exact hsound.append hkey trivial
      · split at hextend
        · cases hextend
        · obtain ⟨below, -, heq⟩ := Option.bind_eq_some_iff.mp hextend
          obtain rfl := Option.some.inj heq
          exact hsound.replace _ trivial
      · obtain ⟨below, -, heq⟩ := Option.bind_eq_some_iff.mp hextend
        obtain rfl := Option.some.inj heq
        exact hsound.replace _ trivial
      · cases hextend

/-- An entry under some `keys` keeps tables sound, if its value fits. -/
theorem keeps_assign (keys : List Key) {v : Located} (hv : v.2.Fits) :
    Keeps (assign keys v) := by
  intro origin entries entries' hsound hassign
  rw [assign] at hassign
  split at hassign
  · cases hassign
  · refine keeps_extend ?_ .byDottedKey _ origin entries entries' hsound hassign
    intro o below below' hbelow hinsert
    dsimp only at hinsert
    split at hinsert
    · cases hinsert
    · split at hinsert
      · cases hinsert
      · next hkey =>
          obtain rfl := Option.some.inj hinsert
          exact hbelow.append (Option.not_isSome_iff_eq_none.mp hkey) hv

/-- A header in single brackets keeps tables sound. -/
theorem keeps_openTable (key : String) (header : Span) : Keeps (openTable key header) := by
  intro origin entries entries' hsound hopen
  rw [openTable] at hopen
  split at hopen
  · next hkey =>
      obtain rfl := Option.some.inj hopen
      exact hsound.append hkey trivial
  · obtain rfl := Option.some.inj hopen
    exact (hsound.without key).append (Entries.lookup_without entries key) trivial
  · cases hopen

/-- A header in double brackets keeps tables sound. -/
theorem keeps_openRow (key : String) (header : Span) : Keeps (openRow key header) := by
  intro origin entries entries' hsound hopen
  rw [openRow] at hopen
  split at hopen
  · next hkey =>
      obtain rfl := Option.some.inj hopen
      exact hsound.append hkey trivial
  · obtain rfl := Option.some.inj hopen
    exact hsound.replace key trivial
  · cases hopen

/-- A value that reaches further in the text fits as it did before. -/
theorem fits_reach (stop : Nat) {v : Located} (h : v.2.Fits) : (reach stop v).2.Fits := by
  obtain ⟨span, v⟩ := v
  cases v with
  | rows tables => trivial
  | _ => exact h

/-! ### Values -/

/-- What is read fits, if the value that is handed on does. -/
theorem fits_of_result {v w : Value} {rest after : List Char}
    (h : some (w, after) = some (v, rest)) (hw : w.Fits) : v.Fits := by
  obtain ⟨rfl, -⟩ := Prod.mk.inj (Option.some.inj h)
  exact hw

/-- The integer that `word?` makes of a sign and a number fits. -/
theorem fits_of_word? {negative : Bool} {n : Nat} {v : Value} (h : word? negative n = some v) :
    v.Fits := by
  have hpos : 0 < wordLimit := by decide
  unfold word? at h
  split at h
  · split at h
    · obtain rfl := Option.some.inj h
      exact ⟨by omega, by omega⟩
    · cases h
  · split at h
    · obtain rfl := Option.some.inj h
      exact ⟨by omega, by omega⟩
    · cases h

/-- An integer in a base that is not ten fits. -/
theorem scanBased_fits {base : Nat} {s rest : List Char} {v : Value}
    (h : scanBased base s = some (v, rest)) : v.Fits := by
  obtain ⟨⟨digits, after⟩, -, h⟩ := Option.bind_eq_some_iff.mp h
  obtain ⟨w, hword, h⟩ := Option.bind_eq_some_iff.mp h
  exact fits_of_result h (fits_of_word? hword)

/-- An integer in any base fits. -/
theorem scanInteger_fits {s rest : List Char} {v : Value} (h : scanInteger s = some (v, rest)) :
    v.Fits := by
  unfold scanInteger at h
  split at h
  · exact scanBased_fits h
  · exact scanBased_fits h
  · exact scanBased_fits h
  · obtain ⟨⟨digits, after⟩, -, h⟩ := Option.bind_eq_some_iff.mp h
    obtain ⟨w, hword, h⟩ := Option.bind_eq_some_iff.mp h
    exact fits_of_result h (fits_of_word? hword)

/-- A decimal fits, since it is no integer. -/
theorem scanDecimal_fits {s rest : List Char} {v : Value} (h : scanDecimal s = some (v, rest)) :
    v.Fits := by
  obtain ⟨⟨whole, after⟩, -, h⟩ := Option.bind_eq_some_iff.mp h
  dsimp only at h
  split at h
  · obtain ⟨x, -, h⟩ := Option.bind_eq_some_iff.mp h
    exact fits_of_result h trivial
  · obtain ⟨⟨power, after⟩, -, h⟩ := Option.bind_eq_some_iff.mp h
    obtain ⟨x, -, h⟩ := Option.bind_eq_some_iff.mp h
    exact fits_of_result h trivial

/-- A date or a time fits, since it is no integer. -/
theorem scanDateTime_fits {s rest : List Char} {v : Value} (h : scanDateTime s = some (v, rest)) :
    v.Fits := by
  unfold scanDateTime at h
  split at h
  · exact fits_of_result h trivial
  · obtain ⟨after, -, h⟩ := Option.map_eq_some_iff.mp h
    obtain ⟨rfl, -⟩ := Prod.mk.inj h
    trivial

/-- One of the words for decimals fits, since it stands for no integer. -/
theorem scanSpecial_fits {s rest : List Char} {v : Value} (h : scanSpecial s = some (v, rest)) :
    v.Fits := by
  unfold scanSpecial at h
  split at h
  · exact fits_of_result h trivial
  · exact fits_of_result h trivial
  · cases h

/-- A number, a date or a time fits, whichever of them is read. -/
theorem scanNumeric_fits {s rest : List Char} {v : Value} (h : scanNumeric s = some (v, rest)) :
    v.Fits := by
  rw [scanNumeric] at h
  obtain h | ⟨-, h⟩ := (Option.orElse_eq_some _ _ _).mp h
  · exact scanDateTime_fits h
  obtain h | ⟨-, h⟩ := (Option.orElse_eq_some _ _ _).mp h
  · exact scanDecimal_fits h
  obtain h | ⟨-, h⟩ := (Option.orElse_eq_some _ _ _).mp h
  · exact scanSpecial_fits h
  · exact scanInteger_fits h

/-- A scalar that is read fits, whatever its kind. -/
theorem scanScalar_fits {s rest : List Char} {v : Value} (h : scanScalar s = some (v, rest)) :
    v.Fits := by
  unfold scanScalar at h
  split at h
  · exact fits_of_result h trivial
  · exact fits_of_result h trivial
  · exact scanNumeric_fits h

/-- **The integers that are read fit**, and so does every value, since only integers can be too
large. -/
theorem scanValue_fits {fuel depth : Nat} {s rest : List Char} {v : Value}
    (h : scanValue fuel depth s = some (v, rest)) : v.Fits := by
  cases fuel with
  | zero => cases h
  | succ fuel =>
      unfold scanValue at h
      split at h
      · obtain ⟨start, -, h⟩ := Option.bind_eq_some_iff.mp h
        obtain ⟨⟨items, after⟩, -, h⟩ := Option.bind_eq_some_iff.mp h
        exact fits_of_result h trivial
      · split at h
        · exact fits_of_result h trivial
        · obtain ⟨⟨entries, after⟩, -, h⟩ := Option.bind_eq_some_iff.mp h
          exact fits_of_result h trivial
      · split at h
        · obtain ⟨⟨text, after⟩, -, h⟩ := Option.map_eq_some_iff.mp h
          obtain ⟨rfl, -⟩ := Prod.mk.inj h
          trivial
        · exact scanScalar_fits h
      · cases h

/-! ### Documents -/

/-- An entry keeps a document sound, if its value fits. -/
theorem Document.sound_add {d d' : Document} (h : d.entries.Sound) {keys : List Key} {v : Located}
    (hv : v.2.Fits) (hadd : d.add keys v = some d') : d'.entries.Sound := by
  obtain ⟨entries, hassign, hadd⟩ := Option.bind_eq_some_iff.mp hadd
  have hentries : entries.Sound :=
    keeps_extend (keeps_assign keys hv) .byHeader d.scope .header _ _ h hassign
  split at hadd
  · obtain rfl := Option.some.inj hadd
    exact hentries
  · obtain ⟨stretched, hstretch, hadd⟩ := Option.bind_eq_some_iff.mp hadd
    obtain rfl := Option.some.inj hadd
    refine keeps_extend ?_ .byHeader _ .header _ _ hentries hstretch
    intro origin above above' habove heq
    obtain rfl := Option.some.inj heq
    refine habove.map (fun e => rfl) (fun e he => ?_)
    dsimp only
    split
    · exact fits_reach _ he
    · exact he

/-- A header keeps a document sound, whichever of the two kinds it is. -/
theorem Document.sound_open {d d' : Document} (h : d.entries.Sound)
    {start : String → Span → Origin → Entries → Option Entries}
    (hstart : ∀ key header, Keeps (start key header)) {keys : List Key} {header : Span}
    (hopen : d.open start keys header = some d') : d'.entries.Sound := by
  obtain ⟨key, -, hopen⟩ := Option.bind_eq_some_iff.mp hopen
  obtain ⟨entries, hextend, hopen⟩ := Option.bind_eq_some_iff.mp hopen
  obtain rfl := Option.some.inj hopen
  exact keeps_extend (hstart key.name header) .byHeader _ .header _ _ h hextend

/-- One line, a header or an entry, keeps a document sound. -/
theorem sound_of_scanExpression {d d' : Document} (h : d.entries.Sound) {s rest : List Char}
    (hscan : scanExpression d s = some (d', rest)) : d'.entries.Sound := by
  unfold scanExpression at hscan
  split at hscan
  · obtain ⟨⟨keys, after⟩, -, hscan⟩ := Option.bind_eq_some_iff.mp hscan
    dsimp only at hscan
    split at hscan
    · obtain ⟨opened, hopen, hscan⟩ := Option.bind_eq_some_iff.mp hscan
      obtain ⟨rfl, -⟩ := Prod.mk.inj (Option.some.inj hscan)
      exact Document.sound_open h keeps_openRow hopen
    · cases hscan
  · obtain ⟨⟨keys, after⟩, -, hscan⟩ := Option.bind_eq_some_iff.mp hscan
    dsimp only at hscan
    split at hscan
    · obtain ⟨opened, hopen, hscan⟩ := Option.bind_eq_some_iff.mp hscan
      obtain ⟨rfl, -⟩ := Prod.mk.inj (Option.some.inj hscan)
      exact Document.sound_open h keeps_openTable hopen
    · cases hscan
  · obtain ⟨⟨keys, after⟩, -, hscan⟩ := Option.bind_eq_some_iff.mp hscan
    dsimp only at hscan
    split at hscan
    · obtain ⟨⟨v, tail⟩, hvalue, hscan⟩ := Option.bind_eq_some_iff.mp hscan
      obtain ⟨added, hadd, hscan⟩ := Option.bind_eq_some_iff.mp hscan
      obtain ⟨rfl, -⟩ := Prod.mk.inj (Option.some.inj hscan)
      exact Document.sound_add h (scanValue_fits hvalue) hadd
    · cases hscan

/-- The lines of a document keep it sound, one after another. -/
theorem sound_of_scanDocument {fuel : Nat} {d d' : Document} (h : d.entries.Sound)
    {s : List Char} (hscan : scanDocument fuel d s = some d') : d'.entries.Sound := by
  induction fuel generalizing d s with
  | zero => cases hscan
  | succ fuel ih =>
      obtain ⟨start, -, hscan⟩ := Option.bind_eq_some_iff.mp hscan
      split at hscan
      · obtain rfl := Option.some.inj hscan
        exact h
      · obtain ⟨⟨next, after⟩, hexpression, hscan⟩ := Option.bind_eq_some_iff.mp hscan
        have hnext : next.entries.Sound := sound_of_scanExpression h hexpression
        obtain ⟨line, -, hscan⟩ := Option.bind_eq_some_iff.mp hscan
        split at hscan
        · obtain rfl := Option.some.inj hscan
          exact hnext
        · obtain ⟨below, -, hscan⟩ := Option.bind_eq_some_iff.mp hscan
          exact ih hnext hscan

/-- **The entries of a document are sound**: no key has two of them, and their integers have 64
bits. -/
theorem sound_of_parse? {text : List Char} {entries : Entries} (h : parse? text = some entries) :
    entries.Sound := by
  obtain ⟨d, hscan, rfl⟩ := Option.map_eq_some_iff.mp h
  exact sound_of_scanDocument Entries.sound_nil hscan

end SelectorSearch.Toml
