import Mathlib.Data.List.DropRight
import SelectorSearch.Json.Grammar

/-!
# Every JSON Text is Read

The reader finds the value of every text of the grammar, with anything behind the text that does
not go on with a number (`EndsNumber`), and leaves just that. The parts of the grammar come first,
each against the part of the reader that takes it: strings, numbers, items and members. For values
the proof is an induction on the grammar.

The reader counts its calls. By `2 * text.length` it has enough of them (`ReadsAs`): each item of an
array and each member of an object takes two, and is written with at least one character besides
the characters of its value.

## Main results

* `scanString_of_spells`: a string is read as what it spells.
* `Numeral.scan?_of_isWritten`: a number is read as the numeral that is written.
* `Denotes.readsAs`: a text is read as the value it denotes.
* `parse?_of_isText`: the same for a whole text with blanks around it.
-/

namespace SelectorSearch.Json

variable {rest : List Char}

/-! ### Blanks -/

/-- Blanks in front of a text are skipped, together with those that the text begins with. -/
theorem skipBlank_blanks (b : Blanks) (s : List Char) : skipBlank (b.text ++ s) = skipBlank s :=
  List.dropWhile_append_of_pos b.blank

/-- Behind what `skipBlank` skips there are no blanks left to skip. -/
theorem skipBlank_skipBlank (s : List Char) : skipBlank (skipBlank s) = skipBlank s :=
  List.dropWhile_idempotent isBlank s

/-- A value may be read from behind the blanks before it, since these are skipped first. -/
theorem scanValue_skipBlank (fuel depth : Nat) (s : List Char) :
    scanValue fuel depth (skipBlank s) = scanValue fuel depth s := by
  cases fuel with
  | zero => simp only [scanValue]
  | succ fuel => simp only [scanValue.eq_def (fuel + 1), skipBlank_skipBlank]

/-! ### Strings -/

/-- A character `c` that needs no escape is read as it is, and joins what was `read` before. -/
theorem scanString_plain {c : Char} (hquote : c ≠ '"') (hbackslash : c ≠ '\\') (h : 0x20 ≤ c.toNat)
    (read rest : List Char) : scanString read (c :: rest) = scanString (c :: read) rest := by
  have hcontrol : ¬(c.toNat < 0x20 ∨ c = '\\') := by
    rintro (h' | h')
    · omega
    · exact hbackslash h'
  rw [scanString.eq_def]
  split
  · next heq => cases heq
  · next heq => exact absurd (List.cons.inj heq).1 hquote
  · next heq => exact absurd (List.cons.inj heq).1 hbackslash
  · next heq => exact absurd (List.cons.inj heq).1 hbackslash
  · next heq =>
      cases heq
      rw [if_neg hcontrol]

/-- An escaped character `c` is read as the character `d` that its letter stands for. -/
theorem scanString_letter {c d : Char} (h : unescape? c = some d) (read rest : List Char) :
    scanString read ('\\' :: c :: rest) = scanString (d :: read) rest := by
  have hu : c ≠ 'u' := by
    rintro rfl
    cases h
  rw [scanString.eq_def]
  split
  · next heq => cases heq
  · next heq => cases heq
  · next heq => exact absurd (List.cons.inj (List.cons.inj heq).2).1 hu
  · next heq =>
      cases heq
      rw [h]
  · next hnot heq =>
      cases heq
      exact (hnot c rest rfl rfl).elim

/-- A string is read as the characters that its text spells, up to the quote behind it. -/
theorem scanString_of_spells {text chars : List Char} (h : Spells text chars)
    (read rest : List Char) :
    scanString read (text ++ '"' :: rest) =
      some (String.ofList (read.reverse ++ chars), rest) := by
  induction h generalizing read with
  | nil => simp [scanString]
  | plain hquote hbackslash hcontrol _ ih =>
      rw [List.cons_append, scanString_plain hquote hbackslash hcontrol, ih]
      simp
  | escape hletter _ ih =>
      rw [List.cons_append, List.cons_append, scanString_letter hletter, ih]
      simp
  | unicode hdigits hhigh hlow _ ih => simp [scanString, hdigits, hhigh, hlow, ih]
  | pair hdigits hhigh hdigits' hlow _ ih =>
      simp [scanString, hdigits, hhigh, hdigits', hlow, ih]

/-- A string between quotes is read as its value, and what stands behind the quote is left. -/
theorem scanString_quoted (q : Quoted) (rest : List Char) :
    scanString [] (q.inner ++ '"' :: rest) = some (q.value, rest) := by
  simpa using scanString_of_spells q.spells [] rest

/-! ### Numbers -/

/-- The text does not go on with a number, so that a number in front of it ends where it should. -/
def EndsNumber (rest : List Char) : Prop :=
  ∀ c, rest.head? = some c → c.isDigit = false ∧ c ≠ '.' ∧ c ≠ 'e' ∧ c ≠ 'E'

/-- The end of the text ends a number. -/
theorem endsNumber_nil : EndsNumber [] := by
  rintro c ⟨⟩

/-- The comma behind an item or a member ends a number. -/
theorem endsNumber_comma (rest : List Char) : EndsNumber (',' :: rest) := by
  rintro c ⟨⟩
  decide

theorem endsNumber_bracket (rest : List Char) : EndsNumber (']' :: rest) := by
  rintro c ⟨⟩
  decide

theorem endsNumber_brace (rest : List Char) : EndsNumber ('}' :: rest) := by
  rintro c ⟨⟩
  decide

/-- Blanks do not go on with a number, so that they can stand between it and what ends it. -/
theorem EndsNumber.blanks (h : EndsNumber rest) (b : Blanks) : EndsNumber (b.text ++ rest) := by
  obtain ⟨text, hblank⟩ := b
  cases text with
  | nil => exact h
  | cons c more =>
      have hc : isBlank c = true := hblank c List.mem_cons_self
      simp only [isBlank, Bool.or_eq_true, decide_eq_true_eq] at hc
      rintro d ⟨⟩
      obtain ((rfl | rfl) | rfl) | rfl := hc <;> decide

namespace Numeral

/-- Digits are taken as far as they go, which is up to something that is no digit. -/
theorem scanDigits_append {digits : List Char} (h : IsDigits digits)
    (hrest : ∀ c, rest.head? = some c → c.isDigit = false) :
    scanDigits (digits ++ rest) = some (digits, rest) := by
  have htake : rest.takeWhile Char.isDigit = [] := by
    cases rest with
    | nil => rfl
    | cons c more => simp [hrest c rfl]
  have hdrop : rest.dropWhile Char.isDigit = rest := by
    cases rest with
    | nil => rfl
    | cons c more => simp [hrest c rfl]
  obtain ⟨d, ds, rfl⟩ := List.exists_cons_of_ne_nil h.1
  rw [scanDigits, List.takeWhile_append_of_pos h.2, List.dropWhile_append_of_pos h.2, htake, hdrop,
    List.append_nil]

/-- The digits before the point are taken, if a leading zero stands alone. -/
theorem scanWhole_append {digits : List Char} (h : IsDigits digits)
    (hzero : ∀ more, digits = '0' :: more → more = [])
    (hrest : ∀ c, rest.head? = some c → c.isDigit = false) :
    scanWhole (digits ++ rest) = some (digits, rest) := by
  rw [scanWhole, scanDigits_append h hrest]
  split
  · next heq =>
      obtain ⟨rfl, -⟩ := Prod.mk.inj (Option.some.inj heq)
      cases hzero _ rfl
  · rfl

/-- The point and the digits of the `fraction` behind it are taken, or nothing if there is no
fraction. -/
theorem scanFraction_append {fraction : List Char} (h : ∀ c ∈ fraction, c.isDigit = true)
    (hrest : ∀ c, rest.head? = some c → c.isDigit = false ∧ c ≠ '.') :
    scanFraction (fractionText fraction ++ rest) = some (fraction, rest) := by
  cases fraction with
  | nil =>
      unfold scanFraction
      split
      · next heq => exact absurd rfl (hrest '.' (by rw [← List.nil_append rest]; exact heq ▸ rfl)).2
      · rfl
  | cons d ds =>
      exact scanDigits_append ⟨List.cons_ne_nil d ds, h⟩ fun c hc => (hrest c hc).1

/-- The exponent is taken with its sign, or nothing if the `text` of the exponent is empty. -/
theorem scanPower_append {text : List Char} {power : Option Int} (h : PowerText text power)
    (hrest : EndsNumber rest) : scanPower (text ++ rest) = some (power, rest) := by
  have hdigit : ∀ c, rest.head? = some c → c.isDigit = false := fun c hc => (hrest c hc).1
  cases h with
  | absent =>
      cases rest with
      | nil => rfl
      | cons c more => simp [scanPower, (hrest c rfl).2.2]
  | unsigned he h =>
      obtain ⟨d, ds, rfl⟩ := List.exists_cons_of_ne_nil h.1
      have hd : d.isDigit = true := h.2 d List.mem_cons_self
      have hscan := scanDigits_append h hdigit
      have hsign {c : Char} (hc : c.isDigit = false) (s : List Char) :
          d :: ds ++ rest ≠ c :: s := by
        rintro ⟨⟩
        cases hd.symm.trans hc
      rw [List.cons_append, scanPower, if_pos he, scanPowerDigits, hscan]
      · rfl
      · exact hsign rfl
      · exact hsign rfl
  | plus he h | minus he h =>
      simp [scanPower, he, scanPowerDigits, scanDigits_append h hdigit]

/-- What comes behind the digits of a number is no digit, and behind its fraction no point
either. -/
theorem head?_powerText {text : List Char} {power : Option Int} (h : PowerText text power)
    (hrest : EndsNumber rest) {c : Char} (hc : (text ++ rest).head? = some c) :
    c.isDigit = false ∧ c ≠ '.' := by
  cases h with
  | absent => exact ⟨(hrest c hc).1, (hrest c hc).2.1⟩
  | unsigned he | plus he | minus he =>
      obtain rfl := Option.some.inj hc
      obtain rfl | rfl := he <;> decide

theorem head?_fractionText (fraction : List Char)
    (hrest : ∀ c, rest.head? = some c → c.isDigit = false ∧ c ≠ '.') {c : Char}
    (hc : (fractionText fraction ++ rest).head? = some c) : c.isDigit = false := by
  cases fraction with
  | nil => exact (hrest c hc).1
  | cons d ds =>
      obtain rfl := Option.some.inj hc
      rfl

/-- The text of a numeral begins with a digit or a minus sign. -/
theorem IsWritten.eq_cons {t : Numeral} {text : List Char} (h : t.IsWritten text) :
    ∃ c more, text = c :: more ∧ (c.isDigit = true ∨ c = '-') := by
  obtain ⟨power, -, rfl⟩ := h.text_eq
  obtain ⟨d, ds, hwhole⟩ := List.exists_cons_of_ne_nil h.whole.1
  have hd : d.isDigit = true := h.whole.2 d (hwhole ▸ List.mem_cons_self)
  cases hnegative : t.negative with
  | true => exact ⟨'-', _, rfl, .inr rfl⟩
  | false => exact ⟨d, _, by rw [hwhole]; rfl, .inl hd⟩

/-- **A number is read as the numeral `t` whose text it is**, if what follows does not go on with
it. -/
theorem scan?_of_isWritten {t : Numeral} {text : List Char} (h : t.IsWritten text)
    (hrest : EndsNumber rest) : scan? (text ++ rest) = some (t, rest) := by
  obtain ⟨powerText, hpower, rfl⟩ := h.text_eq
  have hafter : ∀ c, (powerText ++ rest).head? = some c → c.isDigit = false ∧ c ≠ '.' :=
    fun c hc => head?_powerText hpower hrest hc
  have hwhole := scanWhole_append h.whole h.zero
    fun c hc => head?_fractionText t.fraction hafter hc
  have hfraction := scanFraction_append h.fraction hafter
  have hpower := scanPower_append hpower hrest
  obtain ⟨negative, whole, fraction, power⟩ := t
  simp only [List.append_assoc] at *
  cases negative with
  | true => simp [scan?, signText, hwhole, hfraction, hpower]
  | false =>
      obtain ⟨d, ds, rfl⟩ := List.exists_cons_of_ne_nil h.whole.1
      have hd : d.isDigit = true := h.whole.2 d List.mem_cons_self
      unfold scan?
      split
      next negative s hsign =>
      split at hsign
      · next heq =>
          cases heq
          cases hd
      · obtain ⟨rfl, rfl⟩ := Prod.mk.inj hsign
        rw [List.cons_append] at hwhole
        simp [signText, hwhole, hfraction, hpower]

end Numeral

/-! ### Values -/

/-- Blanks in front of a value do not matter, however many calls and levels are left. -/
theorem scanValue_blanks (fuel depth : Nat) (b : Blanks) (s : List Char) :
    scanValue fuel depth (b.text ++ s) = scanValue fuel depth s := by
  rw [← scanValue_skipBlank, skipBlank_blanks, scanValue_skipBlank]

/-- Blanks in front of the first item of an array do not matter. -/
theorem scanItems_skipBlank (fuel depth : Nat) (s : List Char) :
    scanItems fuel depth (skipBlank s) = scanItems fuel depth s := by
  cases fuel with
  | zero => simp only [scanItems]
  | succ fuel => simp only [scanItems, scanValue_skipBlank]

/-- Blanks in front of the first member of an object do not matter. -/
theorem scanMembers_skipBlank (fuel depth : Nat) (s : List Char) :
    scanMembers fuel depth (skipBlank s) = scanMembers fuel depth s := by
  cases fuel with
  | zero => simp only [scanMembers]
  | succ fuel => simp only [scanMembers.eq_def (fuel + 1), skipBlank_skipBlank]

/-- A character `d` that is no digit and no minus sign is not the one that a number begins with. -/
theorem ne_of_begins_number {c d : Char} (h : c.isDigit = true ∨ c = '-') (hd : d.isDigit = false)
    (hminus : d ≠ '-') : c ≠ d := by
  rintro rfl
  obtain hdigit | rfl := h
  · simp [hdigit] at hd
  · exact hminus rfl

/-- A number does not begin with a blank. -/
theorem isBlank_of_begins_number {c : Char} (h : c.isDigit = true ∨ c = '-') :
    isBlank c = false := by
  simp [isBlank, ne_of_begins_number h]

/-- What begins with a digit or a minus sign is read by `Numeral.scan?`, and has the value of the
numeral. -/
theorem scanValue_of_number {c : Char} (h : c.isDigit = true ∨ c = '-') (fuel depth : Nat)
    (s : List Char) :
    scanValue (fuel + 1) depth (c :: s) =
      (Numeral.scan? (c :: s)).bind fun (numeral, rest) =>
        numeral.value?.bind fun v => some (v, rest) := by
  have hne {d : Char} (hd : d.isDigit = false) (hminus : d ≠ '-') : c ≠ d :=
    ne_of_begins_number h hd hminus
  rw [scanValue.eq_def]
  simp only [skipBlank_cons_of_not (isBlank_of_begins_number h)]
  split
  case h_7 => rfl
  all_goals next heq => exact absurd (List.cons.inj heq).1 (hne (by decide) (by decide))

/-- A bracket that is not closed at once begins the items of an array, one level deeper. -/
theorem scanValue_of_items {s : List Char} (h : ∀ more, skipBlank s ≠ ']' :: more)
    (fuel depth : Nat) :
    scanValue (fuel + 1) (depth + 1) ('[' :: s) =
      (scanItems fuel depth s).map fun (items, rest) => (.array items, rest) := by
  rw [scanValue.eq_def]
  simp (disch := decide) only [skipBlank_cons_of_not]
  split
  · next heq => exact absurd heq (h _)
  · rw [scanItems_skipBlank]

/-- A brace that is not closed at once begins the members of an object, one level deeper. -/
theorem scanValue_of_members {s : List Char} (h : ∀ more, skipBlank s ≠ '}' :: more)
    (fuel depth : Nat) :
    scanValue (fuel + 1) (depth + 1) ('{' :: s) =
      (scanMembers fuel depth s).map fun (members, rest) => (.object members, rest) := by
  rw [scanValue.eq_def]
  simp (disch := decide) only [skipBlank_cons_of_not]
  split
  · next heq => exact absurd heq (h _)
  · rw [scanMembers_skipBlank]

/-- The text of a value begins with a character that is no blank and does not close an array. -/
theorem Denotes.eq_cons {depth : Nat} {text : List Char} {v : Value} (h : Denotes depth text v) :
    ∃ c more, text = c :: more ∧ isBlank c = false ∧ c ≠ ']' := by
  cases h with
  | number written value =>
      obtain ⟨c, more, rfl, hc⟩ := written.eq_cons
      exact ⟨c, more, rfl, isBlank_of_begins_number hc,
        ne_of_begins_number hc (by decide) (by decide)⟩
  | bool b => cases b <;> exact ⟨_, _, rfl, by decide, by decide⟩
  | _ => exact ⟨_, _, rfl, by decide, by decide⟩

/-- A text is read as the value `v`, given enough calls, before whatever does not go on with a
number. -/
def ReadsAs (depth : Nat) (text : List Char) (v : Value) : Prop :=
  ∀ (fuel : Nat) (rest : List Char), 2 * text.length ≤ fuel → EndsNumber rest →
    scanValue (fuel + 1) depth (text ++ rest) = some (v, rest)

/-- An item is read from behind its blanks, and the blanks behind it are left. -/
theorem scanValue_item {depth : Nat} {i : Item} (h : ReadsAs depth i.text i.value) (fuel : Nat)
    (hfuel : 2 * i.written.length ≤ fuel) (hrest : EndsNumber rest) :
    scanValue (fuel + 1) depth (i.written ++ rest) = some (i.value, i.after.text ++ rest) := by
  rw [Item.written, List.length_append, List.length_append] at hfuel
  rw [Item.written, List.append_assoc, List.append_assoc, scanValue_blanks]
  exact h fuel _ (by omega) (hrest.blanks i.after)

/-- The items of an array are read up to the bracket that closes it, if each of them is. -/
theorem scanItems_written {depth : Nat} {items : List Item} (hne : items ≠ [])
    (h : ∀ i ∈ items, ReadsAs depth i.text i.value) {fuel : Nat}
    (hfuel : 2 * (Text.join ',' (items.map Item.written)).length ≤ fuel) (rest : List Char) :
    scanItems (fuel + 2) depth (Text.join ',' (items.map Item.written) ++ ']' :: rest) =
      some (items.map Item.value, rest) := by
  induction items generalizing fuel with
  | nil => exact absurd rfl hne
  | cons i more ih =>
      obtain ⟨hi, hmore⟩ := List.forall_mem_cons.mp h
      cases more with
      | nil =>
          have hvalue := scanValue_item hi fuel hfuel (endsNumber_bracket rest)
          rw [List.map_singleton, Text.join, scanItems, hvalue]
          simp (disch := decide) only [skipBlank_blanks, skipBlank_cons_of_not]
          rfl
      | cons j more =>
          rw [List.map_cons, Text.join_cons _ _ (by simp)] at hfuel ⊢
          rw [List.length_append, List.length_cons] at hfuel
          rw [List.append_assoc, List.cons_append]
          obtain ⟨fuel, rfl⟩ : ∃ n, fuel = n + 1 := ⟨fuel - 1, by omega⟩
          have hvalue := scanValue_item hi (fuel + 1) (by omega)
            (endsNumber_comma (Text.join ',' ((j :: more).map Item.written) ++ ']' :: rest))
          have hitems := ih (List.cons_ne_nil j more) hmore
            (show 2 * (Text.join ',' ((j :: more).map Item.written)).length ≤ fuel by omega)
          rw [scanItems, hvalue]
          simp (disch := decide) only [skipBlank_blanks, skipBlank_cons_of_not, hitems]
          rfl

/-- A member in front of more text: its blanks, its key between quotes, the colon and its value. -/
theorem Entry.written_append (e : Entry) (rest : List Char) :
    e.written ++ rest = e.before.text ++ '"' :: (e.key.inner ++
      '"' :: (e.between.text ++ ':' :: (e.item.written ++ rest))) := by
  simp [Entry.written, Quoted.text]

/-- The members of an object are read up to the brace that closes it, if each of their values is. -/
theorem scanMembers_written {depth : Nat} {entries : List Entry} (hne : entries ≠ [])
    (h : ∀ e ∈ entries, ReadsAs depth e.item.text e.item.value) {fuel : Nat}
    (hfuel : 2 * (Text.join ',' (entries.map Entry.written)).length ≤ fuel) (rest : List Char) :
    scanMembers (fuel + 2) depth (Text.join ',' (entries.map Entry.written) ++ '}' :: rest) =
      some (entries.map Entry.member, rest) := by
  induction entries generalizing fuel with
  | nil => exact absurd rfl hne
  | cons e more ih =>
      obtain ⟨he, hmore⟩ := List.forall_mem_cons.mp h
      have hlength : e.item.written.length ≤ e.written.length := by
        simp only [Entry.written, List.length_append, List.length_cons]
        omega
      cases more with
      | nil =>
          rw [List.map_singleton, Text.join] at hfuel ⊢
          have hvalue := scanValue_item he fuel (by omega) (endsNumber_brace rest)
          rw [scanMembers, e.written_append]
          simp (disch := decide) only [skipBlank_blanks, skipBlank_cons_of_not, scanString_quoted,
            hvalue]
          rfl
      | cons f more =>
          rw [List.map_cons, Text.join_cons _ _ (by simp)] at hfuel ⊢
          rw [List.length_append, List.length_cons] at hfuel
          obtain ⟨fuel, rfl⟩ : ∃ n, fuel = n + 1 := ⟨fuel - 1, by omega⟩
          have hvalue := scanValue_item he (fuel + 1) (by omega)
            (endsNumber_comma (Text.join ',' ((f :: more).map Entry.written) ++ '}' :: rest))
          have hmembers := ih (List.cons_ne_nil f more) hmore
            (show 2 * (Text.join ',' ((f :: more).map Entry.written)).length ≤ fuel by omega)
          rw [List.append_assoc, List.cons_append, scanMembers, e.written_append]
          simp (disch := decide) only [skipBlank_blanks, skipBlank_cons_of_not, scanString_quoted,
            hvalue, hmembers]
          rfl

/-- An array that is not empty is read, one level deeper, if its `items` are. -/
theorem readsAs_array {depth : Nat} {items : List Item} (hne : items ≠ [])
    (hitems : ∀ i ∈ items, Denotes depth i.text i.value)
    (h : ∀ i ∈ items, ReadsAs depth i.text i.value) :
    ReadsAs (depth + 1) ('[' :: (Text.join ',' (items.map Item.written) ++ [']']))
      (.array (items.map Item.value)) := by
  intro fuel rest hfuel _
  rw [List.length_cons, List.length_append, List.length_singleton] at hfuel
  obtain ⟨fuel, rfl⟩ : ∃ n, fuel = n + 2 := ⟨fuel - 2, by omega⟩
  have hread := scanItems_written hne h
    (show 2 * (Text.join ',' (items.map Item.written)).length ≤ fuel by omega) rest
  rw [List.cons_append, List.append_assoc, List.singleton_append, scanValue_of_items, hread]
  · rfl
  · -- what follows the bracket does not close it
    intro more hclose
    obtain ⟨i, others, rfl⟩ := List.exists_cons_of_ne_nil hne
    obtain ⟨c, text, htext, hblank, hc⟩ := (hitems i List.mem_cons_self).eq_cons
    obtain ⟨behind, hbehind⟩ :
        ∃ behind, Text.join ',' ((i :: others).map Item.written) ++ ']' :: rest =
          i.before.text ++ c :: behind := by
      cases others <;> exact ⟨_, by simp [Text.join, Item.written, htext]; rfl⟩
    rw [hbehind, skipBlank_blanks, skipBlank_cons_of_not hblank] at hclose
    exact hc (List.cons.inj hclose).1

/-- An object that is not empty is read, one level deeper, if the values of its members are. -/
theorem readsAs_object {depth : Nat} {entries : List Entry} (hne : entries ≠ [])
    (h : ∀ e ∈ entries, ReadsAs depth e.item.text e.item.value) :
    ReadsAs (depth + 1) ('{' :: (Text.join ',' (entries.map Entry.written) ++ ['}']))
      (.object (entries.map Entry.member)) := by
  intro fuel rest hfuel _
  rw [List.length_cons, List.length_append, List.length_singleton] at hfuel
  obtain ⟨fuel, rfl⟩ : ∃ n, fuel = n + 2 := ⟨fuel - 2, by omega⟩
  have hread := scanMembers_written hne h
    (show 2 * (Text.join ',' (entries.map Entry.written)).length ≤ fuel by omega) rest
  rw [List.cons_append, List.append_assoc, List.singleton_append, scanValue_of_members, hread]
  · rfl
  · intro more hclose
    obtain ⟨e, others, rfl⟩ := List.exists_cons_of_ne_nil hne
    obtain ⟨behind, hbehind⟩ :
        ∃ behind, Text.join ',' ((e :: others).map Entry.written) ++ '}' :: rest =
          e.before.text ++ '"' :: behind := by
      cases others <;> exact ⟨_, by simp [Text.join, Entry.written_append]; rfl⟩
    rw [hbehind, skipBlank_blanks, skipBlank_cons_of_not (by decide)] at hclose
    cases hclose

/-- **A text is read as the value that it denotes**, by the reader that has as many levels left as
the text may use. -/
theorem Denotes.readsAs {depth : Nat} {text : List Char} {v : Value} (h : Denotes depth text v) :
    ReadsAs depth text v := by
  induction h with
  | null => exact fun _ _ _ _ => rfl
  | bool b => cases b <;> exact fun _ _ _ _ => rfl
  | number written value =>
      intro fuel rest _ hrest
      have hscan := Numeral.scan?_of_isWritten written hrest
      obtain ⟨c, more, rfl, hc⟩ := written.eq_cons
      rw [List.cons_append] at hscan ⊢
      rw [scanValue_of_number hc, hscan]
      simp only [Option.bind_some, value]
  | string q =>
      intro fuel rest _ _
      rw [Quoted.text, List.cons_append, List.append_assoc, List.singleton_append,
        scanValue.eq_def]
      simp (disch := decide) only [skipBlank_cons_of_not, scanString_quoted]
      rfl
  | emptyArray b =>
      intro fuel rest _ _
      rw [List.cons_append, List.append_assoc, List.singleton_append, scanValue.eq_def]
      simp (disch := decide) only [skipBlank_blanks, skipBlank_cons_of_not]
  | array hne hitems ih => exact readsAs_array hne hitems ih
  | emptyObject b =>
      intro fuel rest _ _
      rw [List.cons_append, List.append_assoc, List.singleton_append, scanValue.eq_def]
      simp (disch := decide) only [skipBlank_blanks, skipBlank_cons_of_not]
  | object hne _ ih => exact readsAs_object hne ih

/-- **Every JSON text is read.** If arrays and objects are not nested too deep, the reader finds the
value that the text denotes. -/
theorem parse?_of_isText {text : String} {v : Value} (h : IsText maxDepth text.toList v) :
    parse? text = some v := by
  obtain ⟨i, htext, rfl, hi⟩ := h
  have hscan := scanValue_item hi.readsAs (2 * i.written.length + 1) (by omega) endsNumber_nil
  have hblank : skipBlank (i.after.text ++ []) = [] := skipBlank_blanks i.after []
  rw [List.append_nil] at hscan
  simp only [parse?, htext, hscan, hblank, List.isEmpty_nil, if_true]

end SelectorSearch.Json
