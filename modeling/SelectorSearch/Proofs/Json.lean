import SelectorSearch.Json.Printer
import SelectorSearch.Proofs.JsonCompleteness

/-!
# JSON Survives as Text

What is printed is read back: the text that a value is printed to is a JSON text that denotes the
value, without any blanks (`Readable.denotes`), and every JSON text is read as the value it denotes.

Not all values are read back: decimals are not treated here, integers need 64 bits, and the nesting
is limited (`Readable`).

## Main results

* `spells_print`: a printed string spells its characters.
* `exists_isWritten`: a printed integer is the text of a numeral with its value.
* `Readable.denotes`: the text of a readable value denotes it.
* `parse?_compact`: reading undoes printing.
* `Readable.newline_not_mem`: the text of a readable value is one line.
-/

namespace SelectorSearch.Json

/-! ### Strings -/

/-- The four hexadecimal digits that are printed for a control character `n` are read back as its
number. -/
theorem hexValue4?_hexDigit : ∀ n < 0x20,
    hexValue4? '0' '0' (hexDigit (n / 16)) (hexDigit n) = some n := by
  decide

/-- An escaped character in front of a text spells the character `c` in front of what the text
spells. -/
theorem Spells.escaped {text chars : List Char} (h : Spells text chars) (c : Char) :
    Spells (Json.escape c ++ text) (c :: chars) := by
  unfold Json.escape
  iterate 7
    split
    · next hc =>
        subst hc
        exact .escape rfl h
  split
  · next hcontrol =>
      have hhigh : isHighSurrogate c.toNat = false := by
        simp [isHighSurrogate]
        omega
      have hlow : isLowSurrogate c.toNat = false := by
        simp [isLowSurrogate]
        omega
      have hspells := Spells.unicode (hexValue4?_hexDigit c.toNat hcontrol) hhigh hlow h
      rwa [Char.ofNat_toNat] at hspells
  · next hquote hbackslash _ _ _ _ _ hcontrol =>
      exact .plain hquote hbackslash (by omega) h

/-- A printed string spells the characters that it was printed from. -/
theorem spells_print (chars : List Char) : Spells (chars.flatMap escape) chars := by
  induction chars with
  | nil => exact .nil
  | cons c more ih =>
      rw [List.flatMap_cons]
      exact ih.escaped c

/-- A string between quotes, in the form in which the printer writes it. -/
def Quoted.printed (s : String) : Quoted :=
  ⟨s.toList.flatMap escape, s, spells_print s.toList⟩

/-! ### Numbers -/

namespace Numeral

/-- The decimal digits of a number are digits, and there is at least one. -/
theorem isDigits_toDigits (n : Nat) : IsDigits (Nat.toDigits 10 n) :=
  ⟨Nat.toDigits_ne_nil, fun _ => Text.isDigit_of_mem_toDigits⟩

/-- The decimal digits of a number do not begin with a zero, unless that is the only one. -/
theorem toDigits_eq_zero_cons {n : Nat} {ds : List Char} (h : Nat.toDigits 10 n = '0' :: ds) :
    ds = [] := by
  induction n using Nat.strongRecOn generalizing ds with
  | ind n ih =>
    obtain hsmall | hlarge := Nat.lt_or_ge n 10
    · rw [Nat.toDigits_of_lt_base hsmall] at h
      exact (List.cons.inj h).2.symm
    · rw [Nat.toDigits_of_base_le (by decide) hlarge] at h
      obtain ⟨hnil, -⟩ | ⟨front, hfront, -⟩ := List.append_eq_cons_iff.mp h
      · exact absurd hnil Nat.toDigits_ne_nil
      · -- a leading zero of the number without its last digit would be alone
        obtain rfl := ih (n / 10) (by omega) hfront
        have hzero : Nat.ofDigitChars 10 (Nat.toDigits 10 (n / 10)) 0 = 0 := hfront ▸ rfl
        rw [Nat.ofDigitChars_ten_toDigits] at hzero
        omega

/-- Digits behind a sign, or without one, are the text of a numeral that has neither fraction nor
exponent. -/
theorem isWritten_toDigits (negative : Bool) (n : Nat) :
    IsWritten ⟨negative, Nat.toDigits 10 n, [], none⟩
      (signText negative ++ Nat.toDigits 10 n) where
  whole := isDigits_toDigits n
  zero _ h := toDigits_eq_zero_cons h
  fraction := by simp
  text_eq := ⟨[], .absent, by simp [fractionText]⟩

/-- Digits without a sign have the value of their number, if it is below the `wordSize`. -/
theorem value?_of_toDigits {k : Nat} (h : k < wordSize) :
    value? ⟨false, Nat.toDigits 10 k, [], none⟩ = some (.integer k) := by
  have hvalue : wholeValue ⟨false, Nat.toDigits 10 k, [], none⟩ = k :=
    Nat.ofDigitChars_ten_toDigits
  exact value?_eq_integer_iff.mpr ⟨rfl, .inl ⟨rfl, by rw [hvalue], by rwa [hvalue]⟩⟩

/-- Digits behind a minus sign have the negative value, as far down as a signed word goes. -/
theorem value?_of_neg_toDigits {k : Nat} (hpos : 0 < k) (h : k ≤ wordSize / 2) :
    value? ⟨true, Nat.toDigits 10 k, [], none⟩ = some (.integer (-k)) := by
  have hvalue : wholeValue ⟨true, Nat.toDigits 10 k, [], none⟩ = k :=
    Nat.ofDigitChars_ten_toDigits
  exact value?_eq_integer_iff.mpr
    ⟨rfl, .inr ⟨rfl, by rw [hvalue], by rwa [hvalue], by rwa [hvalue]⟩⟩

end Numeral

/-- The text of an integer that is not negative consists of its decimal digits. -/
theorem toList_ofNat (k : Nat) : (toString (Int.ofNat k)).toList = Nat.toDigits 10 k := by
  rw [show toString (Int.ofNat k) = k.repr from rfl, Nat.repr_eq_ofList_toDigits,
    String.toList_ofList]

/-- The text of a negative integer is a minus sign in front of decimal digits. -/
theorem toList_negSucc (k : Nat) :
    (toString (Int.negSucc k)).toList = '-' :: Nat.toDigits 10 (k + 1) := by
  change ("-" ++ (k + 1).repr).toList = _
  simp

/-- A printed integer of 64 bits, signed or unsigned, is the text of a numeral with its value. -/
theorem exists_isWritten {n : Int} (hlow : -0x8000000000000000 ≤ n)
    (hhigh : n < 0x10000000000000000) :
    ∃ t : Numeral, t.IsWritten (toString n).toList ∧ t.value? = some (.integer n) := by
  cases n with
  | ofNat k =>
      have hk : k < Numeral.wordSize := Int.ofNat_lt.mp hhigh
      rw [toList_ofNat]
      exact ⟨_, Numeral.isWritten_toDigits false k, Numeral.value?_of_toDigits hk⟩
  | negSucc k =>
      have hk : k + 1 ≤ Numeral.wordSize / 2 := by
        rw [Int.negSucc_eq] at hlow
        have hle : ((k + 1 : Nat) : Int) ≤ 0x8000000000000000 := by omega
        exact Int.ofNat_le.mp hle
      rw [toList_negSucc]
      exact ⟨_, Numeral.isWritten_toDigits true (k + 1),
        Numeral.value?_of_neg_toDigits (Nat.succ_pos k) hk⟩

/-! ### Values -/

/-- The values that are read back from their text: no decimals, integers of 64 bits, and arrays and
objects nested in each other at most `depth` deep. -/
inductive Readable : (depth : Nat) → Value → Prop where
  | null {depth : Nat} : Readable depth .null
  | bool {depth : Nat} (b : Bool) : Readable depth (.bool b)
  | integer {depth : Nat} {n : Int} (low : -0x8000000000000000 ≤ n)
      (high : n < 0x10000000000000000) : Readable depth (.integer n)
  | string {depth : Nat} (s : String) : Readable depth (.string s)
  | array {depth : Nat} {items : List Value} (h : ∀ v ∈ items, Readable depth v) :
      Readable (depth + 1) (.array items)
  | object {depth : Nat} {members : Members} (h : ∀ m ∈ members, Readable depth m.2) :
      Readable (depth + 1) (.object members)

/-- The text of a value as an item of an array, with no blanks around it. -/
def Item.printed (v : Value) : Item :=
  ⟨.none, v.print, v, .none⟩

/-- The text of a member of an object as it is printed, with no blanks in it. -/
def Entry.printed (m : String × Value) : Entry :=
  ⟨.none, .printed m.1, .none, .printed m.2⟩

/-- Printed items with commas between them are what `printItems` writes. -/
theorem join_printed (items : List Value) :
    Text.join ',' ((items.map Item.printed).map Item.written) = printItems items := by
  induction items with
  | nil => rw [printItems]; rfl
  | cons v more ih =>
      have hv : (Item.printed v).written = v.print := by
        simp [Item.printed, Item.written, Blanks.none]
      cases more with
      | nil => rw [printItems]; exact hv
      | cons w more =>
          rw [List.map_cons, List.map_cons, Text.join_cons _ _ (by simp), ih, hv, printItems]

/-- Printed members with commas between them are what `printMembers` writes. -/
theorem join_printed_entries (members : Members) :
    Text.join ',' ((members.map Entry.printed).map Entry.written) = printMembers members := by
  induction members with
  | nil => rw [printMembers]; rfl
  | cons m more ih =>
      have hm : (Entry.printed m).written = printString m.1 ++ ':' :: m.2.print := by
        simp [Entry.printed, Entry.written, Item.printed, Item.written, Blanks.none,
          Quoted.printed, Quoted.text, printString]
      obtain ⟨key, v⟩ := m
      cases more with
      | nil => rw [printMembers]; exact hm
      | cons n more =>
          rw [List.map_cons, List.map_cons, Text.join_cons _ _ (by simp), ih, hm, printMembers]
          simp

/-- **The text that is printed for a readable value denotes it**, by induction on the value. -/
theorem Readable.denotes {depth : Nat} {v : Value} (h : Readable depth v) :
    Denotes depth v.print v := by
  induction h with
  | null =>
      rw [Value.print]
      exact .null
  | bool b =>
      have hprint : (Value.bool b).print = boolText b := by cases b <;> rw [Value.print] <;> rfl
      rw [hprint]
      exact .bool b
  | integer low high =>
      obtain ⟨t, hwritten, hvalue⟩ := exists_isWritten low high
      rw [Value.print]
      exact .number hwritten hvalue
  | string s =>
      rw [Value.print]
      exact .string (.printed s)
  | @array depth items _ ih =>
      rw [Value.print]
      cases items with
      | nil => rw [printItems]; exact .emptyArray .none
      | cons v more =>
          have hdenotes : ∀ i ∈ (v :: more).map Item.printed, Denotes depth i.text i.value := by
            rintro i hi
            obtain ⟨w, hw, rfl⟩ := List.mem_map.mp hi
            exact ih w hw
          have harray := Denotes.array (by simp) hdenotes
          rw [join_printed, List.map_map] at harray
          simpa [Function.comp_def, Item.printed] using harray
  | @object depth members _ ih =>
      rw [Value.print]
      cases members with
      | nil => rw [printMembers]; exact .emptyObject .none
      | cons m more =>
          have hdenotes : ∀ e ∈ (m :: more).map Entry.printed,
              Denotes depth e.item.text e.item.value := by
            rintro e he
            obtain ⟨n, hn, rfl⟩ := List.mem_map.mp he
            exact ih n hn
          have hobject := Denotes.object (by simp) hdenotes
          rw [join_printed_entries, List.map_map] at hobject
          simpa [Function.comp_def, Entry.printed, Entry.member, Item.printed, Quoted.printed]
            using hobject

/-- The `compact` text of a readable value is a whole text of it. -/
theorem Readable.isText {depth : Nat} {v : Value} (h : Readable depth v) :
    IsText depth v.compact.toList v :=
  ⟨.printed v, by simp [Item.printed, Item.written, Blanks.none, Value.compact], rfl, h.denotes⟩

/-- **Reading undoes printing.** The `compact` text of a readable value is read back as this
value. -/
theorem parse?_compact {v : Value} (h : Readable maxDepth v) : parse? v.compact = some v :=
  parse?_of_isText h.isText

/-! ### One line -/

/-- A printed string is part of a line, since a line feed in it is escaped. -/
theorem newline_not_mem_printString (s : String) : '\n' ∉ printString s := by
  simp [printString, escape_ne_lineFeed]

/-- The text of an integer is part of a line. -/
theorem newline_not_mem_toString_int (n : Int) : '\n' ∉ (toString n).toList := by
  have hdigits (k : Nat) : '\n' ∉ Nat.toDigits 10 k := fun h =>
    absurd (Text.isDigit_of_mem_toDigits h) (by decide)
  cases n with
  | ofNat k =>
      rw [toList_ofNat]
      exact hdigits k
  | negSucc k =>
      rw [toList_negSucc, List.mem_cons, not_or]
      exact ⟨by decide, hdigits (k + 1)⟩

/-- The items of an array are on one line if each of them is. -/
theorem newline_not_mem_printItems {items : List Value} (h : ∀ v ∈ items, '\n' ∉ v.print) :
    '\n' ∉ printItems items := by
  induction items with
  | nil => exact List.not_mem_nil
  | cons v more ih =>
      obtain ⟨hv, hmore⟩ := List.forall_mem_cons.mp h
      cases more with
      | nil => rwa [printItems]
      | cons w more => simp [printItems, hv, ih hmore]

/-- The members of an object are on one line if each of their values is. -/
theorem newline_not_mem_printMembers {members : Members} (h : ∀ m ∈ members, '\n' ∉ m.2.print) :
    '\n' ∉ printMembers members := by
  induction members with
  | nil => exact List.not_mem_nil
  | cons m more ih =>
      obtain ⟨key, v⟩ := m
      obtain ⟨hv, hmore⟩ := List.forall_mem_cons.mp h
      change '\n' ∉ v.print at hv
      cases more with
      | nil => simp [printMembers, newline_not_mem_printString, hv]
      | cons n more => simp [printMembers, newline_not_mem_printString, hv, ih hmore]

/-- The text of a readable value is one line, however its arrays and objects are nested. -/
theorem Readable.newline_not_mem {depth : Nat} {v : Value} (h : Readable depth v) :
    '\n' ∉ v.print := by
  induction h with
  | null => decide
  | bool b => cases b <;> decide
  | integer low high =>
      rw [Value.print]
      exact newline_not_mem_toString_int _
  | string s =>
      rw [Value.print]
      exact newline_not_mem_printString s
  | array _ ih => simp [Value.print, newline_not_mem_printItems ih]
  | object _ ih => simp [Value.print, newline_not_mem_printMembers ih]

end SelectorSearch.Json
