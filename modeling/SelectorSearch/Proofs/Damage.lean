import Mathlib.Data.List.Basic
import Mathlib.Data.Nat.Find
import SelectorSearch.Proofs.Utf8

/-!
# What Damage Is Replaced By

Unicode says which pieces of damaged UTF-8 a replacement character stands for. Where no character
stands, the damaged part is the longest beginning of a character that stands there, or a single
byte if there is none; reading goes on behind it. `LossyReading` is this rule, stated without the
machine, and the machine decodes some bytes to the only text that the rule gives
(`lossyReading_iff`).

The machine has to stop exactly where no longer beginning of a character is possible. For that the
bytes that it allows next must be those with which a character can still go on. A character of
`n` bytes can be left in `n - 1` places, and in each of them every byte that is allowed goes on
with some character (`leavesOpen_take`), which is found by changing bits of the character that
leads there.

## Main results

* `decode_append_ascii`: decoding starts afresh behind an ASCII byte.
* `leavesOpen_take`, `begins_of_lead`: the machine goes on with beginnings of characters only.
* `decode_char_append`, `decode_damaged_append`: what is decoded first.
* `lossyReading_iff`: what is decoded is what the rule gives.
* `lineFeed_mem_of_decode`: only the byte of a line feed is decoded to one.
-/

namespace SelectorSearch.Utf8

variable {b value more n : Nat} {tail : Tail}

/-! ### Reading from a state -/

/-- The characters that some bytes yield in a state, with those that are still owed at their end. -/
def read : State → List UInt8 → List Char
  | s, [] => flush s
  | s, b :: rest => (step s b.toNat).1 ++ read (step s b.toNat).2 rest

/-- What the machine has collected at the end are the `chars` from before, and then what it can
`read` in its state. -/
theorem flush_advance (s : State) (chars : List Char) (bytes : List UInt8) :
    (flush (advance (s, chars) bytes).1 ++ (advance (s, chars) bytes).2).reverse =
      chars.reverse ++ read s bytes := by
  induction bytes generalizing s chars with
  | nil => cases s <;> simp [advance, read, flush]
  | cons b rest ih =>
      have hstep : advance (s, chars) (b :: rest) =
          advance ((step s b.toNat).2, (step s b.toNat).1.reverse ++ chars) rest := rfl
      rw [hstep, ih, read]
      simp

/-- Decoding goes on, behind the bytes `a`, in the state in which these leave the machine. -/
theorem decode_append_of_advance {a : List UInt8} {s : State} {chars : List Char}
    (h : advance (.ready, []) a = (s, chars)) (rest : List UInt8) :
    decode (a ++ rest) = chars.reverse ++ read s rest := by
  rw [decode_append, h]
  exact flush_advance s chars rest

/-- Decoding is reading from the state `ready`, which is the one between characters. -/
theorem decode_eq_read (bytes : List UInt8) : decode bytes = read .ready bytes :=
  decode_append_of_advance (a := []) rfl bytes

/-- An ASCII byte `b` ends whatever is read before it, and reading starts afresh behind it. -/
theorem read_append_ascii {b : UInt8} (h : b.toNat ≤ 0x7F) (s : State) (a rest : List UInt8) :
    read s (a ++ b :: rest) = read s a ++ Char.ofNat b.toNat :: read .ready rest := by
  induction a generalizing s with
  | nil => simp [read, step_ascii h]
  | cons x a ih => simp [read, ih]

/-- **A text may be cut at an ASCII byte** `b`, before it is decoded or after it. -/
theorem decode_append_ascii {b : UInt8} (h : b.toNat ≤ 0x7F) (a rest : List UInt8) :
    decode (a ++ b :: rest) = decode a ++ Char.ofNat b.toNat :: decode rest := by
  simp only [decode_eq_read, read_append_ascii h]

/-- Inside a character, a byte that is not allowed there breaks the character off, and so does the
end of the bytes. -/
theorem read_owed {rest : List UInt8} (h : ∀ b ∈ rest.head?, tail.allows b.toNat = false) :
    read (.owed value tail more) rest = replacement :: decode rest := by
  cases rest with
  | nil => rfl
  | cons b rest =>
      rw [decode_eq_read]
      simp [read, step, h b rfl]

/-! ### Beginnings of characters -/

/-- There is a character whose encoding begins with these `bytes`. -/
def Begins (bytes : List UInt8) : Prop :=
  ∃ c, bytes <+: String.utf8EncodeChar c

/-- There is a character whose encoding begins with the bytes of these numbers `us`. -/
def BeginsCode (us : List Nat) : Prop :=
  ∃ n, (n < 0xD800 ∨ 0xDFFF < n ∧ n < 0x110000) ∧ us <+: units n

/-- Bytes begin a character if their numbers do. -/
theorem begins_of_code {bytes : List UInt8} (h : BeginsCode (bytes.map UInt8.toNat)) :
    Begins bytes := by
  obtain ⟨n, hvalid, hunits⟩ := h
  have hc : (String.utf8EncodeChar (Char.ofNatAux n hvalid)).map UInt8.toNat = units n :=
    map_toNat_utf8EncodeChar _
  rw [← hc] at hunits
  exact ⟨_, (List.prefix_map_iff_of_injective fun _ _ => UInt8.toNat_inj.mp).mp hunits⟩

/-- A byte that is not replaced at once begins a character: for each branch of `lead`, the first one
that it can begin. -/
theorem begins_of_lead {b : UInt8} (h : lead b.toNat ≠ ([replacement], .ready)) : Begins [b] := by
  have hb : b.toNat < 256 := b.toNat_lt
  have hfirst (n : Nat) (hvalid : n < 0xD800 ∨ 0xDFFF < n ∧ n < 0x110000)
      (hhead : (units n).head? = some b.toNat) : Begins [b] := by
    obtain ⟨rest, hrest⟩ := List.head?_eq_some_iff.mp hhead
    exact begins_of_code ⟨n, hvalid, rest, hrest.symm⟩
  generalize b.toNat = k at *
  unfold lead at h
  split at h
  · exact hfirst k (.inl (by omega)) (by rw [units, if_pos (by omega)]; rfl)
  split at h
  · refine hfirst ((k - 0xC0) * 64) (.inl (by omega)) ?_
    rw [units_two (by omega) (by omega), List.head?_cons, Option.some.injEq]
    omega
  split at h
  · exact hfirst 0x800 (.inl (by omega)) (by subst k; rfl)
  split at h
  · exact hfirst 0xD000 (.inl (by omega)) (by subst k; rfl)
  split at h
  · refine hfirst ((k - 0xE0) * 4096) (by omega) ?_
    rw [units_three (by omega) (by omega), List.head?_cons, Option.some.injEq]
    omega
  split at h
  · exact hfirst 0x10000 (.inr (by omega)) (by subst k; rfl)
  split at h
  · refine hfirst ((k - 0xF0) * 262144) (.inr (by omega)) ?_
    rw [units_four (by omega), List.head?_cons, Option.some.injEq]
    omega
  split at h
  · exact hfirst 0x100000 (.inr (by omega)) (by subst k; rfl)
  · exact absurd rfl h

/-! ### Inside a character -/

/-- The machine after the bytes that have the numbers `us`, with what it has collected. -/
def afterUnits (us : List Nat) : State × List Char :=
  us.foldl (fun (state, chars) b => ((step state b).2, (step state b).1.reverse ++ chars))
    (.ready, [])

/-- The first byte of a longer character leaves the machine owed the rest of it. -/
theorem afterUnits_lead (h : lead b = ([], .owed value tail more)) :
    afterUnits [b] = (.owed value tail more, []) := by
  simp [afterUnits, step_ready, h]

/-- One more byte inside a character that is allowed there leaves the machine owed one byte less. -/
theorem afterUnits_concat {us : List Nat}
    (h : afterUnits us = (.owed value tail (more + 1), [])) (hb : tail.allows b = true) :
    afterUnits (us ++ [b]) = (.owed (value * 64 + (b - 0x80)) .free more, []) := by
  rw [afterUnits] at h
  simp [afterUnits, h, step_more hb]

/-- A `free` place takes every continuation byte, and no other byte. -/
theorem allows_free_iff : Tail.free.allows b = true ↔ 0x80 ≤ b ∧ b ≤ 0xBF := by
  simp [Tail.allows]

/-- The bytes leave the machine inside a character, and with every byte that it allows next they are
still the beginning of one. -/
def LeavesOpen (us : List Nat) : Prop :=
  ∃ value tail more, afterUnits us = (.owed value tail more, []) ∧
    ∀ b, tail.allows b = true → BeginsCode (us ++ [b])

theorem leavesOpen_two (hlow : 0x7F < n) (hhigh : n ≤ 0x7FF) : LeavesOpen [0xC0 + n / 64] := by
  refine ⟨_, _, _, afterUnits_lead (lead_two hlow hhigh), fun b hb => ?_⟩
  have hb := allows_free_iff.mp hb
  refine ⟨n / 64 * 64 + (b - 0x80), by omega, ?_⟩
  rw [units_two (by omega) (by omega)]
  simp
  omega

theorem leavesOpen_three (hlow : 0x7FF < n) (hhigh : n ≤ 0xFFFF)
    (hvalid : n < 0xD800 ∨ 0xDFFF < n) :
    LeavesOpen [0xE0 + n / 4096] ∧ LeavesOpen [0xE0 + n / 4096, 0x80 + n / 64 % 64] := by
  obtain ⟨t, hlead, ht⟩ := lead_three hlow hhigh
  have hfirst := afterUnits_lead hlead
  have hsecond := afterUnits_concat hfirst ((ht (0x80 + n / 64 % 64)).mpr (by omega))
  refine ⟨⟨_, _, _, hfirst, fun b hb => ?_⟩, ⟨_, _, _, hsecond, fun b hb => ?_⟩⟩
  · have hb := (ht b).mp hb
    refine ⟨(n / 4096 * 64 + (b - 0x80)) * 64, by omega, ?_⟩
    rw [units_three (by omega) (by omega)]
    simp
    omega
  · have hb := allows_free_iff.mp hb
    refine ⟨n / 64 * 64 + (b - 0x80), by omega, ?_⟩
    rw [units_three (by omega) (by omega)]
    simp
    omega

theorem leavesOpen_four (hlow : 0xFFFF < n) (hhigh : n < 0x110000) :
    LeavesOpen [0xF0 + n / 262144] ∧ LeavesOpen [0xF0 + n / 262144, 0x80 + n / 4096 % 64] ∧
      LeavesOpen [0xF0 + n / 262144, 0x80 + n / 4096 % 64, 0x80 + n / 64 % 64] := by
  obtain ⟨t, hlead, ht⟩ := lead_four hlow hhigh
  have hfirst := afterUnits_lead hlead
  have hsecond := afterUnits_concat hfirst ((ht (0x80 + n / 4096 % 64)).mpr (by omega))
  have hthird := afterUnits_concat hsecond (allows_free (Nat.mod_lt (n / 64) (by decide)))
  refine ⟨⟨_, _, _, hfirst, fun b hb => ?_⟩, ⟨_, _, _, hsecond, fun b hb => ?_⟩,
    ⟨_, _, _, hthird, fun b hb => ?_⟩⟩
  · have hb := (ht b).mp hb
    refine ⟨(n / 262144 * 64 + (b - 0x80)) * 4096, by omega, ?_⟩
    rw [units_four (by omega)]
    simp
    omega
  · have hb := allows_free_iff.mp hb
    refine ⟨(n / 4096 * 64 + (b - 0x80)) * 64, by omega, ?_⟩
    rw [units_four (by omega)]
    simp
    omega
  · have hb := allows_free_iff.mp hb
    refine ⟨n / 64 * 64 + (b - 0x80), by omega, ?_⟩
    rw [units_four (by omega)]
    simp
    omega

/-- The first `k` bytes of a character leave it open, if they are some but not all of them. -/
theorem leavesOpen_take (hvalid : n < 0xD800 ∨ 0xDFFF < n ∧ n < 0x110000) {k : Nat} (hpos : 0 < k)
    (hlt : k < (units n).length) : LeavesOpen ((units n).take k) := by
  by_cases h1 : n ≤ 0x7F
  · rw [units, if_pos h1, List.length_singleton] at hlt
    omega
  by_cases h2 : n ≤ 0x7FF
  · rw [units_two (by omega) h2] at hlt ⊢
    obtain rfl : k = 1 := by simp at hlt; omega
    exact leavesOpen_two (by omega) h2
  by_cases h3 : n ≤ 0xFFFF
  · rw [units_three (by omega) h3] at hlt ⊢
    obtain ⟨hfirst, hsecond⟩ := leavesOpen_three (by omega) h3 (by omega)
    obtain rfl | rfl : k = 1 ∨ k = 2 := by simp at hlt; omega
    · exact hfirst
    · exact hsecond
  · rw [units_four (by omega)] at hlt ⊢
    obtain ⟨hfirst, hsecond, hthird⟩ := leavesOpen_four (n := n) (by omega) (by omega)
    obtain rfl | rfl | rfl : k = 1 ∨ k = 2 ∨ k = 3 := by simp at hlt; omega
    · exact hfirst
    · exact hsecond
    · exact hthird

/-- Some but not all bytes of a character leave the machine owed a byte with which they are still
the beginning of a character. -/
theorem owed_of_prefix {c : Char} {part : List UInt8} (hpart : part <+: String.utf8EncodeChar c)
    (hnil : part ≠ []) (hne : part ≠ String.utf8EncodeChar c) :
    ∃ value tail more, advance (.ready, []) part = (.owed value tail more, []) ∧
      ∀ b : UInt8, tail.allows b.toNat = true → Begins (part ++ [b]) := by
  have hmap := map_toNat_utf8EncodeChar c
  have hlength : (units c.toNat).length = (String.utf8EncodeChar c).length := by
    rw [← hmap, List.length_map]
  have hlt : part.length < (units c.toNat).length := by
    rw [hlength]
    exact lt_of_le_of_ne hpart.length_le fun he => hne (hpart.eq_of_length he)
  have htake : part.map UInt8.toNat = (units c.toNat).take part.length := by
    rw [← hmap, ← List.map_take, ← List.prefix_iff_eq_take.mp hpart]
  obtain ⟨value, tail, more, hafter, hallows⟩ :=
    leavesOpen_take (toNat_valid c) (List.length_pos_of_ne_nil hnil) hlt
  rw [← htake] at hafter hallows
  refine ⟨value, tail, more, by rw [advance_eq_foldl]; exact hafter, fun b hb => ?_⟩
  refine begins_of_code ?_
  rw [List.map_append]
  exact hallows b.toNat hb

/-! ### Damaged parts -/

/-- A damaged part of some bytes, with what follows it: no character stands there, the part is a
single byte or the beginning of a character, and no longer beginning stands there. -/
structure DamagedPart (part rest : List UInt8) : Prop where
  no_char : ∀ c, ¬String.utf8EncodeChar c <+: part ++ rest
  initial : part.length = 1 ∨ part ≠ [] ∧ Begins part
  longest : ∀ front, front <+: part ++ rest → Begins front → front.length ≤ part.length

/-- A damaged `part` is not empty. -/
theorem DamagedPart.ne_nil {part rest : List UInt8} (h : DamagedPart part rest) : part ≠ [] := by
  obtain hone | ⟨hne, -⟩ := h.initial
  · rintro rfl
    cases hone
  · exact hne

/-- At the front of any `bytes` there is a longest beginning of a character, which may be empty. -/
theorem exists_longest_begins (bytes : List UInt8) :
    ∃ front, front <+: bytes ∧ Begins front ∧
      ∀ other, other <+: bytes → Begins other → other.length ≤ front.length := by
  classical
  refine ⟨bytes.take (Nat.findGreatest (fun k => Begins (bytes.take k)) bytes.length),
    List.take_prefix _ _, ?_, fun other hother hbegins => ?_⟩
  · exact Nat.findGreatest_spec (P := fun k => Begins (bytes.take k)) (Nat.zero_le _)
      ⟨'a', List.nil_prefix⟩
  · rw [List.length_take_of_le (Nat.findGreatest_le _)]
    rw [List.prefix_iff_eq_take.mp hother] at hbegins
    exact Nat.le_findGreatest hother.length_le hbegins

/-- Where bytes are left and no character stands at their front, there is a damaged part. -/
theorem exists_damagedPart {bytes : List UInt8} (hne : bytes ≠ [])
    (h : ∀ c, ¬String.utf8EncodeChar c <+: bytes) :
    ∃ part rest, part ++ rest = bytes ∧ DamagedPart part rest := by
  obtain ⟨front, ⟨rest, rfl⟩, hbegins, hlongest⟩ := exists_longest_begins bytes
  by_cases hfront : front = []
  · -- nothing that stands there begins a character, so the first byte is replaced alone
    subst hfront
    obtain ⟨b, rest, rfl⟩ := List.exists_cons_of_ne_nil hne
    refine ⟨[b], rest, rfl, h, .inl rfl, fun other hother hbegins => ?_⟩
    exact Nat.le_succ_of_le (hlongest other hother hbegins)
  · exact ⟨front, rest, rfl, h, .inr ⟨hfront, hbegins⟩, hlongest⟩

/-- A character `c` that stands at the front is decoded first, and then the `rest`. -/
theorem decode_char_append (c : Char) (rest : List UInt8) :
    decode (String.utf8EncodeChar c ++ rest) = c :: decode rest := by
  rw [decode_append_of_advance (advance_utf8EncodeChar c []), decode_eq_read]
  rfl

/-- **A damaged `part` at the front is replaced by one character**, and decoding goes on behind it.
One byte more would give a longer beginning of a character. -/
theorem decode_damaged_append {part rest : List UInt8} (h : DamagedPart part rest) :
    decode (part ++ rest) = replacement :: decode rest := by
  by_cases hbegins : Begins part
  · obtain ⟨c, hc⟩ := hbegins
    have hne : part ≠ String.utf8EncodeChar c := fun he => h.no_char c ⟨rest, by rw [he]⟩
    obtain ⟨value, tail, more, hadvance, hallows⟩ := owed_of_prefix hc h.ne_nil hne
    rw [decode_append_of_advance hadvance, List.reverse_nil, List.nil_append]
    refine read_owed fun b hb => Bool.not_eq_true _ ▸ fun hallowed => ?_
    obtain ⟨after, rfl⟩ := List.head?_eq_some_iff.mp hb
    have hle := h.longest (part ++ [b]) ⟨after, by simp⟩ (hallows b hallowed)
    rw [List.length_append, List.length_singleton] at hle
    omega
  · obtain hone | ⟨-, hbegins'⟩ := h.initial
    · obtain ⟨b, rfl⟩ := List.length_eq_one_iff.mp hone
      have hlead : lead b.toNat = ([replacement], .ready) :=
        Decidable.byContradiction fun hlead => hbegins (begins_of_lead hlead)
      rw [decode_eq_read, decode_eq_read, List.singleton_append, read, step_ready, hlead]
      rfl
    · exact absurd hbegins' hbegins

/-! ### The rule -/

/-- A text that some bytes can be read as: their characters, and a replacement character for each
damaged part. -/
inductive LossyReading : List UInt8 → List Char → Prop
  | nil : LossyReading [] []
  | char (c : Char) {rest : List UInt8} {chars : List Char} (h : LossyReading rest chars) :
      LossyReading (String.utf8EncodeChar c ++ rest) (c :: chars)
  | damage {part rest : List UInt8} {chars : List Char} (hpart : DamagedPart part rest)
      (h : LossyReading rest chars) : LossyReading (part ++ rest) (replacement :: chars)

/-- A reading is what the machine decodes, by induction on the reading. -/
theorem LossyReading.decode_eq {bytes : List UInt8} {chars : List Char}
    (h : LossyReading bytes chars) : decode bytes = chars := by
  induction h with
  | nil => rfl
  | char c _ ih => rw [decode_char_append, ih]
  | damage hpart _ ih => rw [decode_damaged_append hpart, ih]

/-- All bytes can be read, whether they are damaged or not. -/
theorem exists_lossyReading (bytes : List UInt8) : ∃ chars, LossyReading bytes chars := by
  induction hlength : bytes.length using Nat.strongRecOn generalizing bytes with
  | ind k ih =>
      subst hlength
      by_cases hnil : bytes = []
      · subst hnil
        exact ⟨[], .nil⟩
      by_cases hchar : ∃ c, String.utf8EncodeChar c <+: bytes
      · obtain ⟨c, rest, rfl⟩ := hchar
        have hlt : rest.length < (String.utf8EncodeChar c ++ rest).length := by
          have hsize := Char.utf8Size_pos c
          rw [List.length_append, String.length_utf8EncodeChar]
          omega
        obtain ⟨chars, hchars⟩ := ih _ hlt rest rfl
        exact ⟨_, .char c hchars⟩
      · obtain ⟨part, rest, rfl, hpart⟩ :=
          exists_damagedPart hnil fun c hc => hchar ⟨c, hc⟩
        have hlt : rest.length < (part ++ rest).length := by
          have hpos := List.length_pos_of_ne_nil hpart.ne_nil
          rw [List.length_append]
          omega
        obtain ⟨chars, hchars⟩ := ih _ hlt rest rfl
        exact ⟨_, .damage hpart hchars⟩

/-- **Damage is replaced part by part.** The text that some bytes are decoded to is the only one
that they can be read as. -/
theorem lossyReading_iff {bytes : List UInt8} {chars : List Char} :
    LossyReading bytes chars ↔ chars = decode bytes := by
  constructor
  · intro h
    exact h.decode_eq.symm
  · rintro rfl
    obtain ⟨chars, h⟩ := exists_lossyReading bytes
    exact h.decode_eq ▸ h

/-- No damage is read as a line feed: where one is decoded, its byte is there. -/
theorem lineFeed_mem_of_decode {bytes : List UInt8} (h : '\n' ∈ decode bytes) :
    (0x0A : UInt8) ∈ bytes := by
  have hreading := lossyReading_iff.mpr (rfl : decode bytes = decode bytes)
  generalize decode bytes = chars at h hreading
  induction hreading with
  | nil => cases h
  | char c _ ih =>
      obtain rfl | hrest := List.mem_cons.mp h
      · exact List.mem_append_left _ (by decide)
      · exact List.mem_append_right _ (ih hrest)
  | damage _ _ ih =>
      obtain hnew | hrest := List.mem_cons.mp h
      · exact absurd hnew (by decide)
      · exact List.mem_append_right _ (ih hrest)

end SelectorSearch.Utf8
