import SelectorSearch.Text.Utf8

/-!
# Text Survives as UTF-8

What is encoded is decoded to itself. A character has one to four bytes; their numbers are read off
the code point by six bits at a time (`map_toNat_utf8EncodeChar`), and the machine puts the bits
together again. The ranges that the machine accepts after its first byte are no loss: a code point
of more than two bytes is neither too small for its length nor a surrogate.

## Main results

* `advance_utf8EncodeChar`: the bytes of a character are read as that character.
* `decode_encode`: decoding undoes encoding.
* `lineFeed_mem_encode`: only a line feed is encoded with the byte of one.
-/

namespace SelectorSearch.Utf8

variable {b value n : Nat} {c : Char}

/-- A character is no surrogate and lies in the range of Unicode, by its number. -/
theorem toNat_valid (c : Char) : c.toNat < 0xD800 ∨ 0xDFFF < c.toNat ∧ c.toNat < 0x110000 :=
  c.valid

/-- The numbers of the bytes of the character with code point `n`. -/
def units (n : Nat) : List Nat :=
  if n ≤ 0x7F then [n]
  else if n ≤ 0x7FF then [0xC0 + n / 64, 0x80 + n % 64]
  else if n ≤ 0xFFFF then [0xE0 + n / 4096, 0x80 + n / 64 % 64, 0x80 + n % 64]
  else [0xF0 + n / 262144, 0x80 + n / 4096 % 64, 0x80 + n / 64 % 64, 0x80 + n % 64]

theorem units_two (hlow : 0x7F < n) (hhigh : n ≤ 0x7FF) :
    units n = [0xC0 + n / 64, 0x80 + n % 64] := by
  rw [units, if_neg (by omega), if_pos hhigh]

theorem units_three (hlow : 0x7FF < n) (hhigh : n ≤ 0xFFFF) :
    units n = [0xE0 + n / 4096, 0x80 + n / 64 % 64, 0x80 + n % 64] := by
  rw [units, if_neg (by omega), if_neg (by omega), if_pos hhigh]

theorem units_four (hlow : 0xFFFF < n) :
    units n = [0xF0 + n / 262144, 0x80 + n / 4096 % 64, 0x80 + n / 64 % 64, 0x80 + n % 64] := by
  rw [units, if_neg (by omega), if_neg (by omega), if_neg (by omega)]

/-- The numbers of the bytes of a character `c` are the `units` of its code point. -/
theorem map_toNat_utf8EncodeChar (c : Char) :
    (String.utf8EncodeChar c).map UInt8.toNat = units c.toNat := by
  have hvalid := toNat_valid c
  rw [String.utf8EncodeChar, Char.toNat_val, units]
  generalize c.toNat = n at *
  split
  · simp
    omega
  split
  · simp
    omega
  split
  · simp
    omega
  · simp
    omega

/-! ### Reading a character -/

/-- The machine goes over the bytes by their numbers, one `step` for each. -/
theorem advance_eq_foldl (start : State × List Char) (bytes : List UInt8) :
    advance start bytes = (bytes.map UInt8.toNat).foldl
      (fun (state, chars) b => ((step state b).2, (step state b).1.reverse ++ chars)) start := by
  rw [advance, List.foldl_map]

/-- Between characters, a byte begins one by `lead`. -/
theorem step_ready : step .ready b = lead b := rfl

/-- The last byte of a character, which is allowed there, completes the character. -/
theorem step_last {t : Tail} (h : t.allows b = true) :
    step (.owed value t 0) b = ([Char.ofNat (value * 64 + (b - 0x80))], .ready) := by
  simp [step, h]

/-- A byte inside a character, which is allowed there, leaves one byte less to come. -/
theorem step_more {t : Tail} (h : t.allows b = true) (more : Nat) :
    step (.owed value t (more + 1)) b = ([], .owed (value * 64 + (b - 0x80)) .free more) := by
  simp [step, h]

/-- Six bits in a continuation byte are allowed at a `free` place. -/
theorem allows_free {k : Nat} (h : k < 64) : Tail.free.allows (0x80 + k) = true := by
  simp [Tail.allows]
  omega

/-- The first byte of a character of two bytes leaves one byte to come, at a `free` place. -/
theorem lead_two (hlow : 0x7F < n) (hhigh : n ≤ 0x7FF) :
    lead (0xC0 + n / 64) = ([], .owed (n / 64) .free 0) := by
  rw [lead, if_neg (by omega), if_pos (by omega), Nat.add_sub_cancel_left]

/-- The first byte of a character of three bytes leaves two to come. The next one may be a
continuation byte that leads to a character of that length, and no other. -/
theorem lead_three (hlow : 0x7FF < n) (hhigh : n ≤ 0xFFFF) :
    ∃ t, lead (0xE0 + n / 4096) = ([], .owed (n / 4096) t 1) ∧
      ∀ b, t.allows b = true ↔ 0x80 ≤ b ∧ b ≤ 0xBF ∧
        let n' := (n / 4096 * 64 + (b - 0x80)) * 64
        0x7FF < n' ∧ n' ≤ 0xFFFF ∧ (n' < 0xD800 ∨ 0xDFFF < n') := by
  by_cases h0 : n / 4096 = 0
  · refine ⟨.fromA0, by simp [lead, h0], fun b => ?_⟩
    simp [Tail.allows, h0]
    omega
  by_cases hD : n / 4096 = 0xD
  · refine ⟨.to9F, by simp [lead, hD], fun b => ?_⟩
    simp [Tail.allows, hD]
    omega
  · refine ⟨.free, ?_, fun b => ?_⟩
    · unfold lead
      rw [if_neg (by omega), if_neg (by omega), if_neg (by omega), if_neg (by omega),
        if_pos (by omega), Nat.add_sub_cancel_left]
    · simp [Tail.allows]
      omega

/-- The first byte of a character of four bytes leaves three to come. The next one may be a
continuation byte that leads to a character of that length, and no other. -/
theorem lead_four (hlow : 0xFFFF < n) (hhigh : n < 0x110000) :
    ∃ t, lead (0xF0 + n / 262144) = ([], .owed (n / 262144) t 2) ∧
      ∀ b, t.allows b = true ↔ 0x80 ≤ b ∧ b ≤ 0xBF ∧
        let n' := (n / 262144 * 64 + (b - 0x80)) * 4096
        0xFFFF < n' ∧ n' < 0x110000 := by
  by_cases h0 : n / 262144 = 0
  · refine ⟨.from90, by simp [lead, h0], fun b => ?_⟩
    simp [Tail.allows, h0]
    omega
  by_cases h4 : n / 262144 = 4
  · refine ⟨.to8F, by simp [lead, h4], fun b => ?_⟩
    simp [Tail.allows, h4]
    omega
  · refine ⟨.free, ?_, fun b => ?_⟩
    · unfold lead
      rw [if_neg (by omega), if_neg (by omega), if_neg (by omega), if_neg (by omega),
        if_neg (by omega), if_neg (by omega), if_pos (by omega), Nat.add_sub_cancel_left]
    · simp [Tail.allows]
      omega

/-- **The bytes of a character `c` are read as that character**, and the machine is `ready`
again. -/
theorem advance_utf8EncodeChar (c : Char) (chars : List Char) :
    advance (.ready, chars) (String.utf8EncodeChar c) = (.ready, c :: chars) := by
  have hvalid := toNat_valid c
  have hc : Char.ofNat c.toNat = c := Char.ofNat_toNat c
  rw [advance_eq_foldl, map_toNat_utf8EncodeChar, units]
  generalize c.toNat = n at *
  have hfree : ∀ k, Tail.free.allows (0x80 + k % 64) = true := fun k =>
    allows_free (Nat.mod_lt k (by decide))
  split
  · next h => simp [step, lead, h, hc]
  split
  · have hlead := lead_two (n := n) (by omega) (by omega)
    have hn : n / 64 * 64 + n % 64 = n := by omega
    simp only [List.foldl_cons, List.foldl_nil, step_ready, hlead, step_last (hfree n),
      Nat.add_sub_cancel_left, hn, hc]
    rfl
  split
  · obtain ⟨t, hlead, hallows⟩ := lead_three (n := n) (by omega) (by omega)
    have ht := (hallows (0x80 + n / 64 % 64)).mpr (by omega)
    have hn : (n / 4096 * 64 + n / 64 % 64) * 64 + n % 64 = n := by omega
    simp only [List.foldl_cons, List.foldl_nil, step_ready, hlead, step_more ht,
      step_last (hfree n), Nat.add_sub_cancel_left, hn, hc]
    rfl
  · obtain ⟨t, hlead, hallows⟩ := lead_four (n := n) (by omega) (by omega)
    have ht := (hallows (0x80 + n / 4096 % 64)).mpr (by omega)
    have hn : ((n / 262144 * 64 + n / 4096 % 64) * 64 + n / 64 % 64) * 64 + n % 64 = n := by omega
    simp only [List.foldl_cons, List.foldl_nil, step_ready, hlead, step_more ht,
      step_more (hfree (n / 64)), step_last (hfree n), Nat.add_sub_cancel_left, hn, hc]
    rfl

/-- **Decoding undoes encoding**: what is whole UTF-8 is decoded to the characters that it was
encoded from. -/
theorem decode_encode (chars : List Char) : decode (encode chars) = chars := by
  have hadvance :
      ∀ read, advance (.ready, read) (encode chars) = (.ready, chars.reverse ++ read) := by
    induction chars with
    | nil => exact fun _ => rfl
    | cons c rest ih =>
        intro read
        rw [encode, List.flatMap_cons, advance_append, advance_utf8EncodeChar, ← encode, ih]
        simp
  simp [decode, hadvance, flush]

/-- Only a line feed is encoded with the byte of one. -/
theorem lineFeed_mem_encode {chars : List Char} (h : (0x0A : UInt8) ∈ encode chars) :
    '\n' ∈ chars := by
  obtain ⟨c, hc, hmem⟩ := List.mem_flatMap.mp h
  have hnat : 0x0A ∈ (String.utf8EncodeChar c).map UInt8.toNat :=
    List.mem_map.mpr ⟨_, hmem, rfl⟩
  rw [map_toNat_utf8EncodeChar, units] at hnat
  have hten : c.toNat = 0x0A := by
    split at hnat
    · exact (List.mem_singleton.mp hnat).symm
    split at hnat
    · simp at hnat
      omega
    split at hnat
    · simp at hnat
      omega
    · simp at hnat
      omega
  rwa [show '\n' = c by rw [← Char.ofNat_toNat c, hten]]

end SelectorSearch.Utf8
