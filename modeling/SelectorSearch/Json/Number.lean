import SelectorSearch.Json.Value
import SelectorSearch.Text.Digits

/-!
# JSON Numbers

The number grammar of JSON and the values it stands for. A numeral without point and exponent is
an integer when it fits in 64 bits, unsigned or with a minus sign signed; a minus sign before zero
and every other numeral make a floating point number.

A floating point number is made in steps, each rounded: the leading digits as far as they fit in
64 bits unsigned make the start, which is then multiplied or divided by a power of ten. Digits
beyond those only move the power. A numeral too large for the format is refused.

## Main results

* `value?_eq_integer_iff`: the numerals that stand for integers.
-/

namespace SelectorSearch.Json

/-- A numeral, taken apart into its sign, its digits on both sides of the point, and its
exponent. -/
structure Numeral where
  negative : Bool
  /-- The digits before the point, without a leading zero unless alone. -/
  whole : List Char
  /-- The digits after the point, none if there is no point. -/
  fraction : List Char
  /-- The exponent, if one is written. -/
  power : Option Int
  deriving DecidableEq, Repr

namespace Numeral

/-! ### The grammar -/

/-- The digits at the front of a text, which must not be missing, and the rest. -/
def scanDigits (s : List Char) : Option (List Char × List Char) :=
  match s.takeWhile Char.isDigit with
  | [] => none
  | digits => some (digits, s.dropWhile Char.isDigit)

/-- The digits before the point, of which a zero stands alone, and the rest. -/
def scanWhole (s : List Char) : Option (List Char × List Char) :=
  match scanDigits s with
  | some ('0' :: _ :: _, _) => none
  | found => found

/-- The digits after the point, if there is a point, and the rest. -/
def scanFraction : List Char → Option (List Char × List Char)
  | '.' :: s => scanDigits s
  | s => some ([], s)

/-- The digits of an exponent after its sign, as a number, and the rest. -/
def scanPowerDigits (negative : Bool) (s : List Char) : Option (Option Int × List Char) :=
  (scanDigits s).map fun (digits, rest) =>
    let n := (Text.digitsValue 10 digits : Int)
    (some (if negative then -n else n), rest)

/-- The exponent, if there is one, and the rest. -/
def scanPower : List Char → Option (Option Int × List Char)
  | [] => some (none, [])
  | c :: s =>
    if c = 'e' ∨ c = 'E' then
      match s with
      | '+' :: s => scanPowerDigits false s
      | '-' :: s => scanPowerDigits true s
      | s => scanPowerDigits false s
    else some (none, c :: s)

/-- The numeral at the front of a text, and the rest. -/
def scan? (s : List Char) : Option (Numeral × List Char) := do
  let (negative, s) := match s with
    | '-' :: s => (true, s)
    | s => (false, s)
  let (whole, s) ← scanWhole s
  let (fraction, s) ← scanFraction s
  let (power, s) ← scanPower s
  return ({ negative, whole, fraction, power }, s)

/-! ### The value -/

/-- One more than the largest integer of 64 bits without a sign. -/
def wordSize : Nat := 0x10000000000000000

/-- Appends digits to a number `n` as long as it fits in 64 bits; the digits left over. -/
def absorb (n : Nat) : List Char → Nat × List Char
  | [] => (n, [])
  | c :: rest =>
    let m := n * 10 + (c.toNat - '0'.toNat)
    if m < wordSize then absorb m rest else (n, c :: rest)

/-- More `digits` make a number no smaller. -/
theorem le_ofDigitChars (digits : List Char) (n : Nat) : n ≤ Nat.ofDigitChars 10 digits n := by
  induction digits generalizing n with
  | nil => exact Nat.le_refl n
  | cons c rest ih =>
      rw [Nat.ofDigitChars_cons]
      exact Nat.le_trans (by omega) (ih _)

/-- All `digits` are absorbed exactly if the number that they go on with fits in 64 bits. -/
theorem absorb_eq_iff {digits : List Char} {n m : Nat} (hn : n < wordSize) :
    absorb n digits = (m, []) ↔ m = Nat.ofDigitChars 10 digits n ∧ m < wordSize := by
  induction digits generalizing n with
  | nil =>
      rw [absorb, Nat.ofDigitChars_nil, Prod.mk.injEq, eq_self, and_true]
      exact ⟨fun h => ⟨h.symm, h ▸ hn⟩, fun h => h.1.symm⟩
  | cons c rest ih =>
      rw [absorb, Nat.ofDigitChars_cons, Nat.mul_comm 10 n]
      split
      · next hlt => exact ih hlt
      · next hge =>
          have hle := le_ofDigitChars rest (n * 10 + (c.toNat - '0'.toNat))
          refine ⟨fun h => (List.cons_ne_nil c rest (Prod.mk.inj h).2).elim, ?_⟩
          rintro ⟨rfl, hm⟩
          exact absurd (Nat.lt_of_le_of_lt hle hm) hge

/-- The power `k` of ten, itself rounded to the format, which holds it up to 10^308. -/
def tenTo (k : Nat) : Binary64 :=
  (Binary64.ofDecimal false 1 k).getD default

/-- The number times a power of ten, in steps of at most 10^308; `none` past the largest number. Two
steps down take every start to zero, so three are enough. -/
def scale : (steps : Nat) → Binary64 → (power : Int) → Option Binary64
  | 0, x, _ => some x
  | steps + 1, x, power =>
    if power.natAbs ≤ 308 then
      if 0 ≤ power then x.mul (tenTo power.toNat) else x.div (tenTo (-power).toNat)
    else if x.significand = 0 then some x
    else if 0 ≤ power then none
    else (x.div (tenTo 308)).bind fun y => scale steps y (power + 308)

/-- Whether the numeral has neither point nor exponent. -/
def isIntegral (t : Numeral) : Bool :=
  t.fraction.isEmpty && t.power.isNone

/-- The integer that an integral numeral stands for, if it is one of 64 bits. -/
def integer? (t : Numeral) : Option Int :=
  if t.isIntegral then
    match t.negative, absorb 0 t.whole with
    | false, (n, []) => some n
    | true, (n, []) => if 0 < n ∧ n ≤ wordSize / 2 then some (-n) else none
    | _, _ => none
  else none

/-- The number of the digits before the point. -/
def wholeValue (t : Numeral) : Nat :=
  Nat.ofDigitChars 10 t.whole 0

/-- A numeral is an integer if it has neither point nor exponent and fits in 64 bits, unsigned or
with a minus sign signed. Zero with a minus sign is none. -/
theorem integer?_eq_some_iff {t : Numeral} {n : Int} :
    t.integer? = some n ↔ t.isIntegral = true ∧
      (t.negative = false ∧ n = t.wholeValue ∧ t.wholeValue < wordSize ∨
        t.negative = true ∧ n = -t.wholeValue ∧ 0 < t.wholeValue ∧
          t.wholeValue ≤ wordSize / 2) := by
  have habsorb {m : Nat} : absorb 0 t.whole = (m, []) ↔ m = t.wholeValue ∧ m < wordSize :=
    absorb_eq_iff (by decide)
  have hhalf : wordSize / 2 < wordSize := by decide
  unfold integer?
  split
  · next hintegral =>
    simp only [hintegral, true_and]
    split
    · next m hneg hm =>
        obtain ⟨rfl, hlt⟩ := habsorb.mp hm
        simp [hneg, hlt, eq_comm]
    · next m hneg hm =>
        obtain ⟨rfl, hlt⟩ := habsorb.mp hm
        simp [hneg, eq_comm, and_comm]
    · next hpos hneg =>
        have hlarge : ¬t.wholeValue < wordSize := fun hlt => by
          have hm := habsorb.mpr ⟨rfl, hlt⟩
          cases hnegative : t.negative with
          | true => exact hneg _ hnegative hm
          | false => exact hpos _ hnegative hm
        simp only [reduceCtorEq, false_iff, not_or, not_and]
        exact ⟨fun _ _ => hlarge, fun _ _ _ hle => hlarge (by omega)⟩
  · next hintegral => simp [hintegral]

/-- The floating point number that a numeral stands for; `none` when it is too large. -/
def decimal? (t : Numeral) : Option Binary64 :=
  let (start, beyond) := absorb 0 t.whole
  let (start, unread) := if t.fraction.isEmpty then (start, []) else absorb start t.fraction
  let places := t.fraction.length - unread.length
  let power := (beyond.length : Int) - places + t.power.getD 0
  (Binary64.ofDecimal false start 0).bind fun x =>
    (scale 3 x power).map fun y => { y with negative := t.negative }

/-- The value of a numeral, an integer where it can be one; `none` when it is too large. -/
def value? (t : Numeral) : Option Value :=
  match t.integer? with
  | some n => some (.integer n)
  | none => t.decimal?.map .decimal

/-- **The integers among the numbers**: the value of a numeral is the integer `n` exactly if the
numeral has neither point nor exponent, and fits. -/
theorem value?_eq_integer_iff {t : Numeral} {n : Int} :
    t.value? = some (.integer n) ↔ t.isIntegral = true ∧
      (t.negative = false ∧ n = t.wholeValue ∧ t.wholeValue < wordSize ∨
        t.negative = true ∧ n = -t.wholeValue ∧ 0 < t.wholeValue ∧
          t.wholeValue ≤ wordSize / 2) := by
  rw [← integer?_eq_some_iff, value?]
  cases t.integer? with
  | some m => simp
  | none => cases t.decimal? <;> simp

end Numeral

end SelectorSearch.Json
