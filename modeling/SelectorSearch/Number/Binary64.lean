/-!
# Binary Floating Point in Exact Arithmetic

The finite numbers of the 64-bit binary format, as integers: a sign, a significand below 2^53 and
an exponent of two. Multiplication and division are exact on natural numbers and rounded once at
the end, to the nearest number of the format and on a tie to the even significand, so nothing
here depends on the machine.

Numbers are kept in canonical form: the significand has its full 53 bits unless the exponent is
the least one. A result too large for the format is `none`.

## Main results

* `roundHalfEven_exact`: a quotient without remainder is itself.
* `two_mul_roundHalfEven_le`, `le_two_mul_roundHalfEven`: rounding moves by at most one half.
-/

namespace SelectorSearch

/-! ### Rounding a quotient -/

/-- The integer nearest to `num / den`; of two that are equally near, the even one. -/
def roundHalfEven (num den : Nat) : Nat :=
  let q := num / den
  let r := num % den
  if 2 * r < den then q
  else if den < 2 * r then q + 1
  else q + q % 2

/-- A quotient without remainder is rounded to itself. -/
theorem roundHalfEven_exact {num den : Nat} (hden : 0 < den) (h : num % den = 0) :
    roundHalfEven num den = num / den := by
  simp [roundHalfEven, h, hden]

/-- Rounding `num / den` goes up by at most one half. -/
theorem two_mul_roundHalfEven_le {num den : Nat} (hden : 0 < den) :
    2 * (roundHalfEven num den * den) ≤ 2 * num + den := by
  have h := Nat.div_add_mod num den
  have hr := Nat.mod_lt num hden
  have h2 : num / den % 2 ≤ 1 := by omega
  rw [Nat.mul_comm den] at h
  simp only [roundHalfEven]
  split
  · omega
  split
  · rw [Nat.add_mul]; omega
  · have : num / den % 2 * den ≤ 1 * den := Nat.mul_le_mul_right den h2
    rw [Nat.add_mul]; omega

/-- Rounding `num / den` goes down by at most one half. -/
theorem le_two_mul_roundHalfEven {num den : Nat} (hden : 0 < den) :
    2 * num ≤ 2 * (roundHalfEven num den * den) + den := by
  have h := Nat.div_add_mod num den
  have hr := Nat.mod_lt num hden
  rw [Nat.mul_comm den] at h
  simp only [roundHalfEven]
  split
  · omega
  split
  · rw [Nat.add_mul]; omega
  · rw [Nat.add_mul]; omega

/-! ### The format -/

/-- A finite number of the 64-bit binary format: `significand * 2 ^ exponent`, with a sign that zero
has too. -/
structure Binary64 where
  negative : Bool
  significand : Nat
  exponent : Int
  deriving DecidableEq, Repr, Inhabited

namespace Binary64

/-- The exponent of the smallest numbers of the format. -/
def leastExponent : Int := -1074

/-- The exponent of the largest numbers of the format. -/
def greatestExponent : Int := 971

/-- The least significand of 53 bits, below which only the smallest numbers are. -/
def leastFull : Nat := 0x10000000000000

/-- The exponent of two that the number `num / den` needs for a significand of 53 bits, but never
below the least one. -/
def exponentFor (num den : Nat) : Int :=
  let d : Int := (Nat.log2 num : Int) - Nat.log2 den
  let below := if 0 ≤ d then num < den <<< d.toNat else num <<< (-d).toNat < den
  max leastExponent ((if below then d - 1 else d) - 52)

/-- The number of the format nearest to `num / den`, ties to even; `none` past the largest. -/
def ofRatio (negative : Bool) (num den : Nat) : Option Binary64 :=
  if num = 0 then some ⟨negative, 0, leastExponent⟩
  else
    let e := exponentFor num den
    let m :=
      if 0 ≤ e then roundHalfEven num (den <<< e.toNat)
      else roundHalfEven (num <<< (-e).toNat) den
    let (m, e) := if m = 2 * leastFull then (leastFull, e + 1) else (m, e)
    if greatestExponent < e then none else some ⟨negative, m, e⟩

/-- The magnitude of a number as a quotient of natural numbers. -/
def ratio (x : Binary64) : Nat × Nat :=
  if 0 ≤ x.exponent then (x.significand <<< x.exponent.toNat, 1)
  else (x.significand, 1 <<< (-x.exponent).toNat)

/-- The product of two numbers, rounded once; `none` past the largest. -/
def mul (x y : Binary64) : Option Binary64 :=
  let (a, b) := x.ratio
  let (c, d) := y.ratio
  ofRatio (x.negative != y.negative) (a * c) (b * d)

/-- The quotient of `x` by a number other than zero, rounded once; `none` past the largest. -/
def div (x y : Binary64) : Option Binary64 :=
  let (a, b) := x.ratio
  let (c, d) := y.ratio
  ofRatio (x.negative != y.negative) (a * d) (b * c)

/-- The number nearest to `digits * 10 ^ power`, rounded once. Powers that decide the result by
themselves are not raised: the largest number is below 10^309, and what is below 10^-330 rounds to
zero. -/
def ofDecimal (negative : Bool) (digits : Nat) (power : Int) : Option Binary64 :=
  if digits = 0 ∨ power + Nat.log2 digits / 3 + 1 < -330 then ofRatio negative 0 1
  else if 309 < power then none
  else if 0 ≤ power then ofRatio negative (digits * Nat.pow 10 power.toNat) 1
  else ofRatio negative digits (Nat.pow 10 (-power).toNat)

end Binary64

end SelectorSearch
