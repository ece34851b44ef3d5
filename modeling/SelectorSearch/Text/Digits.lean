/-!
# Digits

The values of digits up to base sixteen, alone and in a row.
-/

namespace SelectorSearch.Text

/-- The value of a digit of base sixteen, in either case. -/
def hexValue? (c : Char) : Option Nat :=
  if c.isDigit then some (c.toNat - '0'.toNat)
  else if 'a' ≤ c ∧ c ≤ 'f' then some (c.toNat - 'a'.toNat + 10)
  else if 'A' ≤ c ∧ c ≤ 'F' then some (c.toNat - 'A'.toNat + 10)
  else none

/-- The value of digits in a `base`; what is no digit counts as zero. -/
def digitsValue (base : Nat) (digits : List Char) : Nat :=
  digits.foldl (fun n c => n * base + (hexValue? c).getD 0) 0

/-- The value of a text that is one decimal digit or more, and nothing else. -/
def nonNegative? (text : String) : Option Nat :=
  if !text.isEmpty && text.toList.all Char.isDigit then some (digitsValue 10 text.toList) else none

/-- The decimal digits of a number `n` are digits. -/
theorem isDigit_of_mem_toDigits {n : Nat} {c : Char} (h : c ∈ Nat.toDigits 10 n) :
    c.isDigit = true :=
  Nat.isDigit_of_mem_toDigits (by decide) (by decide) h

end SelectorSearch.Text
