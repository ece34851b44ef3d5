import SelectorSearch.Text.Digits

/-!
# Arithmetic of Shell Scripts

Sums over whole numbers of 64 bits, which wrap around. A condition has the value one or zero, and
every value but zero counts as true. A name stands for the value of a variable, which is zero if
the variable is not set.

## Main results

* `wrap_eq_self_iff`: the numbers that stay as they are.
* `fits_evaluate`: the value of every sum is a number of 64 bits.
-/

namespace SelectorSearch.Shell.Arithmetic

/-- The number of 64 bits that a number becomes by wrapping around. -/
def wrap (n : Int) : Int :=
  Int.bmod n 0x10000000000000000

/-- The operators between two sums, from the loosest level to the tightest. -/
def levels : List (List String) :=
  [["||"], ["&&"], ["|"], ["^"], ["&"], ["==", "!="], ["<=", ">=", "<", ">"], ["<<", ">>"],
    ["+", "-"], ["*", "/", "%"]]

/-- The value of a condition, which is one if it holds and zero if not. -/
def truth (b : Bool) : Int :=
  if b then 1 else 0

/-- The value of an `operator` between two numbers; nothing for a division by zero. -/
def apply (operator : String) (a b : Int) : Option Int :=
  match operator with
  | "||" => some (truth (a ≠ 0 || b ≠ 0))
  | "&&" => some (truth (a ≠ 0 && b ≠ 0))
  | "|" => some (a.toInt64 ||| b.toInt64).toInt
  | "^" => some (a.toInt64 ^^^ b.toInt64).toInt
  | "&" => some (a.toInt64 &&& b.toInt64).toInt
  | "==" => some (truth (a = b))
  | "!=" => some (truth (a ≠ b))
  | "<=" => some (truth (a ≤ b))
  | ">=" => some (truth (a ≥ b))
  | "<" => some (truth (a < b))
  | ">" => some (truth (a > b))
  | "<<" => some (a.toInt64 <<< b.toInt64).toInt
  | ">>" => some (a.toInt64 >>> b.toInt64).toInt
  | "+" => some (wrap (a + b))
  | "-" => some (wrap (a - b))
  | "*" => some (wrap (a * b))
  | "/" => if b = 0 then none else some (wrap (a.tdiv b))
  | "%" => if b = 0 then none else some (a.tmod b)
  | _ => none

/-- A character of a name or of a number. -/
def isWordChar (c : Char) : Bool :=
  c.isAlphanum || c = '_'

/-- The text after the blanks at its front. -/
def skipBlanks (s : List Char) : List Char :=
  s.dropWhile fun c => c = ' ' || c = '\t' || c = '\n'

/-- The value of a number, which may be of base eight or sixteen by its prefix. -/
def number? (digits : List Char) : Option Int :=
  match digits with
  | '0' :: 'x' :: rest | '0' :: 'X' :: rest =>
    if rest.all (Text.hexValue? · |>.isSome) then some (wrap (Text.digitsValue 16 rest)) else none
  | '0' :: rest =>
    if rest.all (fun c => '0' ≤ c && c ≤ '7') then some (wrap (Text.digitsValue 8 rest)) else none
  | digits =>
    if digits.all Char.isDigit && !digits.isEmpty then some (wrap (Text.digitsValue 10 digits))
    else none

/-- The operator of a level at the front of a text, and what follows it. A shift is no comparison,
and a connective no operation on bits. -/
def operator? (operators : List String) (s : List Char) : Option (String × List Char) :=
  let s := skipBlanks s
  match operators.find? fun o => o.toList.isPrefixOf s with
  | some o =>
    let rest := s.drop o.length
    let longer := ["<<", ">>", "&&", "||"].any fun p =>
      p.length = o.length + 1 && p.toList.isPrefixOf s
    if longer then none else some (o, rest)
  | none => none

mutual

/-- The value of a sum at some level and what follows it, where `valueOf` gives the values of
variables. -/
def sum : (fuel : Nat) → (valueOf : String → Int) → (levels : List (List String)) →
    List Char → Option (Int × List Char)
  | 0, _, _, _ => none
  | fuel + 1, valueOf, [], s => operand fuel valueOf s
  | fuel + 1, valueOf, operators :: tighter, s => do
    let (a, s) ← sum fuel valueOf tighter s
    more fuel valueOf operators tighter a s

/-- The value of a sum that goes on at its level, if it does, and what follows it. -/
def more : (fuel : Nat) → (valueOf : String → Int) → (operators : List String) →
    (tighter : List (List String)) → Int → List Char → Option (Int × List Char)
  | 0, _, _, _, _, _ => none
  | fuel + 1, valueOf, operators, tighter, a, s =>
    match operator? operators s with
    | some (o, rest) => do
      let (b, s) ← sum fuel valueOf tighter rest
      more fuel valueOf operators tighter (← apply o a b) s
    | none => some (a, s)

/-- The value of a number, a variable, or a sum in parentheses, with signs before it. -/
def operand : (fuel : Nat) → (valueOf : String → Int) → List Char → Option (Int × List Char)
  | 0, _, _ => none
  | fuel + 1, valueOf, s =>
    match skipBlanks s with
    | '(' :: rest => do
      let (a, s) ← sum fuel valueOf levels rest
      match skipBlanks s with
      | ')' :: rest => return (a, rest)
      | _ => none
    | '-' :: rest => (operand fuel valueOf rest).map fun (a, s) => (wrap (-a), s)
    | '+' :: rest => operand fuel valueOf rest
    | '!' :: rest => (operand fuel valueOf rest).map fun (a, s) => (truth (a = 0), s)
    | '~' :: rest => (operand fuel valueOf rest).map fun (a, s) => (-a - 1, s)
    | s =>
      let word := s.takeWhile isWordChar
      let rest := s.drop word.length
      match word with
      | [] => none
      | c :: _ =>
        if c.isDigit then (number? word).map (·, rest)
        else some (valueOf (String.ofList word), rest)

end

/-- The value of a text; nothing if it is no sum. Without anything in it the value is zero. -/
def evaluate (valueOf : String → Int) (s : List Char) : Option Int :=
  if (skipBlanks s).isEmpty then some 0
  else
    match sum (16 * s.length + 16) valueOf levels s with
    | some (a, rest) => if (skipBlanks rest).isEmpty then some a else none
    | none => none

/-! ### Values -/

/-- The number is one of 64 bits with a sign. -/
def Fits (n : Int) : Prop :=
  -0x8000000000000000 ≤ n ∧ n < 0x8000000000000000

instance (n : Int) : Decidable (Fits n) :=
  inferInstanceAs (Decidable (_ ∧ _))

theorem fits_wrap (n : Int) : Fits (wrap n) := by
  rw [Fits, wrap, Int.bmod_def]
  omega

/-- **A number stays as it is** under `wrap` exactly if it fits. -/
theorem wrap_eq_self_iff (n : Int) : wrap n = n ↔ Fits n := by
  rw [Fits, wrap, Int.bmod_def]
  omega

theorem fits_truth (b : Bool) : Fits (truth b) := by
  cases b <;> decide

theorem fits_toInt (x : Int64) : Fits x.toInt :=
  ⟨x.le_toInt, x.toInt_lt⟩

/-- A remainder `a.tmod b` lies between `a` and zero. -/
theorem fits_tmod {a : Int} (ha : Fits a) (b : Int) : Fits (a.tmod b) := by
  obtain ⟨hlow, hhigh⟩ := ha
  have habs : (a.tmod b).natAbs ≤ a.natAbs := by
    rw [Int.natAbs_tmod]
    exact Nat.mod_le _ _
  rcases Int.le_total 0 a with hsign | hsign
  · have := Int.tmod_nonneg b hsign
    exact ⟨by omega, by omega⟩
  · have := Int.tmod_nonneg b (Int.neg_nonneg_of_nonpos hsign)
    rw [Int.neg_tmod] at this
    exact ⟨by omega, by omega⟩

/-- One step of a sum: the value of `apply` fits if the first operand `a` does. -/
theorem fits_apply {operator : String} {a b c : Int} (ha : Fits a)
    (h : apply operator a b = some c) : Fits c := by
  rw [apply.eq_def] at h
  split at h
  case h_1 | h_2 | h_6 | h_7 | h_8 | h_9 | h_10 | h_11 => exact Option.some.inj h ▸ fits_truth _
  case h_3 | h_4 | h_5 | h_12 | h_13 => exact Option.some.inj h ▸ fits_toInt _
  case h_14 | h_15 | h_16 => exact Option.some.inj h ▸ fits_wrap _
  case h_17 =>
      obtain ⟨-, hvalue⟩ := Option.ite_none_left_eq_some.mp h
      exact Option.some.inj hvalue ▸ fits_wrap _
  case h_18 =>
      obtain ⟨-, hvalue⟩ := Option.ite_none_left_eq_some.mp h
      exact Option.some.inj hvalue ▸ fits_tmod ha b
  case h_19 => cases h

theorem fits_number? {digits : List Char} {n : Int} (h : number? digits = some n) : Fits n := by
  rw [number?.eq_def] at h
  split at h
  case h_1 | h_2 | h_3 | h_4 =>
    obtain ⟨-, hvalue⟩ := Option.ite_none_right_eq_some.mp h
    exact Option.some.inj hvalue ▸ fits_wrap _

variable {valueOf : String → Int} {fuel : Nat}

/-- Whatever `sum`, `more` and `operand` find with some `fuel` fits. -/
structure SumsFit (valueOf : String → Int) (fuel : Nat) : Prop where
  sum : ∀ {levels s a rest}, sum fuel valueOf levels s = some (a, rest) → Fits a
  more : ∀ {operators tighter a s b rest}, Fits a →
    more fuel valueOf operators tighter a s = some (b, rest) → Fits b
  operand : ∀ {s a rest}, operand fuel valueOf s = some (a, rest) → Fits a

/-- With one call more the value of a sum fits: its first operand does, and what `more` makes of
it. -/
theorem SumsFit.sum_succ (ih : SumsFit valueOf fuel) {levels : List (List String)}
    {s rest : List Char} {a : Int}
    (h : Arithmetic.sum (fuel + 1) valueOf levels s = some (a, rest)) : Fits a := by
  cases levels with
  | nil => exact ih.operand h
  | cons operators tighter =>
      rw [Arithmetic.sum] at h
      obtain ⟨⟨first, left⟩, hfirst, hmore⟩ := Option.bind_eq_some_iff.mp h
      exact ih.more (ih.sum hfirst) hmore

/-- With one call more, what a sum goes on to fits if its value `a` so far does. -/
theorem SumsFit.more_succ (ih : SumsFit valueOf fuel) {operators : List String}
    {tighter : List (List String)} {a b : Int} {s rest : List Char} (ha : Fits a)
    (h : Arithmetic.more (fuel + 1) valueOf operators tighter a s = some (b, rest)) : Fits b := by
  rw [Arithmetic.more] at h
  split at h
  case h_1 =>
      obtain ⟨⟨second, left⟩, -, hvalue⟩ := Option.bind_eq_some_iff.mp h
      obtain ⟨value, hvalue, hmore⟩ := Option.bind_eq_some_iff.mp hvalue
      exact ih.more (fits_apply ha hvalue) hmore
  case h_2 =>
      cases h
      exact ha

/-- With one call more the value of an operand fits: a sum in parentheses, another operand with a
sign before it, a number, or the value of a variable. -/
theorem SumsFit.operand_succ (hvalues : ∀ name, Fits (valueOf name)) (ih : SumsFit valueOf fuel)
    {s rest : List Char} {a : Int}
    (h : Arithmetic.operand (fuel + 1) valueOf s = some (a, rest)) : Fits a := by
  rw [Arithmetic.operand.eq_def] at h
  dsimp only at h
  split at h
  case h_1 =>
      obtain ⟨⟨value, left⟩, hvalue, hclosing⟩ := Option.bind_eq_some_iff.mp h
      dsimp only at hclosing
      split at hclosing <;> cases hclosing
      exact ih.sum hvalue
  case h_2 =>
      obtain ⟨⟨value, left⟩, -, hvalue⟩ := Option.map_eq_some_iff.mp h
      cases hvalue
      exact fits_wrap _
  case h_3 => exact ih.operand h
  case h_4 =>
      obtain ⟨⟨value, left⟩, -, hvalue⟩ := Option.map_eq_some_iff.mp h
      cases hvalue
      exact fits_truth _
  case h_5 =>
      obtain ⟨⟨value, left⟩, hoperand, hvalue⟩ := Option.map_eq_some_iff.mp h
      cases hvalue
      obtain ⟨hlow, hhigh⟩ := ih.operand hoperand
      exact ⟨by omega, by omega⟩
  case h_6 =>
      split at h
      · cases h
      split at h
      · obtain ⟨value, hvalue, hpair⟩ := Option.map_eq_some_iff.mp h
        cases hpair
        exact fits_number? hvalue
      · cases h
        exact hvalues _

/-- The three functions call each other with less fuel, so that one induction on `fuel` serves
all. -/
theorem sumsFit (hvalues : ∀ name, Fits (valueOf name)) (fuel : Nat) : SumsFit valueOf fuel := by
  induction fuel with
  | zero => exact ⟨fun h => (by cases h), fun _ h => (by cases h), fun h => (by cases h)⟩
  | succ fuel ih => exact ⟨ih.sum_succ, ih.more_succ, ih.operand_succ hvalues⟩

/-- **The value of every sum is a number of 64 bits**, if those of the variables are. -/
theorem fits_evaluate (hvalues : ∀ name, Fits (valueOf name)) {s : List Char} {a : Int}
    (h : evaluate valueOf s = some a) : Fits a := by
  rw [evaluate] at h
  split at h
  · cases h
    decide
  · split at h
    case h_1 value rest hsum =>
        split at h <;> cases h
        exact (sumsFit hvalues _).sum hsum
    case h_2 => cases h

end SelectorSearch.Shell.Arithmetic
