import SelectorSearch.Toml.Value
import SelectorSearch.Text.Digits

/-!
# Reading TOML Scalars

Strings in their four notations, integers, decimals and dates. Every reader takes what it can from
the front of a text and returns the rest.

Control characters other than the tab may stand in no string. Integers have 64 bits with a sign;
a decimal beyond the largest number is refused, except that one with a minus sign becomes
negative infinity.
-/

namespace SelectorSearch.Toml

open Text (hexValue? digitsValue)

/-! ### Characters -/

/-- A space or a tab. -/
def isBlank (c : Char) : Bool :=
  c = ' ' || c = '\t'

/-- A character that may stand in comments and strings: no control character but the tab. -/
def isPlain (c : Char) : Bool :=
  c = '\t' || (0x20 ≤ c.toNat && c.toNat ≠ 0x7F)

/-- The text after the spaces and tabs at its front. -/
def skipBlank (s : List Char) : List Char :=
  s.dropWhile isBlank

/-- The rest of a text after the line end at its front, if there is one. -/
def lineEnd? : List Char → Option (List Char)
  | '\n' :: rest => some rest
  | '\r' :: '\n' :: rest => some rest
  | _ => none

/-! ### Strings -/

/-- The character with a code point in hexadecimal, if there is one. -/
def codePoint? (digits : List Char) : Option Char := do
  let n ← digits.foldlM (fun n c => return n * 16 + (← hexValue? c)) 0
  if n < 0xD800 ∨ (0xE000 ≤ n ∧ n < 0x110000) then some (Char.ofNat n) else none

/-- The character that an escape stands for, without its backslash, and the rest. -/
def scanEscape : List Char → Option (Char × List Char)
  | 'b' :: rest => some ('\x08', rest)
  | 't' :: rest => some ('\t', rest)
  | 'n' :: rest => some ('\n', rest)
  | 'f' :: rest => some ('\x0c', rest)
  | 'r' :: rest => some ('\r', rest)
  | '"' :: rest => some ('"', rest)
  | '\\' :: rest => some ('\\', rest)
  | 'u' :: a :: b :: c :: d :: rest => (codePoint? [a, b, c, d]).map (·, rest)
  | 'U' :: a :: b :: c :: d :: e :: f :: g :: h :: rest =>
    (codePoint? [a, b, c, d, e, f, g, h]).map (·, rest)
  | _ => none

/-- The rest of a string between quotes on one line, and what follows it. -/
def scanBasic (fuel : Nat) (read : List Char) (s : List Char) : Option (String × List Char) :=
  match fuel, s with
  | _, '"' :: rest => some (String.ofList read.reverse, rest)
  | fuel + 1, '\\' :: rest => do
    let (c, rest) ← scanEscape rest
    scanBasic fuel (c :: read) rest
  | fuel + 1, c :: rest => if isPlain c then scanBasic fuel (c :: read) rest else none
  | _, _ => none

/-- The rest of a string between apostrophes on one line, which has no escapes, and what follows
it. -/
def scanLiteral (s : List Char) : Option (String × List Char) :=
  let body := s.takeWhile (· ≠ '\'')
  match s.dropWhile (· ≠ '\'') with
  | _ :: rest => if body.all isPlain then some (String.ofList body, rest) else none
  | [] => none

/-- The text after the blanks and line ends at its front, if there is a line end before anything
else: what a backslash at the end of a line skips. -/
def skipFold? (s : List Char) : Option (List Char) :=
  (lineEnd? (skipBlank s)).map fun rest =>
    rest.dropWhile fun c => isBlank c || c = '\n' || c = '\r'

/-- The quotes at the end of a long string. The last three close it, and up to two before them
belong to the string. -/
def closeLong (quote : Char) (read : List Char) (s : List Char) : Option (String × List Char) :=
  let run := (s.takeWhile (· = quote)).length
  if run < 3 then none
  else
    let own := min (run - 3) 2
    some (String.ofList (List.replicate own quote ++ read).reverse, s.drop (own + 3))

/-- The rest of a string between triple quotes, and what follows it. -/
def scanLongBasic (fuel : Nat) (read : List Char) (s : List Char) : Option (String × List Char) :=
  match fuel with
  | 0 => none
  | fuel + 1 =>
    match closeLong '"' read s with
    | some result => some result
    | none =>
      match s with
      | '\\' :: rest =>
        match skipFold? rest with
        | some rest => scanLongBasic fuel read rest
        | none => do
          let (c, rest) ← scanEscape rest
          scanLongBasic fuel (c :: read) rest
      | '\r' :: '\n' :: rest => scanLongBasic fuel ('\n' :: read) rest
      | c :: rest =>
        if isPlain c ∨ c = '\n' then scanLongBasic fuel (c :: read) rest else none
      | [] => none

/-- The rest of a string between triple apostrophes, and what follows it. -/
def scanLongLiteral (fuel : Nat) (read : List Char) (s : List Char) :
    Option (String × List Char) :=
  match fuel with
  | 0 => none
  | fuel + 1 =>
    match closeLong '\'' read s with
    | some result => some result
    | none =>
      match s with
      | '\r' :: '\n' :: rest => scanLongLiteral fuel ('\n' :: read) rest
      | c :: rest =>
        if isPlain c ∨ c = '\n' then scanLongLiteral fuel (c :: read) rest else none
      | [] => none

/-- The text without a line end at its front, which long strings drop. -/
def dropLineEnd (s : List Char) : List Char :=
  (lineEnd? s).getD s

/-- A string on one line, between quotes or apostrophes. -/
def scanLineString : List Char → Option (String × List Char)
  | '"' :: rest => scanBasic rest.length [] rest
  | '\'' :: rest => scanLiteral rest
  | _ => none

/-- A string in any of its four notations. -/
def scanString : List Char → Option (String × List Char)
  | '"' :: '"' :: '"' :: rest => scanLongBasic (rest.length + 1) [] (dropLineEnd rest)
  | '\'' :: '\'' :: '\'' :: rest => scanLongLiteral (rest.length + 1) [] (dropLineEnd rest)
  | s => scanLineString s

/-! ### Numbers -/

/-- Digits with single underscores between them, and the rest. -/
def scanDigits (isDigit : Char → Bool) (s : List Char) : Option (List Char × List Char) :=
  let run := s.takeWhile fun c => isDigit c || c = '_'
  let digits := run.filter (· ≠ '_')
  let doubled := (run.zip run.tail).any fun (a, b) => a = '_' && b = '_'
  if run.isEmpty || run.head? = some '_' || run.getLast? = some '_' || doubled then none
  else some (digits, s.drop run.length)

/-- An optional sign: whether it is a minus, and the rest. -/
def scanSign : List Char → Bool × List Char
  | '-' :: rest => (true, rest)
  | '+' :: rest => (false, rest)
  | s => (false, s)

/-- Decimal digits without a leading zero, unless that is all, and the rest. -/
def scanWhole (s : List Char) : Option (List Char × List Char) := do
  let (digits, rest) ← scanDigits Char.isDigit s
  if digits.head? = some '0' ∧ 1 < digits.length then none else some (digits, rest)

/-- The magnitude of the least integer of 64 bits with a sign. -/
def wordLimit : Nat := 0x8000000000000000

/-- The integer of 64 bits that a sign and a number `n` make, if it is one. -/
def word? (negative : Bool) (n : Nat) : Option Value :=
  if negative then if n ≤ wordLimit then some (.integer (-n)) else none
  else if n < wordLimit then some (.integer n) else none

/-- An integer in base sixteen, eight or two after its mark, and the rest. -/
def scanBased (base : Nat) (s : List Char) : Option (Value × List Char) := do
  let isDigit := fun c => (hexValue? c).any (· < base)
  let (digits, rest) ← scanDigits isDigit s
  return (← word? false (digitsValue base digits), rest)

/-- An integer in any base, and the rest. -/
def scanInteger : List Char → Option (Value × List Char)
  | '0' :: 'x' :: rest => scanBased 16 rest
  | '0' :: 'o' :: rest => scanBased 8 rest
  | '0' :: 'b' :: rest => scanBased 2 rest
  | s => do
    let (negative, s) := scanSign s
    let (digits, rest) ← scanWhole s
    return (← word? negative (digitsValue 10 digits), rest)

/-- The digits after a point, which must be there, and the rest. -/
def scanFraction : List Char → Option (List Char × List Char)
  | '.' :: rest => scanDigits Char.isDigit rest
  | _ => none

/-- The power of ten after its mark, which must be there, and the rest. -/
def scanPower : List Char → Option (Int × List Char)
  | c :: rest =>
    if c = 'e' ∨ c = 'E' then do
      let (negative, rest) := scanSign rest
      let (digits, rest) ← scanDigits Char.isDigit rest
      let n : Int := digitsValue 10 digits
      return (if negative then -n else n, rest)
    else none
  | [] => none

/-- The number that the parts of a decimal stand for, if it is not too large. -/
def decimalValue? (negative : Bool) (whole fraction : List Char) (power : Int) : Option Decimal :=
  match Binary64.ofDecimal negative (digitsValue 10 (whole ++ fraction))
      (power - fraction.length) with
  | some x => some (.finite x)
  | none => if negative then some (.infinite true) else none

/-- A decimal that has a fraction, an exponent or both, and the rest. -/
def scanDecimal (s : List Char) : Option (Value × List Char) := do
  let (negative, s) := scanSign s
  let (whole, s) ← scanWhole s
  match scanFraction s with
  | some (fraction, s) =>
    let (power, s) := (scanPower s).getD (0, s)
    return (.decimal (← decimalValue? negative whole fraction power), s)
  | none =>
    let (power, s) ← scanPower s
    return (.decimal (← decimalValue? negative whole [] power), s)

/-- The two decimals that are words, with a sign or without. -/
def scanSpecial (s : List Char) : Option (Value × List Char) :=
  match scanSign s with
  | (negative, 'i' :: 'n' :: 'f' :: rest) => some (.decimal (.infinite negative), rest)
  | (_, 'n' :: 'a' :: 'n' :: rest) => some (.decimal .notANumber, rest)
  | _ => none

/-! ### Dates -/

/-- A number of exactly `count` digits, within bounds, and the rest. -/
def scanField (count low high : Nat) (s : List Char) : Option (Nat × List Char) :=
  let digits := s.take count
  let n := digitsValue 10 digits
  if digits.length = count ∧ digits.all Char.isDigit ∧ low ≤ n ∧ n ≤ high then
    some (n, s.drop count)
  else none

/-- The rest of a text after a character `c`, if it begins with that. -/
def after? (c : Char) : List Char → Option (List Char)
  | d :: rest => if d = c then some rest else none
  | [] => none

/-- The number of days of a `month`, which depends on the year for one of them. -/
def daysIn (year month : Nat) : Nat :=
  if month = 2 then
    if year % 4 = 0 ∧ (year % 100 ≠ 0 ∨ year % 400 = 0) then 29 else 28
  else if month = 4 ∨ month = 6 ∨ month = 9 ∨ month = 11 then 30
  else 31

/-- The rest of a text after a date, if it begins with one. -/
def date? (s : List Char) : Option (List Char) := do
  let (year, s) ← scanField 4 0 9999 s
  let (month, s) ← scanField 2 1 12 (← after? '-' s)
  let (_, s) ← scanField 2 1 (daysIn year month) (← after? '-' s)
  return s

/-- The rest of a text after a time of day, which may be a leap second. -/
def time? (s : List Char) : Option (List Char) := do
  let (_, s) ← scanField 2 0 23 s
  let (_, s) ← scanField 2 0 59 (← after? ':' s)
  let (_, s) ← scanField 2 0 60 (← after? ':' s)
  match s with
  | '.' :: rest =>
    if (rest.takeWhile Char.isDigit).isEmpty then none else some (rest.dropWhile Char.isDigit)
  | s => some s

/-- The rest of a text after the distance of a time zone, if it begins with one. -/
def zone? : List Char → Option (List Char)
  | [] => none
  | c :: s =>
    if c = 'Z' ∨ c = 'z' then some s
    else if c = '+' ∨ c = '-' then do
      let (_, s) ← scanField 2 0 23 s
      let (_, s) ← scanField 2 0 59 (← after? ':' s)
      return s
    else none

/-- The rest of a text after the time of a date, if there is one. -/
def timeOfDate? : List Char → Option (List Char)
  | [] => none
  | c :: s =>
    if c = 'T' ∨ c = 't' ∨ c = ' ' then (time? s).map fun s => (zone? s).getD s else none

/-- A date, a time, or both, and the rest. -/
def scanDateTime (s : List Char) : Option (Value × List Char) :=
  match date? s with
  | some s => some (.dateTime, (timeOfDate? s).getD s)
  | none => (time? s).map (.dateTime, ·)

/-- A scalar that starts with a digit or a sign, and the rest. -/
def scanNumeric (s : List Char) : Option (Value × List Char) :=
  scanDateTime s <|> scanDecimal s <|> scanSpecial s <|> scanInteger s

/-- A scalar other than a string, and the rest. -/
def scanScalar : List Char → Option (Value × List Char)
  | 't' :: 'r' :: 'u' :: 'e' :: rest => some (.boolean true, rest)
  | 'f' :: 'a' :: 'l' :: 's' :: 'e' :: rest => some (.boolean false, rest)
  | s => scanNumeric s

end SelectorSearch.Toml
