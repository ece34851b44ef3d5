import SelectorSearch.Number.Binary64

/-!
# The Shortest Decimal of a Number

The decimal with the fewest digits that reads back as a given number of the 64-bit binary format,
and of several with that many digits the nearest; of two that are equally near, the one with the
even last digit.

The reals that round to a number form an interval around it, ends included when the significand
is even. Decimals with a given last place form a grid; if any point of a grid lies in the
interval, so does one of the number's two neighbours on that grid. The search therefore tests two
points on each grid, from the coarsest down, and stops at the first hit.

Where the point goes and when a power of ten is written is a choice of each format:
`DecimalStyle`.
-/

namespace SelectorSearch

namespace Binary64

/-! ### The interval of a number -/

/-- The reals that round to a number, in units of a quarter of its last place: the lower end, the
number itself and the upper end. Below a power of two the numbers are twice as dense. -/
def quarters (x : Binary64) : Nat × Nat × Nat :=
  let m := 4 * x.significand
  let below := if x.significand = leastFull ∧ leastExponent < x.exponent then 1 else 2
  (m - below, m, m + 2)

/-- The decimal `digits * 10 ^ place` and `n` quarters of the last place, as multiples of a common
unit. -/
def common (x : Binary64) (place : Int) (digits n : Nat) : Nat × Nat :=
  let e := x.exponent - 2
  let two := fun (k : Int) => 1 <<< k.toNat
  let ten := fun (k : Int) => Nat.pow 10 k.toNat
  (digits * ten place * two (-e), n * two e * ten (-place))

/-- Whether a decimal with its last digit at some `place` reads back as the number. -/
def reads (x : Binary64) (place : Int) (digits : Nat) : Bool :=
  let (low, _, high) := x.quarters
  let (a, l) := x.common place digits low
  let (_, h) := x.common place digits high
  if x.significand % 2 = 0 then l ≤ a && a ≤ h else l < a && a < h

/-- The decimal on one grid that reads back as the number and is nearest to it, if there is one. -/
def onGrid (x : Binary64) (place : Int) : Option Nat :=
  let (_, m, _) := x.quarters
  let (unit, value) := x.common place 1 m
  let under := value / unit
  let above := under + 1
  match x.reads place under, x.reads place above with
  | false, false => none
  | true, false => some under
  | false, true => some above
  | true, true =>
    let back := value - under * unit
    let ahead := above * unit - value
    if back < ahead then some under
    else if ahead < back then some above
    else some (under + under % 2)

/-! ### The search -/

/-- The first hit among `fuel` grids, from a `place` downwards. -/
def search (x : Binary64) : Nat → Int → Nat × Int
  | 0, place => (0, place)
  | fuel + 1, place =>
    match x.onGrid place with
    | some digits => (digits, place)
    | none => x.search fuel (place - 1)

/-- A place above the number's first digit: its power of two, in powers of ten and rounded up. -/
def firstPlace (x : Binary64) : Int :=
  ((Nat.log2 x.significand : Int) + x.exponent + 1) * 30103 / 100000 + 1

/-- The digits of the shortest decimal and the place of the last one. Seventeen digits always read
back, and the search starts at most two places too high. -/
def shortest (x : Binary64) : Nat × Int :=
  if x.significand = 0 then (0, 0) else x.search 20 x.firstPlace

end Binary64

/-! ### Writing a decimal -/

/-- How a format writes decimals: the powers of ten of the first digit that are written by position,
or all of them. -/
structure DecimalStyle where
  positional : Option (Int × Int)
  deriving DecidableEq, Repr

namespace DecimalStyle

/-- Whether a first digit at this power of ten is written by position. -/
def writesOut (style : DecimalStyle) (power : Int) : Bool :=
  style.positional.all fun (low, high) => low ≤ power && power ≤ high

/-- Digits by position, with at least one on each side of the point. -/
def byPosition (digits : List Char) (place : Int) : List Char :=
  let whole := (digits.length : Int) + place
  if 0 ≤ place then digits ++ List.replicate place.toNat '0' ++ ['.', '0']
  else if 0 < whole then digits.take whole.toNat ++ '.' :: digits.drop whole.toNat
  else ['0', '.'] ++ List.replicate (-whole).toNat '0' ++ digits

/-- One digit, the others after a point, then a signed power of ten of at least two digits. -/
def byPower (digits : List Char) (power : Int) : List Char :=
  let mantissa := match digits with
    | [] => []
    | [d] => [d]
    | d :: ds => d :: '.' :: ds
  let exponent := Nat.toDigits 10 power.natAbs
  let padding := if exponent.length < 2 then ['0'] else []
  mantissa ++ ['e', if power < 0 then '-' else '+'] ++ padding ++ exponent

/-- The shortest decimal of a number, with the sign of a negative zero. -/
def write (style : DecimalStyle) (x : Binary64) : String :=
  let (value, place) := x.shortest
  let digits := Nat.toDigits 10 value
  let power := (digits.length : Int) - 1 + place
  let magnitude :=
    if style.writesOut power then byPosition digits place else byPower digits power
  String.ofList (if x.negative then '-' :: magnitude else magnitude)

end DecimalStyle

end SelectorSearch
