/-!
# UTF-8 with Damage

Reading bytes as UTF-8 when they need not be UTF-8. The reader is a machine that takes one byte at
a time: between bytes it is either ready for a new character or owed continuation bytes, of which
the next one must lie in a known range. A byte that breaks a character off, and the end of the
bytes inside a character, yield one replacement character for everything read of that character;
a byte that can start no character yields one replacement character by itself. So each longest
run of bytes that could still have become a character is replaced by exactly one U+FFFD.

The machine never looks back, which is why text may be split at any ASCII byte before it is
decoded: an ASCII byte always leaves the machine ready.

## Main results

* `decode_append`: decoding goes on from the state that the first part leaves.
* `step_ascii`: an ASCII byte leaves the machine ready.
-/

namespace SelectorSearch.Utf8

/-- The character that stands for each damaged piece. -/
def replacement : Char := '\uFFFD'

/-- The continuation bytes that may come next. Most are free; after four of the first bytes some
would spell a character too long, a surrogate, or a number above U+10FFFF. -/
inductive Tail where
  /-- Any continuation byte, `80` to `BF`. -/
  | free
  /-- After `E0`: `A0` to `BF`. -/
  | fromA0
  /-- After `ED`: `80` to `9F`. -/
  | to9F
  /-- After `F0`: `90` to `BF`. -/
  | from90
  /-- After `F4`: `80` to `8F`. -/
  | to8F
  deriving DecidableEq, Repr

/-- Whether a byte may come next, by its number. -/
def Tail.allows : Tail → Nat → Bool
  | .free, b => 0x80 ≤ b && b ≤ 0xBF
  | .fromA0, b => 0xA0 ≤ b && b ≤ 0xBF
  | .to9F, b => 0x80 ≤ b && b ≤ 0x9F
  | .from90, b => 0x90 ≤ b && b ≤ 0xBF
  | .to8F, b => 0x80 ≤ b && b ≤ 0x8F

/-- Where the reader stands between bytes: between characters, or inside one that is owed some
bytes. -/
inductive State where
  /-- Between characters. -/
  | ready
  /-- Inside a character with the bits `value` so far: the next byte has to be one that `tail`
  allows, and `more` continuation bytes follow it. -/
  | owed (value : Nat) (tail : Tail) (more : Nat)
  deriving DecidableEq, Repr

/-- The reader after the first byte of a character, with what that byte yields. -/
def lead (b : Nat) : List Char × State :=
  if b ≤ 0x7F then ([Char.ofNat b], .ready)
  else if 0xC2 ≤ b ∧ b ≤ 0xDF then ([], .owed (b - 0xC0) .free 0)
  else if b = 0xE0 then ([], .owed 0 .fromA0 1)
  else if b = 0xED then ([], .owed 0xD .to9F 1)
  else if 0xE1 ≤ b ∧ b ≤ 0xEF then ([], .owed (b - 0xE0) .free 1)
  else if b = 0xF0 then ([], .owed 0 .from90 2)
  else if 0xF1 ≤ b ∧ b ≤ 0xF3 then ([], .owed (b - 0xF0) .free 2)
  else if b = 0xF4 then ([], .owed 4 .to8F 2)
  else ([replacement], .ready)

/-- One byte: what it yields, and the state after it. -/
def step : State → Nat → List Char × State
  | .ready, b => lead b
  | .owed value tail more, b =>
    if tail.allows b then
      let value := value * 64 + (b - 0x80)
      match more with
      | 0 => ([Char.ofNat value], .ready)
      | more + 1 => ([], .owed value .free more)
    else
      let (chars, next) := lead b
      (replacement :: chars, next)

/-- What the end of the bytes yields, which is a replacement for a character that was not
completed. -/
def flush : State → List Char
  | .ready => []
  | .owed .. => [replacement]

/-- The state and the characters, last one first, after some more `bytes`. -/
def advance (start : State × List Char) (bytes : List UInt8) : State × List Char :=
  bytes.foldl
    (fun (state, chars) b =>
      let (found, next) := step state b.toNat
      (next, found.reverse ++ chars))
    start

/-- The characters of some `bytes`, with damage replaced. -/
def decode (bytes : List UInt8) : List Char :=
  let (state, chars) := advance (.ready, []) bytes
  (flush state ++ chars).reverse

/-- The bytes of some characters. -/
def encode (chars : List Char) : List UInt8 :=
  chars.flatMap String.utf8EncodeChar

/-- The characters of bytes that are UTF-8: those that decode to what encodes to them. -/
def decode? (bytes : List UInt8) : Option (List Char) :=
  let chars := decode bytes
  if encode chars = bytes then some chars else none

/-! ### The machine -/

/-- Bytes may be read in two parts `a` and `b`. -/
theorem advance_append (start : State × List Char) (a b : List UInt8) :
    advance start (a ++ b) = advance (advance start a) b := by
  simp [advance]

/-- **Decoding can be cut anywhere**: it goes on with `b` from the state that the first part `a`
leaves. -/
theorem decode_append (a b : List UInt8) :
    decode (a ++ b) =
      let (state, chars) := advance (advance (.ready, []) a) b
      (flush state ++ chars).reverse := by
  simp [decode, advance_append]

/-- No ASCII byte `b` continues a character. -/
theorem Tail.allows_ascii {b : Nat} (h : b ≤ 0x7F) (t : Tail) : t.allows b = false := by
  cases t <;> simp [Tail.allows] <;> omega

/-- An ASCII byte `b` breaks off what is owed, stands for itself and leaves the machine `ready`. -/
theorem step_ascii {b : Nat} (h : b ≤ 0x7F) : ∀ s : State,
    step s b = (flush s ++ [Char.ofNat b], .ready)
  | .ready => by simp [step, lead, flush, h]
  | .owed value tail more => by simp [step, Tail.allows_ascii h, lead, flush, h]

end SelectorSearch.Utf8
