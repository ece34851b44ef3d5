import SelectorSearch.Json.Parser
import SelectorSearch.Text.Split

/-!
# The Grammar of JSON

What a JSON text is and which value it denotes, said without a reader: a text is composed of the
texts of its parts. `Denotes` has one clause for each form of the standard. Its depth bounds how
deep arrays and objects are nested in each other; the standard has no such bound, and for any text
there is a depth that is large enough.

The parts carry what makes them well formed: `Blanks` that they are blank, a `Quoted` string how its
text spells it. An `Item` is a value with the blanks around it, an `Entry` a member of an object.

Two kinds of texts denote nothing although the standard lets them pass as texts: those with an
escaped surrogate that is not one half of a pair, and those with a number that is not finite.

## Main definitions

* `Denotes`: a text, without blanks around it, denotes a value.
* `IsText`: the same with blanks around it.
-/

namespace SelectorSearch.Json

/-! ### Blanks and strings -/

/-- Some blanks, or none, as they may stand around values. -/
structure Blanks where
  text : List Char
  blank : ∀ c ∈ text, isBlank c = true

/-- No blanks. -/
def Blanks.none : Blanks := ⟨[], by simp⟩

/-- The text between the quotes of a string, and the characters that it spells. -/
inductive Spells : (text chars : List Char) → Prop where
  | nil : Spells [] []
  | plain {c : Char} {text chars : List Char} (quote : c ≠ '"') (backslash : c ≠ '\\')
      (control : 0x20 ≤ c.toNat) (h : Spells text chars) : Spells (c :: text) (c :: chars)
  | escape {c d : Char} {text chars : List Char} (letter : unescape? c = some d)
      (h : Spells text chars) : Spells ('\\' :: c :: text) (d :: chars)
  | unicode {a b c d : Char} {n : Nat} {text chars : List Char}
      (digits : hexValue4? a b c d = some n) (high : isHighSurrogate n = false)
      (low : isLowSurrogate n = false) (h : Spells text chars) :
      Spells ('\\' :: 'u' :: a :: b :: c :: d :: text) (Char.ofNat n :: chars)
  | pair {a b c d a' b' c' d' : Char} {n m : Nat} {text chars : List Char}
      (digits : hexValue4? a b c d = some n) (high : isHighSurrogate n = true)
      (digits' : hexValue4? a' b' c' d' = some m) (low : isLowSurrogate m = true)
      (h : Spells text chars) :
      Spells ('\\' :: 'u' :: a :: b :: c :: d :: '\\' :: 'u' :: a' :: b' :: c' :: d' :: text)
        (joinSurrogates n m :: chars)

/-- A string between quotes, with the characters that it spells. -/
structure Quoted where
  inner : List Char
  value : String
  spells : Spells inner value.toList

/-- The text of a string with its quotes. -/
def Quoted.text (q : Quoted) : List Char :=
  '"' :: (q.inner ++ ['"'])

/-! ### Numbers -/

/-- The text has one digit or more, and nothing else. -/
def IsDigits (s : List Char) : Prop :=
  s ≠ [] ∧ ∀ c ∈ s, c.isDigit = true

namespace Numeral

/-- The sign of a number, which is written only if the number is negative. -/
def signText (negative : Bool) : List Char :=
  if negative then ['-'] else []

/-- The point and the digits behind it, or nothing if there are no such digits. -/
def fractionText (fraction : List Char) : List Char :=
  if fraction.isEmpty then [] else '.' :: fraction

/-- The text of an exponent, and the number that it stands for, if there is one. -/
inductive PowerText : List Char → Option Int → Prop where
  | absent : PowerText [] none
  | unsigned {e : Char} {digits : List Char} (he : e = 'e' ∨ e = 'E') (h : IsDigits digits) :
      PowerText (e :: digits) (some (Text.digitsValue 10 digits))
  | plus {e : Char} {digits : List Char} (he : e = 'e' ∨ e = 'E') (h : IsDigits digits) :
      PowerText (e :: '+' :: digits) (some (Text.digitsValue 10 digits))
  | minus {e : Char} {digits : List Char} (he : e = 'e' ∨ e = 'E') (h : IsDigits digits) :
      PowerText (e :: '-' :: digits) (some (-Text.digitsValue 10 digits))

/-- The text of a numeral: its sign, the digits before the point, the fraction and the exponent. -/
structure IsWritten (t : Numeral) (text : List Char) : Prop where
  whole : IsDigits t.whole
  /-- A leading zero stands alone. -/
  zero : ∀ more, t.whole = '0' :: more → more = []
  fraction : ∀ c ∈ t.fraction, c.isDigit = true
  text_eq : ∃ power, PowerText power t.power ∧
    text = signText t.negative ++ (t.whole ++ (fractionText t.fraction ++ power))

end Numeral

/-! ### Values -/

/-- The text of a truth value. -/
def boolText : Bool → List Char
  | true => ['t', 'r', 'u', 'e']
  | false => ['f', 'a', 'l', 's', 'e']

/-- A text that denotes a value, with the blanks around it. -/
structure Item where
  before : Blanks
  text : List Char
  value : Value
  after : Blanks

/-- The text of a value as it is written, with its blanks. -/
def Item.written (i : Item) : List Char :=
  i.before.text ++ (i.text ++ i.after.text)

/-- A member of an object: its key between quotes, and its value, with all blanks. -/
structure Entry where
  before : Blanks
  key : Quoted
  between : Blanks
  item : Item

/-- The text of a member as it is written, with its blanks and its colon. -/
def Entry.written (e : Entry) : List Char :=
  e.before.text ++ (e.key.text ++ (e.between.text ++ ':' :: e.item.written))

/-- The name of a member and its value. -/
def Entry.member (e : Entry) : String × Value :=
  (e.key.value, e.item.value)

/-- A text denotes a value in which arrays and objects are nested at most `depth` deep. -/
inductive Denotes : (depth : Nat) → List Char → Value → Prop where
  | null {depth : Nat} : Denotes depth ['n', 'u', 'l', 'l'] .null
  | bool {depth : Nat} (b : Bool) : Denotes depth (boolText b) (.bool b)
  | number {depth : Nat} {t : Numeral} {text : List Char} {v : Value} (written : t.IsWritten text)
      (value : t.value? = some v) : Denotes depth text v
  | string {depth : Nat} (q : Quoted) : Denotes depth q.text (.string q.value)
  | emptyArray {depth : Nat} (b : Blanks) :
      Denotes (depth + 1) ('[' :: (b.text ++ [']'])) (.array [])
  | array {depth : Nat} {items : List Item} (ne : items ≠ [])
      (h : ∀ i ∈ items, Denotes depth i.text i.value) :
      Denotes (depth + 1) ('[' :: (Text.join ',' (items.map Item.written) ++ [']']))
        (.array (items.map Item.value))
  | emptyObject {depth : Nat} (b : Blanks) :
      Denotes (depth + 1) ('{' :: (b.text ++ ['}'])) (.object [])
  | object {depth : Nat} {entries : List Entry} (ne : entries ≠ [])
      (h : ∀ e ∈ entries, Denotes depth e.item.text e.item.value) :
      Denotes (depth + 1) ('{' :: (Text.join ',' (entries.map Entry.written) ++ ['}']))
        (.object (entries.map Entry.member))

/-- A whole text and its value, with blanks around it, and with arrays and objects nested at most
`depth` deep. -/
def IsText (depth : Nat) (s : List Char) (v : Value) : Prop :=
  ∃ i : Item, s = i.written ∧ v = i.value ∧ Denotes depth i.text i.value

end SelectorSearch.Json
