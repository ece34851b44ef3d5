import SelectorSearch.Json.Value

/-!
# Writing JSON

The compact text of a JSON value: no blanks, members in their order. In strings only the quote,
the backslash and the control characters are escaped, the latter with a letter where JSON has one
and otherwise as four hexadecimal digits, so the text of a value never holds a raw control
character and stays on one line.

## Main results

* `escape_ne_lineFeed`: no escaped character holds a line feed.
-/

namespace SelectorSearch.Json

/-- A digit of base sixteen, in lower case. -/
def hexDigit (n : Nat) : Char :=
  Nat.digitChar (n % 16)

/-- How a character is written in a string: with a letter or a number behind a backslash, or as it
is. -/
def escape (c : Char) : List Char :=
  if c = '"' then ['\\', '"']
  else if c = '\\' then ['\\', '\\']
  else if c = '\x08' then ['\\', 'b']
  else if c = '\t' then ['\\', 't']
  else if c = '\n' then ['\\', 'n']
  else if c = '\x0c' then ['\\', 'f']
  else if c = '\r' then ['\\', 'r']
  else if c.toNat < 0x20 then
    ['\\', 'u', '0', '0', hexDigit (c.toNat / 16), hexDigit c.toNat]
  else [c]

/-- A string between quotes, each character of it escaped. -/
def printString (s : String) : List Char :=
  '"' :: (s.toList.flatMap escape ++ ['"'])

mutual

/-- The compact text of a value, as characters. -/
def Value.print : Value → List Char
  | .null => ['n', 'u', 'l', 'l']
  | .bool true => ['t', 'r', 'u', 'e']
  | .bool false => ['f', 'a', 'l', 's', 'e']
  | .integer n => (toString n).toList
  | .decimal x => (decimalStyle.write x).toList
  | .string s => printString s
  | .array items => '[' :: (printItems items ++ [']'])
  | .object members => '{' :: (printMembers members ++ ['}'])

/-- The items of an array, with commas between them. -/
def printItems : List Value → List Char
  | [] => []
  | [v] => v.print
  | v :: w :: rest => v.print ++ ',' :: printItems (w :: rest)

/-- The members of an object, with commas between them. -/
def printMembers : List (String × Value) → List Char
  | [] => []
  | [(key, v)] => printString key ++ ':' :: v.print
  | (key, v) :: m :: rest =>
    printString key ++ ':' :: (v.print ++ ',' :: printMembers (m :: rest))

end

/-- The compact text of a value, which has no blanks outside its strings. -/
def Value.compact (v : Value) : String :=
  String.ofList v.print

/-- No escaped character holds a line feed, not even that of one. -/
theorem escape_ne_lineFeed (c : Char) : '\n' ∉ escape c := by
  have digits : ∀ n < 16, Nat.digitChar n ≠ '\n' := by decide
  have hex : ∀ n, hexDigit n ≠ '\n' := fun n => digits _ (Nat.mod_lt n (by decide))
  have h1 := hex (c.toNat / 16)
  have h2 := hex c.toNat
  grind [escape]

end SelectorSearch.Json
