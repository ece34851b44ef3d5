import SelectorSearch.Text.Printable

/-!
# Quoted Text

Text between double quotes, as error messages show it. A quote and a backslash get a backslash;
tab, line feed, carriage return and NUL are written with a letter; any other character that does
not print is written as its code point in hexadecimal between braces.
-/

namespace SelectorSearch.Text

/-- The code point of a character in hexadecimal, between braces. -/
def escapeCodePoint (c : Char) : List Char :=
  ['\\', 'u', '{'] ++ Nat.toDigits 16 c.toNat ++ ['}']

/-- How a character is written between quotes: as it is, with a letter, or by its code point. -/
def escape (c : Char) : List Char :=
  match c with
  | '\x00' => ['\\', '0']
  | '\t' => ['\\', 't']
  | '\n' => ['\\', 'n']
  | '\r' => ['\\', 'r']
  | '"' => ['\\', '"']
  | '\\' => ['\\', '\\']
  | c => if isPrintable c then [c] else escapeCodePoint c

/-- The text between double quotes, with each character escaped. -/
def quote (s : String) : String :=
  String.ofList ('"' :: s.toList.flatMap escape ++ ['"'])

end SelectorSearch.Text
