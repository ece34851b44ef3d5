import SelectorSearch.Number.Shortest
import SelectorSearch.Mismatch

/-!
# TOML Values

The values of a configuration file, each with the stretch of the text it comes from. Tables keep
their entries in the order of the file and remember how they came about, since that decides how
the rest of the file may extend them.
-/

namespace SelectorSearch.Toml

/-- A number with a fraction or an exponent, or one of the words for numbers that are not finite. -/
inductive Decimal where
  | finite (x : Binary64)
  | infinite (negative : Bool)
  | notANumber
  deriving DecidableEq, Repr

/-- How decimals are written, which is always by position. -/
def decimalStyle : DecimalStyle :=
  ⟨none⟩

/-- A decimal as error messages show it. -/
def Decimal.written : Decimal → String
  | .finite x => decimalStyle.write x
  | .infinite false => "inf"
  | .infinite true => "-inf"
  | .notANumber => "NaN"

/-- How a table came about, which decides what can still be added to it. -/
inductive Origin where
  /-- By a header of its own. -/
  | header
  /-- As a step of a longer header. -/
  | implied
  /-- As a step of a dotted key. -/
  | dotted
  deriving DecidableEq, Repr

/-- A stretch of a text, given by how many characters are left at its two ends. -/
structure Span where
  start : Nat
  stop : Nat
  deriving DecidableEq, Repr, Inhabited

/-- A TOML value, where tables are told apart by how they came about. -/
inductive Value where
  | string (s : String)
  | integer (n : Int)
  | decimal (x : Decimal)
  | boolean (b : Bool)
  | dateTime
  | array (items : List (Span × Value))
  /-- A table that is written in braces; nothing can extend it. -/
  | inline (entries : List (String × Span × Value))
  | table (origin : Origin) (entries : List (String × Span × Value))
  /-- The tables of an array, each with a header in double brackets. -/
  | rows (tables : List (Span × List (String × Span × Value)))
  deriving Repr, Inhabited

/-- A value and where it is found. A table that has no header and no braces is found at its key. -/
abbrev Located := Span × Value

/-- The entries of a table, in the order of the file. -/
abbrev Entries := List (String × Located)

/-- A value as an error message names it; a date counts as a table. -/
def Value.found : Value → Found
  | .string s => .text s
  | .integer n => .integer n
  | .decimal x => .decimal x.written
  | .boolean b => .boolean b
  | .dateTime => .mapping
  | .array _ => .sequence
  | .inline _ => .mapping
  | .table .. => .mapping
  | .rows _ => .sequence

/-- The elements of an array, be it a value or an array of tables. -/
def Value.elements? : Value → Option (List Located)
  | .array items => some items
  | .rows tables => some (tables.map fun (span, entries) => (span, .inline entries))
  | _ => none

/-- The entries with the value of a `key` replaced. -/
def Entries.replace (entries : Entries) (key : String) (v : Located) : Entries :=
  entries.map fun (k, old) => if k = key then (k, v) else (k, old)

/-- The entries without the one of a `key`. -/
def Entries.without (entries : Entries) (key : String) : Entries :=
  entries.filter (·.1 ≠ key)

end SelectorSearch.Toml
