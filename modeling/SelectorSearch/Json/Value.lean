import SelectorSearch.Number.Shortest
import SelectorSearch.Mismatch

/-!
# JSON Values

The values that a JSON text stands for. Integers that fit in 64 bits, signed or unsigned, are kept
as integers; every other number is a floating point number. An object keeps its members in the
order of the text, doubles included; a look-up answers with the last one of its name, and
`sorted` lists each name once, in the order of its bytes.
-/

namespace SelectorSearch.Json

/-- A JSON value, in which numbers are integers or decimals. -/
inductive Value where
  | null
  | bool (b : Bool)
  | integer (n : Int)
  | decimal (x : Binary64)
  | string (s : String)
  | array (items : List Value)
  | object (members : List (String × Value))
  deriving Repr, Inhabited

/-- The members of an object, in the order in which they are written, repeated names included. -/
abbrev Members := List (String × Value)

/-- The value of the last member with this name. -/
def Members.get? : Members → String → Option Value
  | [], _ => none
  | (key, value) :: rest, name =>
    (Members.get? rest name).orElse fun _ => if key = name then some value else none

@[simp] theorem Members.get?_nil (name : String) : Members.get? [] name = none := rfl

/-- The value that `get?` finds for a `name` is that of a member. -/
theorem Members.mem_of_get? {members : Members} {name : String} {v : Value}
    (h : members.get? name = some v) : (name, v) ∈ members := by
  induction members with
  | nil => cases h
  | cons m rest ih =>
      obtain ⟨key, w⟩ := m
      rw [Members.get?] at h
      cases hlater : Members.get? rest name with
      | some u =>
          rw [hlater] at h ih
          exact List.mem_cons_of_mem _ (ih h)
      | none =>
          rw [hlater] at h
          obtain ⟨rfl, rfl⟩ : key = name ∧ w = v := by simpa using h
          exact List.mem_cons_self

/-- How decimals are written: by position when the first digit is worth between 10^-5 and 10^15, by
a power of ten outside. -/
def decimalStyle : DecimalStyle :=
  ⟨some (-5, 15)⟩

/-- A value as an error message names it. -/
def Value.found : Value → Found
  | .null => .null
  | .bool b => .boolean b
  | .integer n => .integer n
  | .decimal x => .decimal (decimalStyle.write x)
  | .string s => .text s
  | .array _ => .sequence
  | .object _ => .mapping

/-- The text of a value that is a string. -/
def Value.string? : Value → Option String
  | .string s => some s
  | _ => none

end SelectorSearch.Json
