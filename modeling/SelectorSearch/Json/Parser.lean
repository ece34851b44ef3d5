import SelectorSearch.Json.Number
import SelectorSearch.Text.Digits

/-!
# Reading JSON

A reader for JSON texts. It takes what the standard allows and nothing more: blanks are space,
tab, line feed and carriage return; control characters may not stand raw in strings; an escaped
surrogate must be one half of a pair. Two limits are its own: arrays and objects may be nested in
each other up to 127 deep, and numbers must be finite.

Reading goes from left to right and each call returns what it leaves. The depth that is left goes
down with each array and object; `fuel` bounds the calls and is computed from the length of the
text, of which every second call takes at least one character.

## Main results

* `skipBlank_cons_of_not`: nothing is skipped before a character that is not blank.
-/

namespace SelectorSearch.Json

/-! ### Blanks -/

/-- The four blanks of JSON: the space, the tab, the line feed and the carriage return. -/
def isBlank (c : Char) : Bool :=
  c = ' ' || c = '\t' || c = '\n' || c = '\r'

/-- The text from its first character on that is not blank. -/
def skipBlank (s : List Char) : List Char :=
  s.dropWhile isBlank

/-- Nothing is skipped before a character `c` that is not blank. -/
theorem skipBlank_cons_of_not {c : Char} (h : isBlank c = false) (s : List Char) :
    skipBlank (c :: s) = c :: s := by
  simp [skipBlank, h]

/-! ### Strings -/

/-- The value of four digits of base sixteen, if they are such digits. -/
def hexValue4? (a b c d : Char) : Option Nat := do
  let high := (← Text.hexValue? a) * 16 + (← Text.hexValue? b)
  let low := (← Text.hexValue? c) * 16 + (← Text.hexValue? d)
  return high * 256 + low

/-- The number is the first half of a pair of surrogates. -/
def isHighSurrogate (n : Nat) : Bool :=
  0xD800 ≤ n && n < 0xDC00

/-- The number is the second half of a pair of surrogates. -/
def isLowSurrogate (n : Nat) : Bool :=
  0xDC00 ≤ n && n < 0xE000

/-- The character that a pair of surrogates stands for. -/
def joinSurrogates (high low : Nat) : Char :=
  Char.ofNat (0x10000 + (high - 0xD800) * 0x400 + (low - 0xDC00))

/-- The character that a letter after a backslash stands for, if it stands for one. -/
def unescape? (c : Char) : Option Char :=
  match c with
  | '"' => some '"'
  | '\\' => some '\\'
  | '/' => some '/'
  | 'b' => some '\x08'
  | 'f' => some '\x0c'
  | 'n' => some '\n'
  | 'r' => some '\r'
  | 't' => some '\t'
  | _ => none

/-- The rest of a string after its opening quote, and what follows its closing quote. The characters
read so far are kept in `read`, last one first. -/
def scanString (read : List Char) : List Char → Option (String × List Char)
  | [] => none
  | '"' :: rest => some (String.ofList read.reverse, rest)
  | '\\' :: 'u' :: a :: b :: c :: d :: rest =>
    match hexValue4? a b c d with
    | none => none
    | some n =>
      if isHighSurrogate n then
        match rest with
        | '\\' :: 'u' :: e :: f :: g :: h :: rest =>
          match hexValue4? e f g h with
          | none => none
          | some m =>
            if isLowSurrogate m then scanString (joinSurrogates n m :: read) rest else none
        | _ => none
      else if isLowSurrogate n then none
      else scanString (Char.ofNat n :: read) rest
  | '\\' :: c :: rest =>
    match unescape? c with
    | none => none
    | some c => scanString (c :: read) rest
  | c :: rest => if c.toNat < 0x20 ∨ c = '\\' then none else scanString (c :: read) rest

/-! ### Values -/

mutual

/-- The value at the front of a text, and what follows it, with `depth` levels of nesting left. -/
def scanValue : (fuel depth : Nat) → List Char → Option (Value × List Char)
  | 0, _, _ => none
  | fuel + 1, depth, s =>
    match skipBlank s, depth with
    | 'n' :: 'u' :: 'l' :: 'l' :: rest, _ => some (.null, rest)
    | 't' :: 'r' :: 'u' :: 'e' :: rest, _ => some (.bool true, rest)
    | 'f' :: 'a' :: 'l' :: 's' :: 'e' :: rest, _ => some (.bool false, rest)
    | '"' :: rest, _ => (scanString [] rest).map fun (s, rest) => (.string s, rest)
    | '[' :: rest, depth + 1 =>
      match skipBlank rest with
      | ']' :: rest => some (.array [], rest)
      | rest => (scanItems fuel depth rest).map fun (items, rest) => (.array items, rest)
    | '{' :: rest, depth + 1 =>
      match skipBlank rest with
      | '}' :: rest => some (.object [], rest)
      | rest => (scanMembers fuel depth rest).map fun (ms, rest) => (.object ms, rest)
    | s, _ => do
      let (numeral, rest) ← Numeral.scan? s
      return (← numeral.value?, rest)

/-- The items of an array that is not empty, up to its closing bracket, and what follows it. -/
def scanItems : (fuel depth : Nat) → List Char → Option (List Value × List Char)
  | 0, _, _ => none
  | fuel + 1, depth, s =>
    match scanValue fuel depth s with
    | none => none
    | some (v, rest) =>
      match skipBlank rest with
      | ']' :: rest => some ([v], rest)
      | ',' :: rest => (scanItems fuel depth rest).map fun (vs, rest) => (v :: vs, rest)
      | _ => none

/-- The members of an object that is not empty, up to its closing brace, and what follows it. -/
def scanMembers : (fuel depth : Nat) → List Char → Option (Members × List Char)
  | 0, _, _ => none
  | fuel + 1, depth, s =>
    match skipBlank s with
    | '"' :: rest =>
      match scanString [] rest with
      | none => none
      | some (key, rest) =>
        match skipBlank rest with
        | ':' :: rest =>
          match scanValue fuel depth rest with
          | none => none
          | some (v, rest) =>
            match skipBlank rest with
            | '}' :: rest => some ([(key, v)], rest)
            | ',' :: rest =>
              (scanMembers fuel depth rest).map fun (ms, rest) => ((key, v) :: ms, rest)
            | _ => none
        | _ => none
    | _ => none

end

/-- How deep arrays and objects may be nested in each other. -/
def maxDepth : Nat := 127

/-- The value that a whole text stands for, with blanks around it. -/
def parse? (text : String) : Option Value :=
  let s := text.toList
  match scanValue (2 * s.length + 2) maxDepth s with
  | some (v, rest) => if (skipBlank rest).isEmpty then some v else none
  | none => none

end SelectorSearch.Json
