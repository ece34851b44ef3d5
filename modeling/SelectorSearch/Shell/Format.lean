import SelectorSearch.Text.Digits
import SelectorSearch.Text.Utf8

/-!
# Formatted Output of Scripts

What the commands `echo` and `printf` of a shell write. Both know escapes that begin with a
backslash; a backslash before anything else stands for itself. A format is used again and again
until all arguments are used up.

## Main results

* `Field.length_fill`: a field is as wide as it should be.
-/

namespace SelectorSearch.Shell

open Text (digitsValue)

/-- The bytes of some characters in UTF-8. -/
def bytesOf (s : List Char) : List UInt8 :=
  Utf8.encode s

/-- The bytes of a string in UTF-8. -/
def bytesOfString (s : String) : List UInt8 :=
  bytesOf s.toList

/-- A digit of base eight. -/
def isOctal (c : Char) : Bool :=
  '0' ≤ c && c ≤ '7'

/-- The byte of up to three octal digits, and the rest. -/
def scanOctal (s : List Char) : UInt8 × List Char :=
  let digits := (s.take 3).takeWhile isOctal
  (UInt8.ofNat (digitsValue 8 digits), s.drop digits.length)

/-- The bytes of an escape without its backslash, and the rest. -/
def scanEscape : List Char → List UInt8 × List Char
  | 'a' :: rest => ([7], rest)
  | 'b' :: rest => ([8], rest)
  | 'e' :: rest => ([27], rest)
  | 'f' :: rest => ([12], rest)
  | 'n' :: rest => ([10], rest)
  | 'r' :: rest => ([13], rest)
  | 't' :: rest => ([9], rest)
  | 'v' :: rest => ([11], rest)
  | '\\' :: rest => ([92], rest)
  | c :: rest =>
    if isOctal c then
      let (b, rest) := scanOctal (c :: rest)
      ([b], rest)
    else ([92], c :: rest)
  | [] => ([92], [])

/-- The bytes of a text with escapes, and whether all output ends there. -/
def unescape : (fuel : Nat) → List Char → List UInt8 × Bool
  | 0, _ => ([], false)
  | _ + 1, [] => ([], false)
  | fuel + 1, c :: rest =>
    if c ≠ '\\' then
      let (more, stop) := unescape fuel rest
      (bytesOf [c] ++ more, stop)
    else match rest with
      | 'c' :: _ => ([], true)
      | '0' :: rest =>
        let (b, rest) := scanOctal rest
        let (more, stop) := unescape fuel rest
        (b :: more, stop)
      | rest =>
        let (bytes, rest) := scanEscape rest
        let (more, stop) := unescape fuel rest
        (bytes ++ more, stop)

/-- The arguments with spaces between them, as characters. -/
def joinArguments (args : List String) : List Char :=
  (String.intercalate " " args).toList

/-- What the shell's own `echo` writes, which knows escapes. -/
def echoBytes (args : List String) : List UInt8 :=
  let silent := args.head? = some "-n"
  let text := joinArguments (if silent then args.tail else args)
  let (bytes, stop) := unescape (text.length + 1) text
  if silent || stop then bytes else bytes ++ [10]

/-- What the program `echo` writes, which knows no escapes. -/
def plainEchoBytes (args : List String) : List UInt8 :=
  let silent := args.head? = some "-n"
  let text := joinArguments (if silent then args.tail else args)
  bytesOf text ++ (if silent then [] else [10])

/-! ### Formats -/

/-- How a conversion fills its field: its width, its precision, and on which side it puts what. -/
structure Field where
  left : Bool := false
  zero : Bool := false
  /-- Whether a positive number has a sign. -/
  signed : Bool := false
  width : Nat := 0
  precision : Option Nat := none
  deriving DecidableEq, Repr

/-- The field of a conversion, and the rest, which begins with the letter of the conversion. -/
def scanField (s : List Char) : Field × List Char :=
  let flags := s.takeWhile fun c => ['-', '0', '+', ' ', '#'].contains c
  let s := s.drop flags.length
  let width := s.takeWhile Char.isDigit
  let s := s.drop width.length
  let field : Field :=
    { left := flags.contains '-', zero := flags.contains '0', signed := flags.contains '+'
      width := digitsValue 10 width }
  match s with
  | '.' :: s =>
    let precision := s.takeWhile Char.isDigit
    ({ field with precision := some (digitsValue 10 precision) }, s.drop precision.length)
  | s => (field, s)

/-- Some `bytes` in their field, with blanks or zeros around them. -/
def Field.fill (f : Field) (numeric : Bool) (bytes : List UInt8) : List UInt8 :=
  let missing := f.width - bytes.length
  if f.left then bytes ++ List.replicate missing 32
  else if numeric && f.zero then List.replicate missing 48 ++ bytes
  else List.replicate missing 32 ++ bytes

/-- **A field is as wide as it should be**, and wider only if its `bytes` are. -/
theorem Field.length_fill (f : Field) (numeric : Bool) (bytes : List UInt8) :
    (f.fill numeric bytes).length = max f.width bytes.length := by
  have hmissing : bytes.length + (f.width - bytes.length) = max f.width bytes.length := by omega
  rw [fill]
  split
  · rw [List.length_append, List.length_replicate, hmissing]
  split
  · rw [List.length_append, List.length_replicate, Nat.add_comm, hmissing]
  · rw [List.length_append, List.length_replicate, Nat.add_comm, hmissing]

/-- Some `bytes` that are cut to the precision of their field. -/
def Field.cut (f : Field) (bytes : List UInt8) : List UInt8 :=
  match f.precision with
  | some n => bytes.take n
  | none => bytes

/-- The bytes of one conversion of an argument, and whether all output ends there. -/
def convert (f : Field) (conversion : Char) (arg : String) : List UInt8 × Bool :=
  let number := arg.toInt?.getD 0
  let digits := fun base => String.ofList (Nat.toDigits base number.toNat)
  match conversion with
  | 's' => (f.fill false (f.cut (bytesOfString arg)), false)
  | 'b' =>
    let (bytes, stop) := unescape (arg.length + 1) arg.toList
    (f.fill false (f.cut bytes), stop)
  | 'c' => (f.fill false ((bytesOfString arg).take 1), false)
  | 'd' | 'i' | 'u' =>
    let sign := if f.signed && 0 ≤ number then "+" else ""
    (f.fill true (bytesOfString (sign ++ toString number)), false)
  | 'x' => (f.fill true (bytesOfString (digits 16)), false)
  | 'o' => (f.fill true (bytesOfString (digits 8)), false)
  | _ => ([], true)

/-- One use of a format: its bytes, the arguments that are left, and whether all output ends
there. -/
def formatOnce : (fuel : Nat) → List Char → List String → List UInt8 × List String × Bool
  | 0, _, args => ([], args, true)
  | _ + 1, [], args => ([], args, false)
  | fuel + 1, '%' :: '%' :: rest, args =>
    let (more, args, stop) := formatOnce fuel rest args
    (37 :: more, args, stop)
  | fuel + 1, '%' :: rest, args =>
    match scanField rest with
    | (_, []) => ([37], args, true)
    | (field, conversion :: rest) =>
      let (bytes, stop) := convert field conversion (args.head?.getD "")
      if stop then (bytes, args.tail, true)
      else
        let (more, args, stop) := formatOnce fuel rest args.tail
        (bytes ++ more, args, stop)
  | fuel + 1, '\\' :: rest, args =>
    let (bytes, rest) := scanEscape rest
    let (more, args, stop) := formatOnce fuel rest args
    (bytes ++ more, args, stop)
  | fuel + 1, c :: rest, args =>
    let (more, args, stop) := formatOnce fuel rest args
    (bytesOf [c] ++ more, args, stop)

/-- All uses of a format, one after another until no arguments are left. -/
def formatAll : (fuel : Nat) → List Char → List String → List UInt8
  | 0, _, _ => []
  | fuel + 1, format, args =>
    let (bytes, left, stop) := formatOnce (format.length + 1) format args
    if stop || left.isEmpty || left.length = args.length then bytes
    else bytes ++ formatAll fuel format left

/-- What `printf` writes for a `format` and its arguments. -/
def printfBytes (format : String) (args : List String) : List UInt8 :=
  formatAll (args.length + 1) format.toList args

/-- The arguments of numeric conversions that are no numbers, when a format is used once. -/
def badNumbersOnce : (fuel : Nat) → List Char → List String → List String
  | 0, _, _ | _, [], _ => []
  | fuel + 1, '%' :: '%' :: rest, args => badNumbersOnce fuel rest args
  | fuel + 1, '%' :: rest, args =>
    match (scanField rest).2, args with
    | conversion :: rest, arg :: args =>
      let more := badNumbersOnce fuel rest args
      if ['d', 'i', 'u', 'x', 'o'].contains conversion && arg.toInt?.isNone then arg :: more
      else more
    | _, _ => []
  | fuel + 1, _ :: rest, args => badNumbersOnce fuel rest args

/-- The arguments of numeric conversions that are no numbers, over all uses of a format. -/
def badNumbers (format : String) (args : List String) : List String :=
  badNumbersOnce (format.length + 1) format.toList args

/-- The first argument that a format has no use for, because it converts none. -/
def unusedArgument? (format : String) (args : List String) : Option String :=
  let (_, left, stop) := formatOnce (format.length + 1) format.toList args
  if !stop && left.length = args.length then args.head? else none

end SelectorSearch.Shell
