/-!
# Tokens of Shell Scripts

A script is a sequence of words, redirections and operators. Words consist of pieces: text, the
value of a parameter or of a sum, or the output of a script within; each is quoted or not. Text
between single quotes is taken as it is; between double quotes a dollar sign and a backquote keep
their meaning. A comment reaches from a number sign at the start of a word to the end of its line.
A redirection may announce a document, which stands in the lines after its own, up to one that
holds a certain word and nothing else.

What cannot be read ends the script, so that all before it is there.

## Main results

* `scanTokens` is total: every token takes at least one character.
-/

namespace SelectorSearch.Shell

/-- What is made of the value of a parameter. -/
inductive Use where
  | value
  | length
  /-- Another text if the parameter is not set, or, with a colon, also if it is empty. It is
  assigned to the parameter, or not. -/
  | orElse (colon assigns : Bool)
  /-- The value, which must be there or else is complained about. -/
  | required (colon : Bool)
  /-- Another text if the parameter is set and, with a colon, not empty. -/
  | provided (colon : Bool)
  /-- The value without what a pattern matches at its front or its end. -/
  | trim (front longest : Bool)
  deriving DecidableEq, Repr

/-- A piece of a word: text, a parameter, the output of a script, or a sum. -/
inductive Piece where
  | text (s : List Char) (quoted : Bool)
  /-- The value of a parameter, and the text that its use needs. -/
  | parameter (name : String) (use : Use) (operand : List Char) (quoted : Bool)
  /-- The output of a script. -/
  | output (script : List Char) (quoted : Bool)
  /-- The value of a sum. -/
  | sum (text : List Char) (quoted : Bool)
  deriving DecidableEq, Repr

/-- A word before it is expanded, as its pieces. -/
abbrev Word := List Piece

/-- What a redirection does with the word that follows it. -/
inductive RedirectKind where
  | read
  | write
  | append
  /-- Joins two descriptors, or closes one. -/
  | join
  /-- Reads the word itself. -/
  | document
  deriving DecidableEq, Repr

/-- A token: a word, an operator, a redirection, the end of the script, or something that has no
end. -/
inductive Token where
  | word (pieces : Word)
  | redirect (descriptor : Nat) (kind : RedirectKind)
  /-- An operator; a line end is one. -/
  | operator (text : String)
  /-- The end of the script. -/
  | finish
  /-- Something that cannot be read, and why. -/
  | broken (reason : String)
  deriving DecidableEq, Repr

/-- A token and the number of its line. -/
structure Lexeme where
  token : Token
  line : Nat
  deriving DecidableEq, Repr

/-! ### Characters -/

/-- A space or a tab. -/
def isSpace (c : Char) : Bool :=
  c = ' ' || c = '\t'

/-- A character that ends a word unless it is quoted. -/
def endsWord (c : Char) : Bool :=
  isSpace c || ['\n', ';', '&', '|', '<', '>', '(', ')'].contains c

/-- A character of the name of a variable. -/
def isNameChar (c : Char) : Bool :=
  c.isAlphanum || c = '_'

/-- A parameter that is one special character. -/
def isSpecial (c : Char) : Bool :=
  ['@', '*', '#', '?', '$', '!', '-'].contains c

/-- The backquote, which stands around scripts within words. -/
def backquote : Char := '\x60'

/-! ### Words -/

/-- The characters up to the one that closes what another one opened; what is quoted does not
count. -/
def scanNested (opening closing : Char) (quote : Option Char) (depth : Nat) (read : List Char) :
    List Char → Option (List Char × List Char)
  | [] => none
  | c :: rest =>
    if quote.isSome then
      scanNested opening closing (if quote = some c then none else quote) depth (c :: read) rest
    else if c = '\'' ∨ c = '"' then
      scanNested opening closing (some c) depth (c :: read) rest
    else if c = opening then scanNested opening closing none (depth + 1) (c :: read) rest
    else if c = closing then
      match depth with
      | 0 => some (read.reverse, rest)
      | depth + 1 => scanNested opening closing none depth (c :: read) rest
    else scanNested opening closing none depth (c :: read) rest

/-- The characters up to the next backquote, without the backslashes that keep one of them. -/
def scanBackquoted (read : List Char) : List Char → Option (List Char × List Char)
  | [] => none
  | '\\' :: c :: rest =>
    if [backquote, '\\', '$'].contains c then scanBackquoted (c :: read) rest
    else scanBackquoted (c :: '\\' :: read) rest
  | c :: rest =>
    if c = backquote then some (read.reverse, rest) else scanBackquoted (c :: read) rest

/-- The use of a parameter after its name, and the text that the use needs. -/
def scanUse : List Char → Option (Use × List Char)
  | [] => some (.value, [])
  | ':' :: '-' :: operand => some (.orElse true false, operand)
  | '-' :: operand => some (.orElse false false, operand)
  | ':' :: '=' :: operand => some (.orElse true true, operand)
  | '=' :: operand => some (.orElse false true, operand)
  | ':' :: '+' :: operand => some (.provided true, operand)
  | '+' :: operand => some (.provided false, operand)
  | ':' :: '?' :: operand => some (.required true, operand)
  | '?' :: operand => some (.required false, operand)
  | '#' :: '#' :: operand => some (.trim true true, operand)
  | '#' :: operand => some (.trim true false, operand)
  | '%' :: '%' :: operand => some (.trim false true, operand)
  | '%' :: operand => some (.trim false false, operand)
  | _ => none

/-- The name of a parameter at the front of what is between braces. -/
def scanName (s : List Char) : List Char :=
  match s.takeWhile isNameChar, s with
  | [], c :: _ => if isSpecial c then [c] else []
  | name, _ => name

/-- The parameter between braces, with its use. -/
def scanBraced (quoted : Bool) : List Char → Option Piece
  | '#' :: c :: rest =>
    let name := scanName (c :: rest)
    if name.length = rest.length + 1 then
      some (.parameter (String.ofList name) .length [] quoted)
    else none
  | s => do
    let name := scanName s
    if name.isEmpty then none
    else
      let (use, operand) ← scanUse (s.drop name.length)
      return .parameter (String.ofList name) use operand quoted

/-- What is between the parentheses after a dollar sign: a sum if it has parentheses of its own,
else a script. -/
def parenthesized (quoted : Bool) (s : List Char) : Piece :=
  if s.head? = some '(' ∧ s.getLast? = some ')' ∧ 2 ≤ s.length then
    .sum (s.drop 1).dropLast quoted
  else .output s quoted

/-- What follows a dollar sign, and the rest. -/
def scanDollar (quoted : Bool) : List Char → Option (Piece × List Char)
  | '(' :: rest =>
    (scanNested '(' ')' none 0 [] rest).map fun (s, rest) => (parenthesized quoted s, rest)
  | '{' :: rest => do
    let (s, rest) ← scanNested '{' '}' none 0 [] rest
    return (← scanBraced quoted s, rest)
  | c :: rest =>
    if isSpecial c || c.isDigit then
      some (.parameter (String.singleton c) .value [] quoted, rest)
    else if isNameChar c then
      let name := (c :: rest).takeWhile isNameChar
      some (.parameter (String.ofList name) .value [] quoted, (c :: rest).drop name.length)
    else some (.text ['$'] quoted, c :: rest)
  | [] => some (.text ['$'] quoted, [])

/-- The pieces between double quotes, after those read already. Without a closing quote the whole
text is between them. -/
def scanQuoted (closing : Option Char) : (fuel : Nat) → Word → List Char →
    Option (Word × List Char)
  | 0, _, _ => none
  | _ + 1, read, [] => if closing.isNone then some (read.reverse, []) else none
  | fuel + 1, read, c :: rest =>
    if closing = some c then some (read.reverse, rest)
    else if c = '$' then do
      let (piece, rest) ← scanDollar true rest
      scanQuoted closing fuel (piece :: read) rest
    else if c = backquote then do
      let (script, rest) ← scanBackquoted [] rest
      scanQuoted closing fuel (.output script true :: read) rest
    else if c = '\\' then
      match rest with
      | '\n' :: rest => scanQuoted closing fuel read rest
      | d :: rest =>
        let kept := ['$', '\\', backquote].contains d || closing = some d
        scanQuoted closing fuel (.text (if kept then [d] else ['\\', d]) true :: read) rest
      | [] => scanQuoted closing fuel (.text ['\\'] true :: read) []
    else
      let isText := fun c => c ∉ ['$', '\\', backquote] && closing ≠ some c
      let text := (c :: rest).takeWhile isText
      scanQuoted closing fuel (.text text true :: read) ((c :: rest).drop text.length)

/-- The pieces of a text in which only the dollar sign, the backquote and the backslash have a
meaning. -/
def piecesOfText (s : List Char) : Word :=
  match scanQuoted none (s.length + 1) [] s with
  | some (pieces, _) => pieces
  | none => [.text s true]

/-- The pieces of a word, after those read already, and the rest. -/
def scanWord : (fuel : Nat) → Word → List Char → Option (Word × List Char)
  | 0, _, _ => none
  | _ + 1, read, [] => some (read.reverse, [])
  | fuel + 1, read, c :: rest =>
    if endsWord c then some (read.reverse, c :: rest)
    else if c = '\'' then
      match rest.dropWhile (· ≠ '\'') with
      | _ :: after => scanWord fuel (.text (rest.takeWhile (· ≠ '\'')) true :: read) after
      | [] => none
    else if c = '"' then do
      let (pieces, rest) ← scanQuoted (some '"') fuel [] rest
      let isAll := pieces = [.parameter "@" .value [] true]
      let start := if isAll then read else .text [] true :: read
      scanWord fuel (pieces.reverse ++ start) rest
    else if c = '$' then do
      let (piece, rest) ← scanDollar false rest
      scanWord fuel (piece :: read) rest
    else if c = backquote then do
      let (script, rest) ← scanBackquoted [] rest
      scanWord fuel (.output script false :: read) rest
    else if c = '\\' then
      match rest with
      | '\n' :: rest => scanWord fuel read rest
      | d :: rest => scanWord fuel (.text [d] true :: read) rest
      | [] => scanWord fuel (.text ['\\'] true :: read) []
    else
      let isText := fun c => !endsWord c && c ∉ ['\'', '"', '$', '\\', backquote]
      let text := (c :: rest).takeWhile isText
      scanWord fuel (.text text false :: read) ((c :: rest).drop text.length)

/-- The pieces of the text that the use of a parameter needs. -/
def operandPieces (s : List Char) : Word :=
  match scanWord (s.length + 1) [] s with
  | some (pieces, []) => pieces
  | _ => piecesOfText s

/-! ### Operators -/

/-- A redirection without its descriptor: which one it means by itself, and what it does. -/
def scanRedirect : List Char → Option (Nat × RedirectKind × List Char)
  | '>' :: '>' :: rest => some (1, .append, rest)
  | '>' :: '&' :: rest => some (1, .join, rest)
  | '>' :: '|' :: rest => some (1, .write, rest)
  | '>' :: rest => some (1, .write, rest)
  | '<' :: '&' :: rest => some (0, .join, rest)
  | '<' :: '<' :: rest => some (0, .document, rest)
  | '<' :: rest => some (0, .read, rest)
  | _ => none

/-- The operator at the front of a text, and the rest. -/
def scanOperator : List Char → Option (String × List Char)
  | '\n' :: rest => some ("\n", rest)
  | '&' :: '&' :: rest => some ("&&", rest)
  | '|' :: '|' :: rest => some ("||", rest)
  | ';' :: ';' :: rest => some (";;", rest)
  | c :: rest =>
    if ['&', ';', '|', '(', ')'].contains c then some (String.singleton c, rest) else none
  | [] => none

/-- The token at the front of a text that does not start with a space, and the rest. -/
def scanToken (s : List Char) : Option (Token × List Char) :=
  let digits := s.takeWhile Char.isDigit
  match scanRedirect (s.drop digits.length) with
  | some (usual, kind, rest) =>
    let descriptor := (String.ofList digits).toNat?.getD usual
    some (.redirect descriptor kind, rest)
  | none =>
    match scanOperator s with
    | some (text, rest) => some (.operator text, rest)
    | none => (scanWord (s.length + 1) [] s).map fun (pieces, rest) => (.word pieces, rest)

/-! ### Documents -/

/-- The text of a piece that is text, and nothing for any other piece. -/
def Piece.plainText : Piece → List Char
  | text s _ => s
  | _ => []

/-- Whether a piece of a word is quoted. -/
def Piece.isQuoted : Piece → Bool
  | text _ quoted | parameter _ _ _ quoted | output _ quoted | sum _ quoted => quoted

/-- The lines up to one with a certain text, and what follows it. Tabs at the front of lines are
dropped, or not. -/
def scanDocument (dropTabs : Bool) (last : List Char) (read : List Char) :
    (fuel : Nat) → List Char → List Char × List Char
  | 0, s => (read, s)
  | _ + 1, [] => (read, [])
  | fuel + 1, s =>
    let line := s.takeWhile (· ≠ '\n')
    let rest := (s.drop line.length).drop 1
    let line := if dropTabs then line.dropWhile (· = '\t') else line
    if line = last then (read, rest)
    else scanDocument dropTabs last (read ++ line ++ ['\n']) fuel rest

/-- The document that is announced at the front of a text, as a word, and the text without it. -/
def takeDocument (s : List Char) : Option (Word × List Char) := do
  let dropTabs := s.head? = some '-'
  let s := (if dropTabs then s.drop 1 else s).dropWhile isSpace
  let (pieces, rest) ← scanWord (s.length + 1) [] s
  let line := rest.takeWhile (· ≠ '\n')
  let below := (rest.drop line.length).drop 1
  let last := pieces.flatMap Piece.plainText
  let (text, after) := scanDocument dropTabs last [] (below.length + 1) below
  let word := if pieces.any Piece.isQuoted then [.text text true] else piecesOfText text
  return (word, line ++ '\n' :: after)

/-! ### Scripts -/

/-- The number of line ends in a text that are not in what is left of it. -/
def linesTaken (s rest : List Char) : Nat :=
  s.count '\n' - rest.count '\n'

/-- What has no end at the front of a text, as the fault says it. -/
def brokenReason (s : List Char) : String :=
  if s.head? = some backquote then "EOF in backquote substitution"
  else "Unterminated quoted string"

/-- The tokens of a text, where the first one is on this `line`. -/
def scanTokens : (fuel line : Nat) → List Char → List Lexeme
  | 0, line, _ | _, line, [] => [⟨.finish, line⟩]
  | fuel + 1, line, c :: rest =>
    if isSpace c then scanTokens fuel line rest
    else if c = '#' then scanTokens fuel line (rest.dropWhile (· ≠ '\n'))
    else if c = '\\' ∧ rest.head? = some '\n' then scanTokens fuel (line + 1) rest.tail
    else match scanToken (c :: rest) with
      | none => [⟨.broken (brokenReason (c :: rest)), line + rest.count '\n'⟩]
      | some (.redirect descriptor .document, after) =>
        match takeDocument after with
        | none => [⟨.broken (brokenReason []), line⟩]
        | some (word, left) =>
          ⟨.redirect descriptor .document, line⟩ :: ⟨.word word, line⟩
            :: scanTokens fuel (line + linesTaken after left) left
      | some (token, after) =>
        ⟨token, line⟩ :: scanTokens fuel (line + linesTaken (c :: rest) after) after

/-- The tokens of a script, which end with the end of the script. -/
def tokens (script : List Char) : List Lexeme :=
  scanTokens (script.length + 1) 1 script

end SelectorSearch.Shell
