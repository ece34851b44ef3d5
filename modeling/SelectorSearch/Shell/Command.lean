import SelectorSearch.Shell.Token

/-!
# Commands of Shell Scripts

The commands that a script consists of, and how they are read from tokens: simple commands with
assignments and redirections, lists joined by operators, pipelines, loops, choices, groups and
functions.

A script is read one line at a time, where a command that is not complete takes more lines, so a
fault stops the script only when it is reached. A fault is told by the token that should not be
where it is and, if only one would do, by the one expected.
-/

namespace SelectorSearch.Shell

/-- A redirection of a descriptor, before its target is expanded. -/
structure Redirection where
  descriptor : Nat
  kind : RedirectKind
  target : Word
  deriving DecidableEq, Repr

/-- A command, which may be made of other ones. -/
inductive Command where
  | simple (line : Nat) (words : List Word) (redirections : List Redirection)
  | sequence (commands : List Command)
  /-- The second reads what the first writes. -/
  | pipe (first second : Command)
  /-- The second runs if the first succeeds. -/
  | both (first second : Command)
  /-- The second runs if the first fails. -/
  | either (first second : Command)
  | negation (c : Command)
  | background (c : Command)
  /-- Runs its body as long as the condition succeeds, or as long as it fails. -/
  | loop (whileTrue : Bool) (condition body : Command)
  /-- Runs its body for each of some words, or for each argument. -/
  | each (name : String) (words : Option (List Word)) (body : Command)
  | choice (condition yes no : Command)
  /-- Runs the first branch that has a pattern which matches a word. -/
  | cases (subject : Word) (branches : List (List Word × Command))
  | group (body : Command) (redirections : List Redirection)
  /-- A group that runs in a shell of its own. -/
  | subshell (body : Command)
  /-- Gives a command a name. -/
  | function (name : String) (body : Command)
  deriving Repr, Inhabited

/-- A token that should not be where it is, and what was expected there. -/
structure SyntaxError where
  found : Lexeme
  /-- The only reserved word that would do. -/
  expected : Option String := none
  deriving DecidableEq, Repr

/-! ### Words with a meaning -/

/-- The text of a word that has neither quotes nor parameters. -/
def plain? : Word → Option String
  | [.text s false] => some (String.ofList s)
  | _ => none

/-- The words that have a meaning of their own where a command begins. -/
def reservedWords : List String :=
  ["while", "until", "do", "done", "for", "if", "then", "elif", "else", "fi", "case", "esac",
    "\x7b", "\x7d", "!"]

/-- The token at the front of some tokens, which end with the end of the script. -/
def front (ts : List Lexeme) : Lexeme :=
  ts.head?.getD ⟨.finish, 1⟩

/-- The word at the front of some tokens, if it is nothing but text. -/
def plainFront? (ts : List Lexeme) : Option String :=
  match (front ts).token with
  | .word pieces => plain? pieces
  | _ => none

/-- The reserved word at the front of some tokens, if there is one. -/
def keyword? (ts : List Lexeme) : Option String :=
  (plainFront? ts).filter reservedWords.contains

/-- The operator at the front of some tokens, if there is one. -/
def operator? (ts : List Lexeme) : Option String :=
  match (front ts).token with
  | .operator text => some text
  | _ => none

/-- Whether a text can be the name of a variable. -/
def isVariableName (text : String) : Bool :=
  text.toList.all isNameChar && !(text.toList.head?.map Char.isDigit).getD true

namespace SyntaxError

/-- How a token is told in the wording of a fault. -/
def tokenName : Token → String
  | .finish => "end of file"
  | .operator "\n" => "newline"
  | .operator text => "\"" ++ text ++ "\""
  | .redirect .. => "redirection"
  | .word pieces =>
    match (plain? pieces).filter reservedWords.contains with
    | some text => "\"" ++ text ++ "\""
    | none => "word"
  | .broken reason => reason

/-- The wording of a fault, with the token at fault and what was expected. -/
def message (e : SyntaxError) : String :=
  match e.found.token, e.expected with
  | .broken reason, _ => reason
  | token, none => tokenName token ++ " unexpected"
  | token, some text => tokenName token ++ " unexpected (expecting \"" ++ text ++ "\")"

end SyntaxError

/-- Something that was read, and the tokens after it. -/
abbrev Read (α : Type) := α × List Lexeme

/-- The fault of the token at the front, where something else may have been `expected`. -/
def unexpected {α : Type} (ts : List Lexeme) (expected : Option String := none) :
    Except SyntaxError α :=
  .error ⟨front ts, expected⟩

/-- The tokens after the line ends at their front. -/
def skipLineEnds (ts : List Lexeme) : List Lexeme :=
  ts.dropWhile fun t => t.token = .operator "\n"

/-- The tokens after a reserved word, which must stand at their front. -/
def expect (text : String) (ts : List Lexeme) : Except SyntaxError (List Lexeme) :=
  if keyword? ts = some text then .ok ts.tail else unexpected ts (some text)

/-- The tokens after an operator, which must stand at their front. -/
def expectOperator (text : String) (ts : List Lexeme) : Except SyntaxError (List Lexeme) :=
  if operator? ts = some text then .ok ts.tail else unexpected ts (some text)

/-- The redirections at the front of some tokens, each with its target behind it. -/
def scanRedirections : List Lexeme → Except SyntaxError (Read (List Redirection))
  | ⟨.redirect descriptor kind, _⟩ :: ⟨.word target, _⟩ :: rest =>
    (scanRedirections rest).map fun (more, rest) => (⟨descriptor, kind, target⟩ :: more, rest)
  | ⟨.redirect .., _⟩ :: rest => unexpected rest
  | ts => .ok ([], ts)

/-- The words and redirections of a simple command, up to what ends it. -/
def scanSimple : List Lexeme → Except SyntaxError (Read (List Word × List Redirection))
  | ⟨.word pieces, _⟩ :: rest =>
    (scanSimple rest).map fun ((words, redirections), rest) =>
      ((pieces :: words, redirections), rest)
  | ⟨.redirect descriptor kind, _⟩ :: ⟨.word target, _⟩ :: rest =>
    (scanSimple rest).map fun ((words, redirections), rest) =>
      ((words, ⟨descriptor, kind, target⟩ :: redirections), rest)
  | ⟨.redirect .., _⟩ :: rest => unexpected rest
  | ts => .ok (([], []), ts)

/-- The words of a list that ends with its line. -/
def scanWords : List Lexeme → List Word × List Lexeme
  | ⟨.word pieces, _⟩ :: rest =>
    let (words, rest) := scanWords rest
    (pieces :: words, rest)
  | ts => ([], ts)

/-- The tokens after a separator of commands, if there is one, and after line ends. -/
def skipSeparator (ts : List Lexeme) : List Lexeme :=
  match operator? ts with
  | some ";" => skipLineEnds ts.tail
  | _ => skipLineEnds ts

/-- Whether the tokens begin with what ends a list of commands. -/
def endsList (ts : List Lexeme) : Bool :=
  (front ts).token = .finish || [")", ";;"].any (operator? ts = some ·) ||
    (keyword? ts).any fun k =>
      ["do", "done", "then", "elif", "else", "fi", "esac", "\x7d"].contains k

/-- The patterns of a branch up to the parenthesis that ends them. -/
def scanPatterns : List Lexeme → Except SyntaxError (Read (List Word))
  | ⟨.word pieces, _⟩ :: ⟨.operator "|", _⟩ :: rest =>
    (scanPatterns rest).map fun (more, rest) => (pieces :: more, rest)
  | ⟨.word pieces, _⟩ :: ⟨.operator ")", _⟩ :: rest => .ok ([pieces], rest)
  | ⟨.word _, _⟩ :: rest => unexpected rest (some ")")
  | ts => unexpected ts (some ")")

/-- A compound command with the redirections after it. -/
def withRedirections (c : Command) (ts : List Lexeme) : Except SyntaxError (Read Command) :=
  (scanRedirections ts).map fun (redirections, ts) =>
    (if redirections.isEmpty then c else .group c redirections, ts)

/-! ### Commands -/

mutual

/-- A list of commands, which is not empty unless the script ends there. -/
def scanList : (fuel : Nat) → List Lexeme → Except SyntaxError (Read (List Command))
  | 0, ts => unexpected ts
  | fuel + 1, ts => do
    let ts := skipLineEnds ts
    if (front ts).token = .finish then return ([], ts)
    let (c, ts) ← scanJoined fuel ts
    scanRest fuel c ts

/-- The list that begins with a command, of which the tokens give the rest. -/
def scanRest : (fuel : Nat) → Command → List Lexeme → Except SyntaxError (Read (List Command))
  | 0, _, ts => unexpected ts
  | fuel + 1, c, ts =>
    match operator? ts with
    | some "&" => do
      let (more, ts) ← scanMoreList fuel ts.tail
      return (.background c :: more, ts)
    | some ";" | some "\n" => do
      let (more, ts) ← scanMoreList fuel ts.tail
      return (c :: more, ts)
    | _ => .ok ([c], ts)

/-- A list of commands that may be empty. -/
def scanMoreList : (fuel : Nat) → List Lexeme → Except SyntaxError (Read (List Command))
  | 0, ts => unexpected ts
  | fuel + 1, ts =>
    let ts := skipLineEnds ts
    if endsList ts then .ok ([], ts) else scanList fuel ts

/-- Commands joined by conditions, which read from left to right. -/
def scanJoined : (fuel : Nat) → List Lexeme → Except SyntaxError (Read Command)
  | 0, ts => unexpected ts
  | fuel + 1, ts => do
    let (c, ts) ← scanPipeline fuel ts
    scanConditions fuel c ts

/-- The conditions after a command, and the commands that they join to it. -/
def scanConditions : (fuel : Nat) → Command → List Lexeme → Except SyntaxError (Read Command)
  | 0, _, ts => unexpected ts
  | fuel + 1, c, ts =>
    match operator? ts with
    | some "&&" => do
      let (d, ts) ← scanPipeline fuel (skipLineEnds ts.tail)
      scanConditions fuel (.both c d) ts
    | some "||" => do
      let (d, ts) ← scanPipeline fuel (skipLineEnds ts.tail)
      scanConditions fuel (.either c d) ts
    | _ => .ok (c, ts)

/-- A pipeline, which may be negated. -/
def scanPipeline : (fuel : Nat) → List Lexeme → Except SyntaxError (Read Command)
  | 0, ts => unexpected ts
  | fuel + 1, ts =>
    if keyword? ts = some "!" then
      (scanPipeline fuel ts.tail).map fun (c, ts) => (.negation c, ts)
    else do
      let (c, ts) ← scanCommand fuel ts
      scanPipes fuel c ts

/-- The commands after a command that read what the one before them writes. -/
def scanPipes : (fuel : Nat) → Command → List Lexeme → Except SyntaxError (Read Command)
  | 0, _, ts => unexpected ts
  | fuel + 1, c, ts =>
    if operator? ts = some "|" then do
      let (d, ts) ← scanCommand fuel (skipLineEnds ts.tail)
      scanPipes fuel (.pipe c d) ts
    else .ok (c, ts)

/-- The body of a loop, between `do` and `done`. -/
def scanBody : (fuel : Nat) → List Lexeme → Except SyntaxError (Read Command)
  | 0, ts => unexpected ts
  | fuel + 1, ts => do
    let (body, ts) ← scanList fuel (← expect "do" (skipSeparator ts))
    return (.sequence body, ← expect "done" ts)

/-- A choice after its first word, with all its branches. -/
def scanChoice : (fuel : Nat) → List Lexeme → Except SyntaxError (Read Command)
  | 0, ts => unexpected ts
  | fuel + 1, ts => do
    let (condition, ts) ← scanList fuel ts
    let (yes, ts) ← scanList fuel (← expect "then" ts)
    match keyword? ts with
    | some "elif" =>
      let (no, ts) ← scanChoice fuel ts.tail
      return (.choice (.sequence condition) (.sequence yes) no, ts)
    | some "else" =>
      let (no, ts) ← scanList fuel ts.tail
      return (.choice (.sequence condition) (.sequence yes) (.sequence no), ← expect "fi" ts)
    | _ => return (.choice (.sequence condition) (.sequence yes) (.sequence []), ← expect "fi" ts)

/-- The branches of a case distinction, each with its patterns. -/
def scanBranches : (fuel : Nat) → List Lexeme →
    Except SyntaxError (Read (List (List Word × Command)))
  | 0, ts => unexpected ts
  | fuel + 1, ts => do
    let ts := skipLineEnds ts
    if keyword? ts = some "esac" then return ([], ts.tail)
    let (patterns, ts) ← scanPatterns (if operator? ts = some "(" then ts.tail else ts)
    let (body, ts) ← scanMoreList fuel ts
    if operator? ts = some ";;" then
      let (more, ts) ← scanBranches fuel ts.tail
      return ((patterns, .sequence body) :: more, ts)
    else return ([(patterns, .sequence body)], ← expect "esac" ts)

/-- A loop over words after its first word. -/
def scanEach : (fuel : Nat) → List Lexeme → Except SyntaxError (Read Command)
  | 0, ts => unexpected ts
  | fuel + 1, ts =>
    match (plainFront? ts).filter isVariableName with
    | none => .error ⟨⟨.broken "Bad for loop variable", (front ts).line⟩, none⟩
    | some name => do
      let ts := skipLineEnds ts.tail
      if plainFront? ts = some "in" then
        let (words, ts) := scanWords ts.tail
        if operator? ts ∉ [some ";", some "\n"] then unexpected ts
        let (body, ts) ← scanBody fuel ts
        return (.each name (some words) body, ts)
      else
        let (body, ts) ← scanBody fuel ts
        return (.each name none body, ts)

/-- One command, which its first token tells from the others. -/
def scanCommand : (fuel : Nat) → List Lexeme → Except SyntaxError (Read Command)
  | 0, ts => unexpected ts
  | fuel + 1, ts =>
    match keyword? ts, operator? ts with
    | some "while", _ => do
      let (condition, ts) ← scanList fuel ts.tail
      let (body, ts) ← scanBody fuel ts
      withRedirections (.loop true (.sequence condition) body) ts
    | some "until", _ => do
      let (condition, ts) ← scanList fuel ts.tail
      let (body, ts) ← scanBody fuel ts
      withRedirections (.loop false (.sequence condition) body) ts
    | some "if", _ => do
      let (c, ts) ← scanChoice fuel ts.tail
      withRedirections c ts
    | some "for", _ => do
      let (c, ts) ← scanEach fuel ts.tail
      withRedirections c ts
    | some "case", _ =>
      match ts.tail with
      | ⟨.word subject, _⟩ :: ts => do
        let ts := skipLineEnds ts
        if plainFront? ts ≠ some "in" then unexpected ts (some "in")
        let (branches, ts) ← scanBranches fuel ts.tail
        withRedirections (.cases subject branches) ts
      | ts => unexpected ts
    | some "\x7b", _ => do
      let (body, ts) ← scanList fuel ts.tail
      withRedirections (.sequence body) (← expect "\x7d" ts)
    | none, some "(" => do
      let (body, ts) ← scanList fuel ts.tail
      withRedirections (.subshell (.sequence body)) (← expectOperator ")" ts)
    | none, _ =>
      match ts with
      | ⟨.word name, _⟩ :: ⟨.operator "(", _⟩ :: ts => do
        let (body, ts) ← scanCommand fuel (skipLineEnds (← expectOperator ")" ts))
        match plain? name with
        | some name => return (.function name body, ts)
        | none => unexpected ts
      | ts => do
        let ((words, redirections), rest) ← scanSimple ts
        if words.isEmpty && redirections.isEmpty then unexpected ts
        return (.simple (front ts).line words redirections, rest)
    | some _, _ => unexpected ts

end

/-- The commands of a line, the last of which may run in the background. -/
def scanLine : (fuel : Nat) → List Lexeme → Except SyntaxError (Read (List Command))
  | 0, ts => unexpected ts
  | fuel + 1, ts => do
    let (c, ts) ← scanJoined (16 * ts.length + 16) ts
    let (c, ts, isLast) : Command × List Lexeme × Bool ← match operator? ts with
      | some "&" => pure (.background c, ts.tail, false)
      | some ";" => pure (c, ts.tail, false)
      | some "\n" => pure (c, ts.tail, true)
      | _ => if (front ts).token = .finish then pure (c, ts, true) else unexpected ts
    if isLast || operator? ts = some "\n" || (front ts).token = .finish then return ([c], ts)
    else
      let (more, ts) ← scanLine fuel ts
      return (c :: more, ts)

/-- The commands of the first line of a script that has any, and the tokens after them. -/
def nextLine? (ts : List Lexeme) : Option (Except SyntaxError (Read (List Command))) :=
  let ts := skipLineEnds ts
  if (front ts).token = .finish then none else some (scanLine ts.length ts)

end SelectorSearch.Shell
