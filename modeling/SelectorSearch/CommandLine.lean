import SelectorSearch.CommandLine.Word
import SelectorSearch.Config
import SelectorSearch.Search

/-!
# The Command Line

The command line is a command with options and paths. The words are read from left to right, and
the first one that asks for help or for the version, or that cannot be accepted, decides.

Two options belong to the program and may stand on either side of the command: a flag for more
messages, and the configuration file. The other options stand behind the command, between its
paths or around them. An option takes its value from its own word, behind the name and an equals
sign or directly behind the letter, or else from the next word, which must not look like an
option. Only two of the options may be repeated on one side of the command.
-/

namespace SelectorSearch.CommandLine

/-! ### Options -/

/-- The options that take a value, each of them with a name behind two dashes. -/
inductive Setting where
  | config
  | selector
  /-- The text that counts as selected. -/
  | selection
  | activeFile
  | folder
  | node
  | script
  | extension
  | ignore
  deriving DecidableEq, Repr

namespace Setting

/-- Every option that takes a value. -/
def all : List Setting :=
  [config, selector, selection, activeFile, folder, node, script, extension, ignore]

/-- The full name of an option, which follows two dashes. -/
def name : Setting → String
  | config => "config"
  | selector => "selector"
  | selection => "selection"
  | activeFile => "active-file"
  | folder => "folder"
  | node => "node"
  | script => "script"
  | extension => "extension"
  | ignore => "ignore"

/-- The letter that stands for the name of an option, which follows one dash. -/
def letter? : Setting → Option Char
  | selector => some 's'
  | _ => none

/-- Whether the option collects values, and may be given more than once for that. -/
def isRepeatable : Setting → Bool
  | folder | ignore => true
  | _ => false

/-- Whether the value of the option is a path, which cannot be empty. -/
def isPath : Setting → Bool
  | config | activeFile | folder | node | script => true
  | selector | selection | extension | ignore => false

end Setting

/-- The options without a value. -/
inductive Flag where
  | verbose
  | help
  | version
  deriving DecidableEq, Repr

namespace Flag

/-- Every option without a value. -/
def all : List Flag := [verbose, help, version]

/-- The full name of an option without a value, which follows two dashes. -/
def name : Flag → String
  | verbose => "verbose"
  | help => "help"
  | version => "version"

/-- The letter that stands for the name of an option without a value, which follows one dash. -/
def letter : Flag → Char
  | verbose => 'v'
  | help => 'h'
  | version => 'V'

end Flag

/-- The two sides of the command: what stands before its name, and what stands behind it. -/
inductive Side where
  | before
  | behind
  deriving DecidableEq, Repr

namespace Side

/-- Whether an option with a value may stand on a side. Before the command this is only `config`. -/
def hasSetting : Side → Setting → Bool
  | before, s => s = .config
  | behind, _ => true

/-- Whether an option without a value may stand on a side. Behind the command `version` may not. -/
def hasFlag : Side → Flag → Bool
  | before, _ => true
  | behind, f => f ≠ .version

end Side

/-! ### Reading words -/

/-- Why reading stops short: help or the version was asked for, or the words are refused. -/
inductive Stop where
  | help
  | version
  | refused
  deriving DecidableEq, Repr

/-- What one side of the command gives, in the order of its words. -/
structure Given where
  verbosity : Nat := 0
  settings : List (Setting × String) := []
  paths : List Path := []
  deriving DecidableEq, Repr

namespace Given

/-- The values that were given for an option, in their order. -/
def values (g : Given) (s : Setting) : List String :=
  g.settings.filterMap fun (t, value) => if t = s then some value else none

/-- The value of an option that takes one, if it was given. -/
def value? (g : Given) (s : Setting) : Option String :=
  (g.values s).head?

/-- The value of an option that takes a path, if it was given. -/
def path? (g : Given) (s : Setting) : Option Path :=
  (g.value? s).map .mk

/-- Adds a value of an option. A second one is refused unless the option collects them, and so is an
empty path. -/
def set (g : Given) (s : Setting) (value : String) : Except Stop Given :=
  if !s.isRepeatable && (g.value? s).isSome then .error .refused
  else if s.isPath && value.isEmpty then .error .refused
  else .ok { g with settings := g.settings ++ [(s, value)] }

/-- Adds a path to search, which is refused if it is empty. -/
def addPath (g : Given) (text : String) : Except Stop Given :=
  if text.isEmpty then .error .refused else .ok { g with paths := g.paths ++ [⟨text⟩] }

/-- Obeys an option without a value: two of them stop the reading, and one makes the log more
detailed. -/
def raise (g : Given) : Flag → Except Stop Given
  | .verbose => .ok { g with verbosity := g.verbosity + 1 }
  | .help => .error .help
  | .version => .error .version

/-- Reads a word with the full name of an option. An option that has no value yet is left over. -/
def readLong (g : Given) (side : Side) (name : String) (value : Option String) :
    Except Stop (Given × Option Setting) :=
  match Setting.all.find? (fun s => side.hasSetting s && s.name = name), value with
  | some s, some value => (g.set s value).map (·, none)
  | some s, none => .ok (g, some s)
  | none, some _ => .error .refused
  | none, none =>
    match Flag.all.find? (fun f => side.hasFlag f && f.name = name) with
    | some f => (g.raise f).map (·, none)
    | none => .error .refused

/-- Reads a word with the letters of options. What is behind the letter of an option with a value is
its value; an option that has no value yet is left over. -/
def readLetters (g : Given) (side : Side) : List Char → Except Stop (Given × Option Setting)
  | [] => .ok (g, none)
  | c :: rest =>
    match Setting.all.find? (fun s => side.hasSetting s && s.letter? = some c), rest with
    | some s, [] => .ok (g, some s)
    | some s, '=' :: value => (g.set s (String.ofList value)).map (·, none)
    | some s, value => (g.set s (String.ofList value)).map (·, none)
    | none, _ =>
      match Flag.all.find? (fun f => side.hasFlag f && f.letter = c) with
      | some f => (g.raise f).bind (readLetters · side rest)
      | none => .error .refused

/-- Takes a word as the value of an option that is left over, if the word does not look like an
option. -/
def setNext (g : Given) (s : Setting) (word : String) : Except Stop Given :=
  match Word.value? word with
  | some value => g.set s value
  | none => .error .refused

end Given

/-- Reads the words on one side of the command. Before the command the first operand ends the
reading, with the words from there on left over; behind it the operands are paths. -/
def read (side : Side) (g : Given) : List String → Except Stop (Given × List String)
  | [] => .ok (g, [])
  | word :: rest =>
    let continueWith : Given × Option Setting → Except Stop (Given × List String)
      | (g, none) => read side g rest
      | (g, some s) =>
        match rest with
        | [] => .error .refused
        | value :: rest => (g.setNext s value).bind (read side · rest)
    match Word.classify word, side with
    | .operand _, .before => .ok (g, word :: rest)
    | .operand text, .behind => (g.addPath text).bind (read side · rest)
    | .separator, .before => .error .refused
    | .separator, .behind => (rest.foldlM Given.addPath g).map (·, [])
    | .long name value, side => (g.readLong side name value).bind continueWith
    | .letters letters, side => (g.readLetters side letters).bind continueWith

/-! ### The whole command line -/

/-- What a command line says about a search: the command, what to search, and what takes precedence
over the configuration. -/
structure SearchLine where
  command : SearchCommand
  verbosity : Nat
  configFile : Option Path
  selector : Option String
  selection : Option String
  activeFile : Option Path
  folders : List Path
  overrides : Config.Overrides
  paths : List Path
  deriving DecidableEq, Repr

/-- What both sides of a command say about its search. The configuration file behind the command
takes precedence. -/
def SearchLine.ofGiven (command : SearchCommand) (before behind : Given) : SearchLine where
  command
  verbosity := before.verbosity + behind.verbosity
  configFile := behind.path? .config <|> before.path? .config
  selector := behind.value? .selector
  selection := behind.value? .selection
  activeFile := behind.path? .activeFile
  folders := (behind.values .folder).map .mk
  overrides :=
    { node := behind.path? .node
      script := behind.path? .script
      extension := behind.value? .extension
      ignore := behind.values .ignore }
  paths := behind.paths

/-- The words that name commands, each with its command. -/
def commandNames : List (String × SearchCommand) :=
  [("folders", .selectedFolders), ("paths", .selectedPaths)]

/-- The word that asks for help, alone or with the name of what help is wanted for. -/
def helpName : String := "help"

/-- Reads what stands behind the word that asks for help, which may name a command but no more than
one. -/
def readHelp : List String → Stop
  | [] => .help
  | [topic] =>
    if topic = helpName || (commandNames.lookup topic).isSome then .help else .refused
  | _ => .refused

/-- Reads a command line: the options before the command, its name, and then what stands behind
it. -/
def parse (words : List String) : Except Stop SearchLine :=
  (read .before {} words).bind fun (before, rest) =>
    match rest with
    | [] => .error .refused
    | name :: rest =>
      if name = helpName then .error (readHelp rest)
      else
        match commandNames.lookup name with
        | none => .error .refused
        | some command =>
          (read .behind {} rest).map fun (behind, _) => SearchLine.ofGiven command before behind

end SelectorSearch.CommandLine
