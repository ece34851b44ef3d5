import SelectorSearch.Toml.Scalar

/-!
# Reading TOML

A reader for configuration files: arrays and tables in braces, entries with dotted keys, headers
in single and double brackets, comments.

A key may be given a value once, and a table may be described once: a header may not name a table
that has a header already or was made by a dotted key, a dotted key may not go through a table
that has a header, and nothing may go through a table in braces or through any other value. A
table that a longer header implied may still get its own header; it then counts from there.

## Main results

* `parse?` is total: values are bounded by the length of the text and their depth by `maxDepth`.
-/

namespace SelectorSearch.Toml

/-! ### Keys -/

/-- One step of a dotted key: its name, and where it stands. -/
structure Key where
  name : String
  span : Span
  deriving Repr, Inhabited

/-- A character of a key without quotes. -/
def isKeyChar (c : Char) : Bool :=
  c.isAlphanum || c = '_' || c = '-'

/-- The name at the front of a text, in quotes or without, and the rest. -/
def scanName (s : List Char) : Option (String × List Char) :=
  match s.takeWhile isKeyChar with
  | [] => scanLineString s
  | key => some (String.ofList key, s.dropWhile isKeyChar)

/-- One step of a dotted key, and the rest. -/
def scanKeyStep (s : List Char) : Option (Key × List Char) :=
  (scanName s).map fun (name, rest) => (⟨name, ⟨s.length, rest.length⟩⟩, rest)

/-- The steps of a dotted key, of which there is at least one, and the rest. -/
def scanKey : (fuel : Nat) → List Char → Option (List Key × List Char)
  | 0, _ => none
  | fuel + 1, s => do
    let (key, rest) ← scanKeyStep (skipBlank s)
    match skipBlank rest with
    | '.' :: rest =>
      let (keys, rest) ← scanKey fuel rest
      return (key :: keys, rest)
    | rest => return ([key], rest)

/-! ### Extending tables -/

/-- What extends a table: a header, or a dotted key. -/
inductive Extension where
  | byHeader
  | byDottedKey
  deriving DecidableEq, Repr

/-- The origin of a table that is made on the way. -/
def Extension.made : Extension → Origin
  | .byHeader => .implied
  | .byDottedKey => .dotted

/-- Changes the table at the end of some keys, with its origin in view; tables that are missing are
made on the way. -/
def extend (how : Extension) (change : Origin → Entries → Option Entries) :
    List Key → Origin → Entries → Option Entries
  | [], origin, entries => change origin entries
  | key :: keys, _, entries =>
    match entries.lookup key.name with
    | none => do
      let below ← extend how change keys how.made []
      return entries ++ [(key.name, key.span, .table how.made below)]
    | some (span, .table origin below) =>
      if how = .byDottedKey ∧ origin = .header then none
      else do
        let below ← extend how change keys origin below
        return Entries.replace entries key.name (span, .table origin below)
    | some (span, .rows tables) => do
      let (place, last) := tables.getLast?.getD (span, [])
      let below ← extend how change keys .header last
      return Entries.replace entries key.name (span, .rows (tables.dropLast ++ [(place, below)]))
    | some _ => none

/-- Gives a key its value. A table that is reached by steps has to be one that dotted keys made. -/
def assign (keys : List Key) (v : Located) (origin : Origin) (entries : Entries) :
    Option Entries :=
  match keys.reverse with
  | [] => none
  | key :: steps =>
    let insert := fun (o : Origin) (below : Entries) =>
      if steps ≠ [] ∧ o ≠ .dotted then none
      else if (below.lookup key.name).isSome then none
      else some (below ++ [(key.name, v)])
    extend .byDottedKey insert steps.reverse origin entries

/-- The entries after a table gets its `header`, which no table gets twice. -/
def openTable (key : String) (header : Span) (_ : Origin) (entries : Entries) : Option Entries :=
  match entries.lookup key with
  | none => some (entries ++ [(key, header, .table .header [])])
  | some (_, .table .implied below) =>
    some (Entries.without entries key ++ [(key, header, .table .header below)])
  | some _ => none

/-- The entries with one more table of an array of tables. -/
def openRow (key : String) (header : Span) (_ : Origin) (entries : Entries) : Option Entries :=
  match entries.lookup key with
  | none => some (entries ++ [(key, header, .rows [(header, [])])])
  | some (span, .rows tables) =>
    some (Entries.replace entries key
      (⟨span.start, header.stop⟩, .rows (tables ++ [(header, [])])))
  | some _ => none

/-- A table with a header reaches to the end of the last entry below it. -/
def reach (stop : Nat) : Located → Located
  | (span, .rows tables) =>
    let tables := tables.dropLast ++ tables.getLast?.toList.map fun (place, entries) =>
      (⟨place.start, stop⟩, entries)
    (⟨span.start, stop⟩, .rows tables)
  | (span, v) => (⟨span.start, stop⟩, v)

/-! ### Values -/

/-- The text after a comment, if there is one, which ends before its line end. -/
def skipComment? : List Char → Option (List Char)
  | '#' :: rest =>
    let rest := rest.dropWhile isPlain
    match rest with
    | [] => some []
    | rest => if (lineEnd? rest).isSome then some rest else none
  | s => some s

/-- The text after blanks, comments and line ends. -/
def skipLines? : (fuel : Nat) → List Char → Option (List Char)
  | 0, _ => none
  | fuel + 1, s => do
    let s ← skipComment? (skipBlank s)
    match lineEnd? s with
    | some rest => skipLines? fuel rest
    | none => return s

/-- How deep arrays and tables in braces may be nested. -/
def maxDepth : Nat := 80

mutual

/-- The value at the front of a text, and the rest. -/
def scanValue : (fuel depth : Nat) → List Char → Option (Value × List Char)
  | 0, _, _ => none
  | fuel + 1, depth, s =>
    match s, depth with
    | '[' :: rest, depth + 1 => do
      let rest ← skipLines? (rest.length + 1) rest
      let (items, rest) ← scanItems fuel depth rest
      return (.array items, rest)
    | '{' :: rest, depth + 1 =>
      match skipBlank rest with
      | '}' :: rest => some (.inline [], rest)
      | rest => do
        let (entries, rest) ← scanEntries fuel depth [] rest
        return (.inline entries, rest)
    | c :: rest, _ =>
      if c = '"' ∨ c = '\'' then
        (scanString (c :: rest)).map fun (s, rest) => (.string s, rest)
      else scanScalar (c :: rest)
    | [], _ => none

/-- The rest of an array, which may have a comma at its end. -/
def scanItems : (fuel depth : Nat) → List Char → Option (List Located × List Char)
  | 0, _, _ => none
  | _ + 1, _, ']' :: rest => some ([], rest)
  | fuel + 1, depth, s => do
    let (v, rest) ← scanValue fuel depth s
    let item := (⟨s.length, rest.length⟩, v)
    let rest ← skipLines? (rest.length + 1) rest
    match rest with
    | ',' :: rest =>
      let rest ← skipLines? (rest.length + 1) rest
      let (items, rest) ← scanItems fuel depth rest
      return (item :: items, rest)
    | ']' :: rest => return ([item], rest)
    | _ => none

/-- The rest of a table in braces, on one line and without a comma at its end. -/
def scanEntries : (fuel depth : Nat) → Entries → List Char → Option (Entries × List Char)
  | 0, _, _, _ => none
  | fuel + 1, depth, entries, s => do
    let (keys, rest) ← scanKey (s.length + 1) s
    match rest with
    | '=' :: rest =>
      let start := skipBlank rest
      let (v, rest) ← scanValue fuel depth start
      let entries ← assign keys (⟨start.length, rest.length⟩, v) .header entries
      match skipBlank rest with
      | ',' :: rest => scanEntries fuel depth entries rest
      | '}' :: rest => return (entries, rest)
      | _ => none
    | _ => none

end

/-! ### Documents -/

/-- The document so far: its entries, and the table that entries go to. -/
structure Document where
  entries : Entries := []
  /-- The table that entries belong to. -/
  scope : List Key := []
  deriving Repr, Inhabited

/-- The document with one more entry in the current table, if that can take it. -/
def Document.add (d : Document) (keys : List Key) (v : Located) : Option Document := do
  let entries ← extend .byHeader (assign keys v) d.scope .header d.entries
  match d.scope.getLast? with
  | none => return { d with entries }
  | some table =>
    let stretch := fun (_ : Origin) (above : Entries) =>
      some (above.map fun (key, found) =>
        (key, if key = table.name then reach v.1.stop found else found))
    return { d with entries := ← extend .byHeader stretch d.scope.dropLast .header entries }

/-- The document with a header, which `start` makes of the table at the end of the keys. -/
def Document.open (d : Document) (start : String → Span → Origin → Entries → Option Entries)
    (keys : List Key) (header : Span) : Option Document := do
  let key ← keys.getLast?
  let entries ← extend .byHeader (start key.name header) keys.dropLast .header d.entries
  return { entries, scope := keys }

/-- A header or an entry, up to the end of its line. -/
def scanExpression (d : Document) (s : List Char) : Option (Document × List Char) :=
  match s with
  | '[' :: '[' :: rest => do
    let (keys, rest) ← scanKey (rest.length + 1) rest
    match rest with
    | ']' :: ']' :: rest => return (← d.open openRow keys ⟨s.length, rest.length⟩, rest)
    | _ => none
  | '[' :: rest => do
    let (keys, rest) ← scanKey (rest.length + 1) rest
    match rest with
    | ']' :: rest => return (← d.open openTable keys ⟨s.length, rest.length⟩, rest)
    | _ => none
  | s => do
    let (keys, rest) ← scanKey (s.length + 1) s
    match rest with
    | '=' :: rest =>
      let start := skipBlank rest
      let (v, rest) ← scanValue (2 * start.length + 2) maxDepth start
      return (← d.add keys (⟨start.length, rest.length⟩, v), rest)
    | _ => none

/-- The lines of a document, one after another. -/
def scanDocument : (fuel : Nat) → Document → List Char → Option Document
  | 0, _, _ => none
  | fuel + 1, d, s => do
    match ← skipLines? (s.length + 1) s with
    | [] => return d
    | c :: rest =>
      let (d, rest) ← scanExpression d (c :: rest)
      let rest ← skipComment? (skipBlank rest)
      if rest.isEmpty then return d
      let rest ← lineEnd? rest
      scanDocument fuel d rest

/-- The entries of a configuration file, in the order of the file. A mark of the byte order at its
front does not count. -/
def parse? (text : List Char) : Option Entries :=
  let text := match text with
    | '\uFEFF' :: rest => rest
    | s => s
  (scanDocument (text.length + 1) {} text).map Document.entries

end SelectorSearch.Toml
