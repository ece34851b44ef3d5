import SelectorSearch.Shell.Arithmetic
import SelectorSearch.Shell.Pattern
import SelectorSearch.Shell.State

/-!
# Expansion of Words

How the pieces of a word become the fields that a command gets. What stands between quotes stays
together; what is not quoted and comes from a parameter or from a script is split at blanks. All
arguments at once, between quotes, become one field each. In the end a field that is a pattern
becomes the paths that it matches, if there are any.

## Main results

* `Fields.flatten_split`: splitting a text loses nothing but its blanks.
-/

namespace SelectorSearch.Shell

/-- Characters that all stand for themselves, or none of which has to. -/
def glyphs (literal : Bool) (text : List Char) : List Glyph :=
  text.map (⟨·, literal⟩)

/-- Fields in the making: those that are complete, last one first, and the current one, if it has
begun. -/
structure Fields where
  /-- The fields that are complete, last one first. -/
  complete : List (List Glyph) := []
  /-- The field that may go on. -/
  current : Option (List Glyph) := none
  deriving DecidableEq, Repr

namespace Fields

/-- More characters for the current field, which begins with them if there is none. -/
def add (f : Fields) (text : List Glyph) : Fields :=
  { f with current := some (f.current.getD [] ++ text) }

/-- More quoted text for the current field, which begins even if the text is empty. -/
def addText (f : Fields) (text : List Char) : Fields :=
  f.add (glyphs true text)

/-- The end of the current field, if there is one. -/
def cut (f : Fields) : Fields :=
  { complete := f.current.toList ++ f.complete }

/-- The fields after a text that is split at blanks. -/
def split (f : Fields) (text : List Char) : Fields :=
  text.foldl (fun f c => if isSpace c || c = '\n' then f.cut else f.add [⟨c, false⟩]) f

/-- Texts that become one field each, where the first and the last may have neighbours. -/
def addEach (f : Fields) (put : Fields → List Char → Fields) : List (List Char) → Fields
  | [] => f
  | [text] => put f text
  | text :: rest => addEach (put f text).cut put rest

/-- All fields, in their order. -/
def toGlyphs (f : Fields) : List (List Glyph) :=
  f.cut.complete.reverse

/-- All fields as texts, in their order. -/
def toList (f : Fields) : List String :=
  f.toGlyphs.map fun field => String.ofList (field.map Glyph.char)

/-- The text of all fields, with spaces between them. -/
def joined (f : Fields) : String :=
  String.intercalate " " f.toList

/-- The characters of all fields, one field after another, are those of the complete fields and of
the current one. -/
theorem flatten_toGlyphs (f : Fields) :
    f.toGlyphs.flatten = f.complete.reverse.flatten ++ f.current.getD [] := by
  rw [toGlyphs, cut, List.reverse_append, List.flatten_append]
  cases f.current <;> simp

theorem flatten_add (f : Fields) (text : List Glyph) :
    (f.add text).toGlyphs.flatten = f.toGlyphs.flatten ++ text := by
  rw [flatten_toGlyphs, flatten_toGlyphs, add, Option.getD_some, List.append_assoc]

theorem flatten_cut (f : Fields) : f.cut.toGlyphs.flatten = f.toGlyphs.flatten := rfl

/-- **Splitting loses nothing but the blanks**, which part the fields. -/
theorem flatten_split (f : Fields) (text : List Char) :
    (f.split text).toGlyphs.flatten =
      f.toGlyphs.flatten ++ glyphs false (text.filter fun c => !(isSpace c || c = '\n')) := by
  rw [split]
  induction text generalizing f with
  | nil => exact (List.append_nil _).symm
  | cons c rest ih =>
      rw [List.foldl_cons, ih, List.filter_cons]
      by_cases hblank : isSpace c || c = '\n'
      · simp [hblank, flatten_cut]
      · simp [hblank, flatten_add, glyphs]

end Fields

/-! ### Parameters -/

/-- The value of a parameter other than all arguments, if it is set. -/
def parameter? (s : State) (name : String) : Option (List Char) :=
  let value := match name with
    | "#" => some (toString s.args.length)
    | "?" => some (toString s.status)
    | "$" => some (toString ownNumber)
    | "!" => some (toString ((s.jobs.head?.map Job.number).getD ownNumber))
    | "0" => some s.name
    | "@" | "*" => if s.args.isEmpty then none else some (String.intercalate " " s.args)
    | "PPID" => some (toString parentNumber)
    | "PWD" => some s.files.currentPath.text
    | name =>
      match name.toNat? with
      | some n => s.args[n - 1]?
      | none => s.bindings.lookup name
  value.map String.toList

/-- The value of a parameter, or an empty one if it is not set. -/
def parameter (s : State) (name : String) : List Char :=
  (parameter? s name).getD []

/-- The fields after the value of a parameter, which is split unless it is `quoted`. -/
def addParameter (s : State) (f : Fields) (name : String) (quoted : Bool) : Fields :=
  let args := s.args.map String.toList
  match name, quoted with
  | "@", true => f.addEach Fields.addText args
  | "*", true => f.addText (joinArguments s.args)
  | "@", false | "*", false => f.addEach Fields.split args
  | name, true => f.addText (parameter s name)
  | name, false => f.split (parameter s name)

/-- The fields after a text, which is split unless it is `quoted`. -/
def Fields.put (f : Fields) (quoted : Bool) (text : List Char) : Fields :=
  if quoted then f.addText text else f.split text

/-- Whether a parameter has a value; with a `colon`, an empty value does not count. -/
def hasValue (s : State) (name : String) (colon : Bool) : Bool :=
  (parameter? s name).any fun value => !(colon && value.isEmpty)

/-- The value of a variable in a sum, which is zero if it is no number. -/
def numberOf (s : State) (name : String) : Int :=
  ((String.ofList (parameter s name)).toInt?).getD 0

/-! ### Paths -/

/-- The pieces of a pattern between its slashes. -/
def patternSegments (field : List Glyph) : List (List Glyph) :=
  (field.splitOnP fun g => g.char = '/')

/-- The names in a directory that a pattern matches, in the order of their characters. A name that
begins with a dot is matched only by a dot. -/
def matchingNames (t : FileTree) (folder : String) (pattern : List Glyph) : List String :=
  let entries := match t.node ⟨if folder.isEmpty then "." else folder⟩ with
    | .ok n => (n.entries?.getD []).map Prod.fst
    | .error _ => []
  let isHidden := fun name : String => name.toList.head? = some '.'
  let shown := entries.filter fun name =>
    matchesPattern pattern name.toList &&
      (!isHidden name || (pattern.head?.map Glyph.char) = some '.')
  shown.mergeSort fun a b => !(b < a)

/-- The paths that begin with a text and go on as some pieces of a pattern. -/
def expandSegments (t : FileTree) (start : String) : List (List Glyph) → List String
  | [] => [start]
  | segment :: rest =>
    let slash := if rest.isEmpty then "" else "/"
    if isPattern segment then
      (matchingNames t start segment).flatMap fun name =>
        expandSegments t (start ++ name ++ slash) rest
    else expandSegments t (start ++ String.ofList (segment.map Glyph.char) ++ slash) rest

/-- What a field becomes: the paths that it matches as a pattern, or its own text if there are
none. -/
def expandPaths (t : FileTree) (field : List Glyph) : List String :=
  let plain := String.ofList (field.map Glyph.char)
  if isPattern field then
    match (expandSegments t "" (patternSegments field)).filter fun p => t.contains ⟨p⟩ with
    | [] => [plain]
    | paths => paths
  else [plain]

/-! ### Assignments -/

/-- The name and the value of a word that assigns to a variable, if it does. -/
def assignment? : Word → Option (String × Word)
  | .text s false :: rest =>
    let name := s.takeWhile isNameChar
    match s.drop name.length with
    | '=' :: value =>
      if name.isEmpty || (name.head?.map Char.isDigit).getD true then none
      else some (String.ofList name, .text value false :: rest)
    | _ => none
  | _ => none

/-- The assignments at the front of a command, and its other words. -/
def splitAssignments : List Word → List (String × Word) × List Word
  | [] => ([], [])
  | w :: rest =>
    match assignment? w with
    | some a =>
      let (assignments, words) := splitAssignments rest
      (a :: assignments, words)
    | none => ([], w :: rest)

/-- Sets a variable of the shell to a `value`. -/
def setVariable (name : String) (value : String) : Action Unit :=
  modify fun s => { s with bindings := (name, value) :: s.bindings.filter (·.1 ≠ name) }

end SelectorSearch.Shell
