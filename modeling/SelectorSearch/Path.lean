import SelectorSearch.Text.Split
import SelectorSearch.Text.Blank

/-!
# Paths

Paths are texts and are kept exactly as they were given. Their meaning is a list of components:
repeated and trailing slashes do not count, nor does a component `.` except at the very front of a
relative path; a component `..` is kept and not resolved.

A path starts with another one when the components of the other are a prefix of its own, so
`/work/site-old` does not start with `/work/site`, and every relative path and every absolute one
starts with the empty path.

## Main results

* `startsWith_refl`, `startsWith_trans`: containment is reflexive and transitive.
* `startsWith_empty`: every path starts with the empty path.
-/

namespace SelectorSearch

/-- A path as it was given, which is kept as its text. -/
structure Path where
  text : String
  deriving DecidableEq, Repr, Inhabited

instance : Coe String Path := ⟨Path.mk⟩

namespace Path

/-- One component of a path: the root, a dot at the front, two dots, or an ordinary name. -/
inductive Component where
  /-- The slash at the front of an absolute path. -/
  | root
  /-- The dot at the front of a relative path. -/
  | here
  /-- Two dots. -/
  | up
  | name (n : List Char)
  deriving DecidableEq, Repr

/-- The pieces of a path between its slashes. -/
def segments (p : Path) : List (List Char) :=
  Text.split '/' p.text.toList

/-- Whether the path begins at the root. -/
def isAbsolute (p : Path) : Bool :=
  p.text.toList.head? = some '/'

/-- Whether the path is a relative one that begins with a dot component. -/
def hasLeadingDot (p : Path) : Bool :=
  p.segments.head? = some ['.']

/-- A piece that is no component: nothing at all, or a dot. -/
def isSilent (segment : List Char) : Bool :=
  segment = [] || segment = ['.']

/-- The component of a piece that is not silent. -/
def Component.ofSegment (segment : List Char) : Component :=
  if segment = ['.', '.'] then .up else .name segment

/-- What the path begins with that no piece between slashes stands for: the root, a dot, or
nothing. -/
def front (p : Path) : List Component :=
  if p.isAbsolute then [.root] else if p.hasLeadingDot then [.here] else []

/-- The components of a path, in their order. -/
def components (p : Path) : List Component :=
  p.front ++ (p.segments.filter fun s => !isSilent s).map Component.ofSegment

/-- Whether the components of `base` are a prefix of those of the path. -/
def startsWith (p base : Path) : Bool :=
  base.components.isPrefixOf p.components

/-- Every path starts with itself. -/
theorem startsWith_refl (p : Path) : p.startsWith p = true := by
  simp [startsWith]

/-- What starts with a path `q` that starts with a base `r` starts with the base. -/
theorem startsWith_trans {p q r : Path} (h₁ : p.startsWith q = true) (h₂ : q.startsWith r = true) :
    p.startsWith r = true := by
  simp only [startsWith, List.isPrefixOf_iff_prefix] at *
  exact h₂.trans h₁

/-- Every path starts with the empty path. -/
theorem startsWith_empty (p : Path) : p.startsWith ⟨""⟩ = true := by
  have h : components ⟨""⟩ = [] := by decide
  simp [startsWith, h]

/-! ### The containing folder -/

/-- The text of the front of a path. -/
def frontText (p : Path) : List Char :=
  if p.isAbsolute then ['/'] else if p.hasLeadingDot then ['.'] else []

/-- The pieces of a path after its front. -/
def body (p : Path) : List (List Char) :=
  Text.split '/' (p.text.toList.drop p.frontText.length)

/-- The path without its last component, and without the slashes and dots that then are at its end.
The root and the empty path have none. -/
def parent? (p : Path) : Option Path :=
  match Text.dropEndWhile isSilent p.body with
  | [] => if p.hasLeadingDot then some ⟨""⟩ else none
  | s :: segments =>
    let rest := Text.dropEndWhile isSilent (s :: segments).dropLast
    some ⟨String.ofList (p.frontText ++ Text.join '/' rest)⟩

/-- A relative path below a folder; an absolute one stays as it is. -/
def join (folder p : Path) : Path :=
  if p.isAbsolute then p
  else if folder.text.isEmpty ∨ folder.text.toList.getLast? = some '/' then
    ⟨folder.text ++ p.text⟩
  else ⟨folder.text ++ "/" ++ p.text⟩

end Path

end SelectorSearch
