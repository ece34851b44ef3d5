import SelectorSearch.Path

/-!
# File Trees

The files that a search sees: a tree of directories with files at its leaves. Paths are resolved
against a current directory the way the operating system does it, one piece after another. Every
piece needs a directory to look in, so a slash or a dot after a file name is an error; two dots go
up, from the root to the root itself; the empty path names nothing.

A place in the tree is the list of names that leads to it from the root.

## Main results

* `Node.descend?_put`, `Node.descend?_put_of_disjoint`: what is put into a tree is found at its
  place, and the rest of the tree is as before.
* `FileTree.isSome_of_locate`: every place that a path names is there.
-/

namespace SelectorSearch

/-- What the operating system answers when it refuses something. -/
inductive OsError where
  | notFound
  | permissionDenied
  | notADirectory
  | isADirectory
  | nameTooLong
  /-- An argument of a program is too long. -/
  | listTooLong
  /-- A text that is handed to the system holds a NUL character. -/
  | nulByte
  deriving DecidableEq, Repr

/-- What went wrong, in the words of the system. -/
def OsError.reason : OsError → String
  | .notFound => "No such file or directory"
  | .permissionDenied => "Permission denied"
  | .notADirectory => "Not a directory"
  | .isADirectory => "Is a directory"
  | .nameTooLong => "File name too long"
  | .listTooLong => "Argument list too long"
  | .nulByte => "nul byte found in provided data"

/-- The number that the system has for an error. A NUL character is refused before the system sees
it. -/
def OsError.number? : OsError → Option Nat
  | .notFound => some 2
  | .listTooLong => some 7
  | .permissionDenied => some 13
  | .notADirectory => some 20
  | .isADirectory => some 21
  | .nameTooLong => some 36
  | .nulByte => none

/-- The wording of an error, with the number of the system behind it where it has one. -/
def OsError.message (e : OsError) : String :=
  match e.number? with
  | some n => e.reason ++ " (os error " ++ toString n ++ ")"
  | none => e.reason

/-- A file with its content, or a directory with its entries. -/
inductive Node where
  | file (content : List UInt8) (executable : Bool)
  | directory (entries : List (String × Node))
  deriving Inhabited

namespace Node

/-- The entries of a directory, each with its name; a file has none. -/
def entries? : Node → Option (List (String × Node))
  | .directory entries => some entries
  | .file .. => none

/-- Whether the node is a directory. -/
def isDirectory (n : Node) : Bool :=
  n.entries?.isSome

/-- The entry of a directory that has this `name`. -/
def child? (n : Node) (name : String) : Option Node :=
  n.entries?.bind fun entries => entries.lookup name

/-- The node at the end of some `names`, which lead from one directory to the next. -/
def descend? (n : Node) (names : List String) : Option Node :=
  names.foldlM child? n

/-- The `entries` with the one of a name replaced by `n`, or with that added at their end. -/
def setEntry (entries : List (String × Node)) (name : String) (n : Node) :
    List (String × Node) :=
  if entries.any (·.1 = name) then
    entries.map fun (key, old) => if key = name then (key, n) else (key, old)
  else entries ++ [(name, n)]

/-- The tree with the node `leaf` put at the end of some names. Directories on the way are made; a
file on the way gives way to one. -/
def put (leaf : Node) : List String → Node → Node
  | [], _ => leaf
  | name :: names, n =>
    let below := (n.child? name).getD (.directory [])
    .directory (setEntry (n.entries?.getD []) name (put leaf names below))

theorem descend?_cons (n : Node) (name : String) (names : List String) :
    n.descend? (name :: names) = (n.child? name).bind (·.descend? names) := by
  rw [descend?, List.foldlM_cons]
  rfl

/-- The names that lead down to a node, in two parts `a` and `b`. -/
theorem descend?_append (n : Node) (a b : List String) :
    n.descend? (a ++ b) = (n.descend? a).bind (·.descend? b) := by
  rw [descend?, List.foldlM_append]
  rfl

/-- Where the nodes of one `name` are replaced by `n`, that name leads to `n` if it led anywhere,
and every other name to where it led before. -/
theorem lookup_replaced (entries : List (String × Node)) (name other : String) (n : Node) :
    (entries.map fun (key, old) => if key = name then (key, n) else (key, old)).lookup other =
      if other = name then (entries.lookup other).map fun _ => n else entries.lookup other := by
  induction entries with
  | nil => split <;> rfl
  | cons e rest ih =>
      obtain ⟨key, old⟩ := e
      rw [List.map_cons, List.lookup_cons]
      by_cases hother : other = key
      · subst hother
        by_cases hkey : other = name <;> simp [hkey]
      · have hne : (other == key) = false := beq_false_of_ne hother
        have hfst : (if key = name then (key, n) else (key, old)).1 = key := by split <;> rfl
        simp only [hfst, hne, ih, List.lookup_cons]

/-- After one of the `entries` was set, its name leads to the new node, and every other name to
where it led before. -/
theorem lookup_setEntry (entries : List (String × Node)) (name other : String) (n : Node) :
    (setEntry entries name n).lookup other =
      if other = name then some n else entries.lookup other := by
  rw [setEntry]
  split
  case isTrue hany =>
      rw [lookup_replaced]
      split
      case isTrue hother =>
          subst hother
          obtain ⟨⟨key, old⟩, hmem, hkey⟩ := List.any_eq_true.mp hany
          have hsome : (entries.lookup other).isSome := by
            rw [List.lookup_isSome_iff]
            exact ⟨(key, old), hmem, by simpa using (of_decide_eq_true hkey).symm⟩
          obtain ⟨found, hfound⟩ := Option.isSome_iff_exists.mp hsome
          rw [hfound]
          rfl
      case isFalse => rfl
  case isFalse hany =>
      rw [List.lookup_append, List.lookup_cons]
      by_cases hother : other = name
      · subst hother
        have hnone : entries.lookup other = none := by
          rw [List.lookup_eq_none_iff]
          intro e he
          exact bne_iff_ne.mpr fun h =>
            hany (List.any_eq_true.mpr ⟨e, he, decide_eq_true h.symm⟩)
        simp [hnone]
      · have hne : (other == name) = false := beq_false_of_ne hother
        simp [hne, hother]

/-- **What is put at the end of some names is found there.** -/
theorem descend?_put (leaf : Node) (names : List String) (n : Node) :
    (put leaf names n).descend? names = some leaf := by
  induction names generalizing n with
  | nil => rfl
  | cons name names ih =>
      rw [put, descend?_cons, child?, entries?, Option.bind_some, lookup_setEntry, if_pos rfl]
      exact ih _

/-- **What is put at the end of some names leaves the rest of the tree alone**: names that neither
lead to it nor lead past it are followed to where they led before. -/
theorem descend?_put_of_disjoint (leaf : Node) {names other : List String} (n : Node)
    (hbelow : ¬ names <+: other) (habove : ¬ other <+: names) :
    (put leaf names n).descend? other = n.descend? other := by
  induction names generalizing n other with
  | nil => exact absurd (List.nil_prefix) hbelow
  | cons name names ih =>
      cases other with
      | nil => exact absurd (List.nil_prefix) habove
      | cons first other =>
          rw [put, descend?_cons, descend?_cons, child?, entries?, Option.bind_some,
            lookup_setEntry]
          have hchild : (n.entries?.getD []).lookup first = n.child? first := by
            cases n <;> rfl
          split
          case isTrue hfirst =>
              subst hfirst
              rw [List.cons_prefix_cons, and_iff_right rfl] at hbelow habove
              rw [Option.bind_some, ih _ hbelow habove]
              cases hname : n.child? first with
              | some below => rfl
              | none =>
                  cases other with
                  | nil => exact absurd List.nil_prefix habove
                  | cons second other => rfl
          case isFalse => rw [hchild]

end Node

/-! ### Trees -/

/-- A tree with a current directory, from which relative paths are followed. -/
structure FileTree where
  /-- The root directory. -/
  top : Node := .directory []
  /-- The names that lead to the current directory. -/
  current : List String := []
  deriving Inhabited

namespace FileTree

/-- The longest path that the system takes, in bytes of UTF-8. -/
def maxPathBytes : Nat := 4095

/-- The longest name that the system takes, in bytes of UTF-8. -/
def maxNameBytes : Nat := 255

/-- One piece of a path: where it leads from a `place`, which must be a directory. -/
def enter (t : FileTree) (place : List String) (segment : List Char) :
    Except OsError (List String) :=
  match t.top.descend? place with
  | none => .error .notFound
  | some n =>
    if !n.isDirectory then .error .notADirectory
    else if Path.isSilent segment then .ok place
    else if segment = ['.', '.'] then .ok place.dropLast
    else
      let name := String.ofList segment
      if maxNameBytes < name.utf8ByteSize then .error .nameTooLong
      else if (n.child? name).isSome then .ok (place ++ [name])
      else .error .notFound

/-- The place that a path names, seen from the current directory, if it names one. -/
def locate (t : FileTree) (p : Path) : Except OsError (List String) :=
  if p.text.toList.contains '\x00' then .error .nulByte
  else if p.text.isEmpty then .error .notFound
  else if maxPathBytes < p.text.utf8ByteSize then .error .nameTooLong
  else p.segments.foldlM t.enter (if p.isAbsolute then [] else t.current)

/-- The node that a path names, if it names one. -/
def node (t : FileTree) (p : Path) : Except OsError Node := do
  let place ← t.locate p
  match t.top.descend? place with
  | some n => .ok n
  | none => .error .notFound

/-- Whether a path names anything. -/
def contains (t : FileTree) (p : Path) : Bool :=
  (t.node p).isOk

/-- Whether a path names a file. -/
def isFile (t : FileTree) (p : Path) : Bool :=
  match t.node p with
  | .ok n => !n.isDirectory
  | .error _ => false

/-- Whether a path names a directory. -/
def isDirectory (t : FileTree) (p : Path) : Bool :=
  match t.node p with
  | .ok n => n.isDirectory
  | .error _ => false

/-- The content of the file that a path names. -/
def read (t : FileTree) (p : Path) : Except OsError (List UInt8) := do
  match ← t.node p with
  | .file content _ => .ok content
  | .directory _ => .error .isADirectory

/-- The tree seen from another directory, if the path `p` names one. -/
def changeDirectory (t : FileTree) (p : Path) : Except OsError FileTree := do
  let place ← t.locate p
  match t.top.descend? place with
  | some (.directory _) => .ok { t with current := place }
  | some (.file ..) => .error .notADirectory
  | none => .error .notFound

/-- The absolute path of a `place`, which has no dots in it. -/
def absolute (place : List String) : Path :=
  ⟨if place.isEmpty then "/" else String.join (place.map ("/" ++ ·))⟩

/-- The absolute path of the current directory. -/
def currentPath (t : FileTree) : Path :=
  absolute t.current

/-- The names in a path, which is taken from the current directory if it is relative. -/
def target (t : FileTree) (p : Path) : List String :=
  (if p.isAbsolute then [] else t.current) ++
    (p.segments.filter fun s => !Path.isSilent s).map String.ofList

/-- The tree with a file of this `content`, and with the directories that lead to it. -/
def writeFile (t : FileTree) (p : Path) (content : List UInt8) (executable : Bool) : FileTree :=
  { t with top := Node.put (.file content executable) (t.target p) t.top }

/-- The tree with more `bytes` at the end of the file at a `place`. -/
def appendAt (t : FileTree) (place : List String) (bytes : List UInt8) : FileTree :=
  match t.top.descend? place with
  | some (.file content executable) =>
    { t with top := Node.put (.file (content ++ bytes) executable) place t.top }
  | _ => t

/-- The tree with an empty file at a path, and its place. A file that is there already becomes empty
or, for more text at its end, stays as it is. -/
def create (t : FileTree) (p : Path) (keeps : Bool) :
    Except OsError (FileTree × List String) :=
  match t.locate p with
  | .ok place =>
    match t.top.descend? place with
    | some (.directory _) => .error .isADirectory
    | some (.file _ executable) =>
      let empty := Node.put (.file [] executable) place t.top
      .ok (if keeps then t else { t with top := empty }, place)
    | none => .error .notFound
  | .error .notFound => do
    let folder ← match p.parent? with
      | none => .error .notFound
      | some folder => if folder.text.isEmpty then .ok t.current else t.locate folder
    match t.top.descend? folder, p.segments.getLast? with
    | some (.directory _), some name =>
      if Path.isSilent name then .error .isADirectory
      else
        let place := folder ++ [String.ofList name]
        .ok ({ t with top := Node.put (.file [] false) place t.top }, place)
    | some _, _ => .error .notADirectory
    | none, _ => .error .notFound
  | .error e => .error e

/-- The tree with a directory, and with the directories that lead to it. -/
def makeDirectory (t : FileTree) (p : Path) : FileTree :=
  let names := t.target p
  if ((t.top.descend? names).map Node.isDirectory).getD false then t
  else { t with top := Node.put (.directory []) names t.top }

/-- A piece of a path leads from a `place` that is there to one that is there too. -/
theorem isSome_of_enter {t : FileTree} {place place' : List String} {segment : List Char}
    (h : t.enter place segment = .ok place') : (t.top.descend? place').isSome := by
  rw [enter] at h
  cases hplace : t.top.descend? place with
  | none => simp [hplace] at h
  | some n =>
    simp only [hplace] at h
    split at h
    · cases h
    split at h
    · cases h
      rw [hplace]
      rfl
    split at h
    · obtain rfl := Except.ok.inj h
      cases hlast : place.getLast? with
      | none =>
          rw [List.getLast?_eq_none_iff] at hlast
          subst hlast
          rfl
      | some name =>
          obtain ⟨above, rfl⟩ := List.getLast?_eq_some_iff.mp hlast
          rw [Node.descend?_append, Option.bind_eq_some_iff] at hplace
          obtain ⟨folder, hfolder, -⟩ := hplace
          rw [List.dropLast_concat, hfolder]
          rfl
    · split at h
      · cases h
      split at h
      case isTrue hchild =>
          obtain rfl := Except.ok.inj h
          rw [Node.descend?_append, hplace, Option.bind_some, Node.descend?_cons]
          obtain ⟨below, hbelow⟩ := Option.isSome_iff_exists.mp hchild
          rw [hbelow]
          rfl
      case isFalse => cases h

/-- **Every place that a path names is there**, if the current directory is, by induction on the
pieces of the path. -/
theorem isSome_of_locate {t : FileTree} (hcurrent : (t.top.descend? t.current).isSome) {p : Path}
    {place : List String} (h : t.locate p = .ok place) : (t.top.descend? place).isSome := by
  have hwalk (segments : List (List Char)) {start : List String}
      (hstart : (t.top.descend? start).isSome)
      (hwalk : segments.foldlM t.enter start = .ok place) : (t.top.descend? place).isSome := by
    induction segments generalizing start with
    | nil =>
        obtain rfl := Except.ok.inj hwalk
        exact hstart
    | cons segment rest ih =>
        rw [List.foldlM_cons] at hwalk
        cases hnext : t.enter start segment with
        | error e => rw [hnext] at hwalk; cases hwalk
        | ok next =>
            rw [hnext] at hwalk
            exact ih (isSome_of_enter hnext) hwalk
  rw [locate] at h
  split at h
  · cases h
  split at h
  · cases h
  split at h
  · cases h
  · refine hwalk p.segments ?_ h
    split
    · rfl
    · exact hcurrent

end FileTree

end SelectorSearch
