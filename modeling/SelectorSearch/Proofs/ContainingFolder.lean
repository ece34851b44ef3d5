import Mathlib.Data.List.Basic
import SelectorSearch.FileTree

/-!
# The Folder that Contains a File

The folder of a path is a text that is cut from the path; what contains a file is a place in the
tree. The two agree whenever the path has a slash, whatever repeated slashes, dots and double dots
stand in it: the pieces before the last one lead to the directory, and the folder has these pieces
up to silent ones at the end, which do not matter for a directory.

A lone name has no piece before the last one. Its folder is the empty path, which names nothing.

## Main results

* `parent?_of_segments`: the pieces of the folder of a path.
* `enter_eq_ok`: where a piece of a path leads.
* `parent?_of_file`: the folder of a file is the directory that contains it, or empty.
-/

namespace SelectorSearch

/-! ### The pieces of a folder -/

namespace Path

open Text

/-- The three ways in which a path begins: with a slash, with a dot, or with its first piece, which
then says something if another one follows. -/
theorem segments_cases (p : Path) :
    (p.isAbsolute = true ∧ p.frontText = ['/'] ∧ p.segments = [] :: p.body) ∨
    (p.isAbsolute = false ∧ p.frontText = ['.'] ∧
      ∃ tail, p.body = [] :: tail ∧ p.segments = ['.'] :: tail) ∨
    (p.isAbsolute = false ∧ p.frontText = [] ∧ p.body = p.segments ∧
      ∀ s rest, p.segments = s :: rest → rest ≠ [] → isSilent s = false) := by
  cases ha : p.isAbsolute with
  | true =>
      obtain ⟨tail, ht⟩ : ∃ tail, p.text.toList = '/' :: tail := by
        simpa [isAbsolute, List.head?_eq_some_iff] using ha
      have hf : p.frontText = ['/'] := by simp [frontText, ha]
      refine .inl ⟨rfl, hf, ?_⟩
      rw [segments, body, hf, ht]
      exact split_cons_sep '/' tail
  | false =>
      cases hd : p.hasLeadingDot with
      | true =>
          obtain ⟨tail, hs⟩ : ∃ tail, p.segments = ['.'] :: tail := by
            simpa [hasLeadingDot, List.head?_eq_some_iff] using hd
          have hf : p.frontText = ['.'] := by simp [frontText, ha, hd]
          have htext : p.text.toList = Text.join '/' (['.'] :: tail) := by
            rw [← hs, segments, join_split]
          refine .inr (.inl ⟨rfl, hf, tail, ?_, hs⟩)
          have hsep : ∀ piece ∈ tail, '/' ∉ piece := fun piece hp =>
            sep_not_mem_of_mem_split (show piece ∈ p.segments from hs ▸ List.mem_cons_of_mem _ hp)
          rw [body, hf, htext]
          cases tail with
          | nil => rfl
          | cons q more =>
              change split '/' ('/' :: Text.join '/' (q :: more)) = _
              rw [split_cons_sep, split_join (by simp) hsep]
      | false =>
          have hf : p.frontText = [] := by simp [frontText, ha, hd]
          refine .inr (.inr ⟨rfl, hf, by rw [body, hf]; rfl, fun s rest hs hrest => ?_⟩)
          have htext : p.text.toList = Text.join '/' (s :: rest) := by
            rw [← hs, segments, join_split]
          have hslash : s ≠ [] := by
            rintro rfl
            obtain ⟨q, more, rfl⟩ := List.exists_cons_of_ne_nil hrest
            simp [isAbsolute, htext, Text.join] at ha
          have hdot : s ≠ ['.'] := by
            rintro rfl
            simp [hasLeadingDot, hs] at hd
          simp [isSilent, hslash, hdot]

/-- A path is its front and, with slashes between them, the pieces after it. -/
theorem frontText_append_join_body (p : Path) :
    p.frontText ++ Text.join '/' p.body = p.text.toList := by
  have htext : Text.join '/' p.segments = p.text.toList := join_split _ _
  obtain ⟨-, hf, hs⟩ | ⟨-, hf, tail, hb, hs⟩ | ⟨-, hf, hb, -⟩ := p.segments_cases
  · obtain ⟨s, rest, hbody⟩ : ∃ s rest, p.body = s :: rest :=
      List.exists_cons_of_ne_nil (split_ne_nil '/' _)
    rw [← htext, hf, hs, hbody]
    rfl
  · rw [← htext, hf, hs, hb]
    cases tail <;> rfl
  · rw [← htext, hf, hb]
    rfl

/-- No piece of a path holds a slash, since slashes are where the path was split. -/
theorem slash_not_mem_of_mem_segments {p : Path} {s : List Char} (h : s ∈ p.segments) : '/' ∉ s :=
  sep_not_mem_of_mem_split h

/-- The path that has this `front` and then these `pieces`, with slashes between them. -/
def ofPieces (front : List Char) (pieces : List (List Char)) : Path :=
  ⟨String.ofList (front ++ Text.join '/' pieces)⟩

/-- The folder of a path whose last piece is a `name`, as a text: what stands `before` the name,
without the silent pieces at its end. -/
theorem parent?_of_body {p : Path} {before : List (List Char)} {name : List Char}
    (h : p.body = before ++ [name]) (hname : isSilent name = false) :
    p.parent? = some (ofPieces p.frontText (dropEndWhile isSilent before)) := by
  rw [parent?, h, dropEndWhile_concat_of_neg before hname]
  cases before with
  | nil => rfl
  | cons s rest =>
      have hdrop : (s :: (rest ++ [name])).dropLast = s :: rest := by
        rw [← List.cons_append, List.dropLast_concat]
      simp only [List.cons_append, hdrop, ofPieces]

/-- The folder of a path whose last piece is a `name` is the beginning of the text of the path. -/
theorem ofPieces_isPrefix {p : Path} {before : List (List Char)} {name : List Char}
    (h : p.body = before ++ [name]) :
    (ofPieces p.frontText (dropEndWhile isSilent before)).text.toList <+: p.text.toList := by
  rw [ofPieces, String.toList_ofList, ← p.frontText_append_join_body,
    List.prefix_append_right_inj, h]
  exact join_prefix '/' ((dropEndWhile_isPrefix _ _).trans (List.prefix_append _ _))

/-- A folder has the `pieces` that it is made of, up to silent ones at the end, and is `absolute` if
they begin at the root. -/
structure Keeps (folder : Path) (absolute : Bool) (pieces : List (List Char)) : Prop where
  text_ne : folder.text ≠ ""
  isAbsolute : folder.isAbsolute = absolute
  segments : dropEndWhile isSilent folder.segments = dropEndWhile isSilent pieces

section Keeps

variable {pieces : List (List Char)}

/-- Pieces hold no slashes after some of them have been dropped either. -/
theorem slash_not_mem_of_mem_dropEndWhile (h : ∀ s ∈ pieces, '/' ∉ s) :
    ∀ s ∈ dropEndWhile isSilent pieces, '/' ∉ s :=
  fun s hs => h s ((dropEndWhile_isPrefix _ _).subset hs)

/-- Pieces that are joined and split again are the same up to silent ones at the end, if none of
them holds a slash. -/
theorem dropEndWhile_split_join (h : ∀ s ∈ pieces, '/' ∉ s) :
    dropEndWhile isSilent (split '/' (Text.join '/' pieces)) = dropEndWhile isSilent pieces := by
  cases pieces with
  | nil => rfl
  | cons s rest => rw [split_join (by simp) h]

/-- The root stays in front of what is left of the `pieces` of an absolute path. -/
theorem keeps_root (h : ∀ s ∈ pieces, '/' ∉ s) :
    Keeps (ofPieces ['/'] (dropEndWhile isSilent pieces)) true ([] :: pieces) := by
  refine ⟨by simp [ofPieces], by simp [ofPieces, Path.isAbsolute], ?_⟩
  rw [Path.segments, ofPieces, String.toList_ofList, List.singleton_append, split_cons_sep,
    dropEndWhile_cons, dropEndWhile_split_join (slash_not_mem_of_mem_dropEndWhile h),
    dropEndWhile_idem, ← dropEndWhile_cons]

/-- The dot stays in front of what is left of the `pieces` of a relative path that begins with
one. -/
theorem keeps_dot (h : ∀ s ∈ pieces, '/' ∉ s) :
    Keeps (ofPieces ['.'] (dropEndWhile isSilent ([] :: pieces))) false (['.'] :: pieces) := by
  refine ⟨by simp [ofPieces], by simp [ofPieces, Path.isAbsolute], ?_⟩
  rw [Path.segments, ofPieces, String.toList_ofList]
  cases hd : dropEndWhile isSilent pieces with
  | nil =>
      rw [dropEndWhile_cons, dropEndWhile_cons, hd]
      rfl
  | cons s more =>
      have hkept : ∀ piece ∈ s :: more, '/' ∉ piece := hd ▸ slash_not_mem_of_mem_dropEndWhile h
      have hdrop : dropEndWhile isSilent ([] :: pieces) = [] :: s :: more := by
        rw [dropEndWhile_cons, hd]
        rfl
      rw [hdrop]
      change dropEndWhile isSilent (split '/' (['.'] ++ '/' :: Text.join '/' (s :: more))) = _
      rw [split_append_sep (by simp), split_join (by simp) hkept, ← hd,
        dropEndWhile_cons_dropEndWhile]

/-- The first piece, where it says something, stays in front of what is left of a path that begins
with it. -/
theorem keeps_name {s : List Char} (hs : isSilent s = false)
    (h : ∀ piece ∈ s :: pieces, '/' ∉ piece) :
    Keeps (ofPieces [] (dropEndWhile isSilent (s :: pieces))) false (s :: pieces) := by
  have hdrop : dropEndWhile isSilent (s :: pieces) = s :: dropEndWhile isSilent pieces := by
    rw [dropEndWhile_cons]
    split <;> simp_all
  obtain ⟨c, cs, rfl⟩ : ∃ c cs, s = c :: cs :=
    List.exists_cons_of_ne_nil fun he => by simp [he, isSilent] at hs
  have hc : c ≠ '/' := fun he => h (c :: cs) List.mem_cons_self (by simp [he])
  obtain ⟨more, hmore⟩ :
      ∃ more, Text.join '/' (dropEndWhile isSilent ((c :: cs) :: pieces)) = c :: more := by
    rw [hdrop]
    cases dropEndWhile isSilent pieces <;> exact ⟨_, rfl⟩
  refine ⟨by simp [ofPieces, hmore], by simp [ofPieces, Path.isAbsolute, hmore, hc], ?_⟩
  rw [Path.segments, ofPieces, String.toList_ofList, List.nil_append,
    split_join (by simp [hdrop]) (slash_not_mem_of_mem_dropEndWhile h), dropEndWhile_idem]

end Keeps

/-- The folder of a path whose last piece is a `name` begins the path, and has the pieces `before`
the name, up to silent ones at the end. A lone name leaves the empty path. -/
theorem parent?_of_segments {p : Path} {before : List (List Char)} {name : List Char}
    (h : p.segments = before ++ [name]) (hname : isSilent name = false) :
    ∃ folder, p.parent? = some folder ∧ folder.text.toList <+: p.text.toList ∧
      (before = [] → folder = ⟨""⟩) ∧ (before ≠ [] → folder.Keeps p.isAbsolute before) := by
  have hslash : ∀ s ∈ before, '/' ∉ s := fun s hs =>
    slash_not_mem_of_mem_segments (h ▸ List.mem_append_left _ hs)
  obtain ⟨ha, hf, hs⟩ | ⟨ha, hf, tail, hb, hs⟩ | ⟨ha, hf, hb, hfirst⟩ := p.segments_cases
  · obtain ⟨rfl, hlone⟩ | ⟨rest, rfl, hbody⟩ := List.cons_eq_append_iff.mp (hs.symm.trans h)
    · obtain ⟨rfl, -⟩ := List.cons.inj hlone
      simp [isSilent] at hname
    · refine ⟨_, parent?_of_body hbody hname, ofPieces_isPrefix hbody, by simp, fun _ => ?_⟩
      rw [hf, ha]
      exact keeps_root fun s hs => hslash s (List.mem_cons_of_mem _ hs)
  · obtain ⟨rfl, hlone⟩ | ⟨rest, rfl, hrest⟩ := List.cons_eq_append_iff.mp (hs.symm.trans h)
    · obtain ⟨rfl, -⟩ := List.cons.inj hlone
      simp [isSilent] at hname
    · have hbody : p.body = ([] :: rest) ++ [name] := by rw [hb, hrest, List.cons_append]
      refine ⟨_, parent?_of_body hbody hname, ofPieces_isPrefix hbody, by simp, fun _ => ?_⟩
      rw [hf, ha]
      exact keeps_dot fun s hs => hslash s (List.mem_cons_of_mem _ hs)
  · have hbody : p.body = before ++ [name] := hb.trans h
    refine ⟨_, parent?_of_body hbody hname, ofPieces_isPrefix hbody, ?_, ?_⟩
    · rintro rfl
      rw [hf]
      rfl
    · intro hne
      obtain ⟨s, rest, rfl⟩ := List.exists_cons_of_ne_nil hne
      rw [hf, ha]
      exact keeps_name (hfirst s (rest ++ [name]) h (by simp)) hslash

end Path

/-! ### Following the pieces -/

namespace FileTree

open SelectorSearch.Path Text

variable {t : FileTree} {p : Path} {place q : List String} {segment : List Char}

/-- A `place` in the tree is a directory. -/
def HasDirectory (t : FileTree) (place : List String) : Prop :=
  ∃ entries, t.top.descend? place = some (.directory entries)

/-- One more `name` leads from the node at the end of the `names` to one of its entries. -/
theorem descend?_concat (n : Node) (names : List String) (name : String) :
    n.descend? (names ++ [name]) = (n.descend? names).bind fun m => m.child? name := by
  simp [Node.descend?, List.foldlM_append]

/-- Only directories have entries, so that a node with a child is one. -/
theorem eq_directory_of_child? {n m : Node} {name : String} (h : n.child? name = some m) :
    ∃ entries, n = .directory entries := by
  cases n with
  | file content executable => simp [Node.child?, Node.entries?] at h
  | directory entries => exact ⟨entries, rfl⟩

/-- What contains a directory is a directory, and at the top this is the root, which contains
itself. -/
theorem HasDirectory.dropLast (h : t.HasDirectory place) : t.HasDirectory place.dropLast := by
  obtain rfl | ⟨names, name, rfl⟩ := List.eq_nil_or_concat' place
  · exact h
  · obtain ⟨entries, hentries⟩ := h
    rw [descend?_concat, Option.bind_eq_some_iff] at hentries
    obtain ⟨n, hn, hchild⟩ := hentries
    obtain ⟨above, rfl⟩ := eq_directory_of_child? hchild
    rw [List.dropLast_concat]
    exact ⟨above, hn⟩

/-- Where a piece of a path leads: it needs a directory, in which it stays, from which it goes up,
or of which it names an entry. -/
theorem enter_eq_ok (h : t.enter place segment = .ok q) :
    t.HasDirectory place ∧
      ((isSilent segment = true ∧ q = place) ∨
        (isSilent segment = false ∧
          (q = place.dropLast ∨ q = place ++ [String.ofList segment]))) := by
  unfold enter at h
  split at h
  · cases h
  · next n hn =>
      cases n with
      | file content executable => simp [Node.isDirectory, Node.entries?] at h
      | directory entries =>
          refine ⟨⟨entries, hn⟩, ?_⟩
          simp only [Node.isDirectory, Node.entries?] at h
          split at h
          · next hdir => simp at hdir
          split at h
          · next hs => exact .inl ⟨hs, (Except.ok.inj h).symm⟩
          split at h
          · next hs _ => exact .inr ⟨by simpa using hs, .inl (Except.ok.inj h).symm⟩
          split at h
          · cases h
          split at h
          · next hs _ _ _ => exact .inr ⟨by simpa using hs, .inr (Except.ok.inj h).symm⟩
          · cases h

/-- In a directory a silent piece leads nowhere else. -/
theorem enter_of_silent (h : t.HasDirectory place) (hs : isSilent segment = true) :
    t.enter place segment = .ok place := by
  obtain ⟨entries, hentries⟩ := h
  simp [enter, hentries, Node.isDirectory, Node.entries?, hs]

/-- A `run` of silent pieces leads to a directory `q` exactly from `q` itself. -/
theorem foldlM_enter_of_silent {run : List (List Char)} (hq : t.HasDirectory q)
    (hrun : ∀ s ∈ run, isSilent s = true) : run.foldlM t.enter place = .ok q ↔ place = q := by
  induction run generalizing place with
  | nil => exact Except.ok.injEq place q ▸ Iff.rfl
  | cons s rest ih =>
      obtain ⟨hs, hrest⟩ := List.forall_mem_cons.mp hrun
      rw [List.foldlM_cons]
      constructor
      · intro h
        cases hstep : t.enter place s with
        | error e => simp [hstep, bind, Except.bind] at h
        | ok next =>
            rw [hstep] at h
            obtain ⟨-, ⟨-, rfl⟩ | ⟨hns, -⟩⟩ := enter_eq_ok hstep
            · exact (ih hrest).mp h
            · simp [hs] at hns
      · rintro rfl
        rw [enter_of_silent hq hs]
        exact (ih hrest).mpr rfl

/-- Silent pieces at the end of a path that leads to a directory do not matter. -/
theorem foldlM_enter_dropEndWhile (hq : t.HasDirectory q) (pieces : List (List Char)) :
    pieces.foldlM t.enter place = .ok q ↔
      (dropEndWhile isSilent pieces).foldlM t.enter place = .ok q := by
  obtain ⟨run, hrun, hsilent⟩ := exists_dropEndWhile_append isSilent pieces
  have happend : (dropEndWhile isSilent pieces ++ run).foldlM t.enter place = .ok q ↔
      (dropEndWhile isSilent pieces).foldlM t.enter place = .ok q := by
    rw [List.foldlM_append]
    cases (dropEndWhile isSilent pieces).foldlM t.enter place with
    | error e => simp [bind, Except.bind]
    | ok x => exact (foldlM_enter_of_silent hq hsilent).trans (Except.ok.injEq x q ▸ Iff.rfl)
  rwa [hrun] at happend

/-- The place where the resolution of a path begins: the root if it is absolute, and the current
place if not. -/
def origin (t : FileTree) (p : Path) : List String :=
  if p.isAbsolute then [] else t.current

/-- A text that the system takes as a path: not empty, not too long, and without a zero character in
it. -/
def Admissible (text : String) : Prop :=
  '\x00' ∉ text.toList ∧ text ≠ "" ∧ text.utf8ByteSize ≤ maxPathBytes

/-- A path is located by following its pieces from its `origin`, if its text is `Admissible`. -/
theorem locate_eq_ok_iff :
    t.locate p = .ok place ↔
      Admissible p.text ∧ p.segments.foldlM t.enter (t.origin p) = .ok place := by
  unfold locate Admissible origin
  split
  · next h => simp_all
  split
  · next h => simp_all
  split
  · next h => simp [Nat.not_le.mpr h]
  · next h₁ h₂ h₃ => simp_all

/-- The beginning of a text that the system takes is one too, unless it is empty. -/
theorem Admissible.of_prefix {a b : String} (hb : Admissible b) (h : a.toList <+: b.toList)
    (ha : a ≠ "") : Admissible a := by
  obtain ⟨rest, hrest⟩ := h
  have hab : b = a ++ String.ofList rest := by
    rw [← String.toList_inj, String.toList_append, String.toList_ofList, hrest]
  obtain ⟨hnul, -, hsize⟩ := hb
  refine ⟨fun hc => hnul (hrest ▸ List.mem_append_left _ hc), ha, ?_⟩
  rw [hab, String.utf8ByteSize_append] at hsize
  omega

/-- A file is named by the last piece of its path, and what comes `before` that leads to the
directory of the file. -/
theorem segments_of_file {content : List UInt8} {executable : Bool}
    (h : p.segments.foldlM t.enter (t.origin p) = .ok place)
    (hfile : t.top.descend? place = some (.file content executable)) :
    ∃ before name, p.segments = before ++ [name] ∧ isSilent name = false ∧
      t.HasDirectory place.dropLast ∧
      before.foldlM t.enter (t.origin p) = .ok place.dropLast := by
  obtain hnil | ⟨before, name, hsegments⟩ := List.eq_nil_or_concat' p.segments
  · exact absurd hnil (split_ne_nil _ _)
  rw [hsegments, List.foldlM_append] at h
  cases hbefore : before.foldlM t.enter (t.origin p) with
  | error e => simp [hbefore, bind, Except.bind] at h
  | ok q =>
      have hlast : t.enter q name = .ok place := by
        rw [hbefore] at h
        have hone : [name].foldlM t.enter q = .ok place := h
        rwa [List.foldlM_cons, funext fun x => List.foldlM_nil, bind_pure] at hone
      have hnot : ¬t.HasDirectory place := fun ⟨entries, he⟩ => by simp [hfile] at he
      obtain ⟨hdir, ⟨-, rfl⟩ | ⟨hname, rfl | rfl⟩⟩ := enter_eq_ok hlast
      · exact absurd hdir hnot
      · exact absurd hdir.dropLast hnot
      · rw [List.dropLast_concat]
        exact ⟨before, name, hsegments, hname, hdir, hbefore⟩

/-- What a path names, if it names anything, is the node at the place where the path leads. -/
theorem node_eq_ok_iff {n : Node} :
    t.node p = .ok n ↔ ∃ place, t.locate p = .ok place ∧ t.top.descend? place = some n := by
  unfold node
  cases t.locate p with
  | error e => simp [bind, Except.bind]
  | ok place =>
      simp only [bind, Except.bind]
      cases hn : t.top.descend? place with
      | none => simp [hn]
      | some m => simp [hn]

/-- A path names a directory exactly if the place where it leads is one. -/
theorem isDirectory_iff :
    t.isDirectory p = true ↔ ∃ place, t.locate p = .ok place ∧ t.HasDirectory place := by
  have hnode : t.isDirectory p = true ↔ ∃ entries, t.node p = .ok (.directory entries) := by
    unfold isDirectory
    cases t.node p with
    | error e => simp
    | ok n => cases n <;> simp [Node.isDirectory, Node.entries?]
  simp only [hnode, node_eq_ok_iff, HasDirectory]
  constructor
  · rintro ⟨entries, place, hplace, hn⟩
    exact ⟨place, hplace, entries, hn⟩
  · rintro ⟨place, hplace, entries, hn⟩
    exact ⟨entries, place, hplace, hn⟩

/-- A path names a file exactly if there is one at the place where it leads, executable or not. -/
theorem isFile_iff :
    t.isFile p = true ↔ ∃ place content executable, t.locate p = .ok place ∧
      t.top.descend? place = some (.file content executable) := by
  have hnode : t.isFile p = true ↔
      ∃ content executable, t.node p = .ok (.file content executable) := by
    unfold isFile
    cases t.node p with
    | error e => simp
    | ok n => cases n <;> simp [Node.isDirectory, Node.entries?]
  simp only [hnode, node_eq_ok_iff]
  constructor
  · rintro ⟨content, executable, place, hplace, hn⟩
    exact ⟨place, content, executable, hplace, hn⟩
  · rintro ⟨place, content, executable, hplace, hn⟩
    exact ⟨content, executable, place, hplace, hn⟩

/-- A path names something exactly if it names a directory or a file, since there is nothing else in
a tree. -/
theorem contains_iff : t.contains p = true ↔ t.isDirectory p = true ∨ t.isFile p = true := by
  unfold contains isDirectory isFile
  cases t.node p with
  | error e => simp [Except.isOk, Except.toBool]
  | ok n => cases h : n.isDirectory <;> simp [Except.isOk, Except.toBool, h]

/-- No path names both a directory and a file. -/
theorem isFile_eq_false_of_isDirectory (h : t.isDirectory p = true) : t.isFile p = false := by
  unfold isDirectory at h
  unfold isFile
  cases hn : t.node p with
  | error e => rfl
  | ok n =>
      rw [hn] at h
      simpa using h

/-- The tree can be looked at from any directory that a path names, and is otherwise the same. -/
theorem changeDirectory_of_isDirectory (h : t.isDirectory p = true) :
    ∃ place, t.locate p = .ok place ∧ t.changeDirectory p = .ok { t with current := place } := by
  obtain ⟨place, hplace, entries, hentries⟩ := isDirectory_iff.mp h
  refine ⟨place, hplace, ?_⟩
  simp [changeDirectory, hplace, hentries, bind, Except.bind]

/-- **The folder of a file is the directory that contains it**, unless the path is a lone name; then
it is the empty path. In either case it begins the text of the path. -/
theorem parent?_of_file {content : List UInt8} {executable : Bool} (hplace : t.locate p = .ok place)
    (hfile : t.top.descend? place = some (.file content executable)) :
    ∃ folder, p.parent? = some folder ∧ folder.text.toList <+: p.text.toList ∧
      ('/' ∉ p.text.toList → folder = ⟨""⟩) ∧
      ('/' ∈ p.text.toList → t.locate folder = .ok place.dropLast ∧
        t.HasDirectory place.dropLast) := by
  obtain ⟨hadmissible, hfold⟩ := locate_eq_ok_iff.mp hplace
  obtain ⟨before, name, hsegments, hname, hdir, hbefore⟩ := segments_of_file hfold hfile
  obtain ⟨folder, hfolder, hprefix, hlone, hrest⟩ := parent?_of_segments hsegments hname
  refine ⟨folder, hfolder, hprefix, fun hslash => hlone ?_, fun hslash => ?_⟩
  · have hone : p.segments = [p.text.toList] := split_of_not_mem hslash
    rw [hsegments] at hone
    exact (List.append_eq_singleton_iff.mp hone).elim (fun h => h.1) (fun h => by simp at h)
  · have hne : before ≠ [] := by
      rintro rfl
      have htext : p.text.toList = name := by
        rw [← join_split '/' p.text.toList, show split '/' p.text.toList = [name] from hsegments]
        rfl
      have hmem : name ∈ p.segments := by simp [hsegments]
      exact slash_not_mem_of_mem_segments hmem (htext ▸ hslash)
    have hkeeps := hrest hne
    refine ⟨locate_eq_ok_iff.mpr ⟨hadmissible.of_prefix hprefix hkeeps.text_ne, ?_⟩, hdir⟩
    rw [foldlM_enter_dropEndWhile hdir, hkeeps.segments, ← foldlM_enter_dropEndWhile hdir, origin,
      hkeeps.isAbsolute]
    exact hbefore

end FileTree

end SelectorSearch
