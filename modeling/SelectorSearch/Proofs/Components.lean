import Mathlib.Logic.Relation
import SelectorSearch.Path

/-!
# Paths and Their Spellings

What a path means is the list of its components, and a slash in the middle of a text is where one
part of this list ends and another one begins: the components up to the slash, with the root or
the leading dot if there is one, and then the names behind it (`components_append_slash`). From
this it is known which changes of a text leave its components as they are, and whether one path is
within another.

A slash at the front of a path is no trailing slash but the root, even if nothing else is there,
and a dot at the front is a component. Neither of them can be added as a respelling.

## Main results

* `components_append_slash`: the components of two texts with a slash between them.
* `Respelled.components_eq`: repeated and trailing slashes and later dots do not count.
* `startsWith_append_slash`: whatever stands behind a folder and a slash is within the folder.
* `startsWith_sibling`: what is within a sibling with a longer name is not within the folder.
-/

namespace SelectorSearch.Path

open Text

/-! ### Components of joined texts -/

/-- The components that the pieces between slashes stand for, where silent pieces stand for none. -/
def named (p : Path) : List Component :=
  (p.segments.filter fun s => !isSilent s).map Component.ofSegment

/-- A path has the components of its `front`, and behind them those that its pieces stand for. -/
theorem components_eq_front_append (p : Path) : p.components = p.front ++ p.named := rfl

/-- Containment goes by components: a path starts with a `base` exactly if its components begin with
those of the base. -/
theorem startsWith_iff {p base : Path} :
    p.startsWith base = true ↔ base.components <+: p.components :=
  List.isPrefixOf_iff_prefix

/-- A slash cuts the pieces of a path in two, those of the text before it and those of the text
behind it. -/
theorem segments_append_slash (a b : String) :
    segments ⟨a ++ "/" ++ b⟩ = segments ⟨a⟩ ++ segments ⟨b⟩ := by
  have htext : (a ++ "/" ++ b).toList = a.toList ++ '/' :: b.toList := by simp
  rw [segments, htext, split_append_cons_sep]
  rfl

/-- A slash cuts the named components of a path in two, those before it and those behind it. -/
theorem named_append_slash (a b : String) :
    named ⟨a ++ "/" ++ b⟩ = named ⟨a⟩ ++ named ⟨b⟩ := by
  rw [named, segments_append_slash, List.filter_append, List.map_append]
  rfl

/-- The `front` of a path that is not empty is known at the first slash, whatever comes behind
it. -/
theorem front_append_slash {a : String} (h : a ≠ "") (b : String) :
    front ⟨a ++ "/" ++ b⟩ = front ⟨a⟩ := by
  obtain ⟨c, rest, ha⟩ : ∃ c rest, a.toList = c :: rest :=
    List.exists_cons_of_ne_nil (by simpa using h)
  have habsolute : isAbsolute ⟨a ++ "/" ++ b⟩ = isAbsolute ⟨a⟩ := by
    simp [isAbsolute, ha]
  obtain ⟨s, more, hs⟩ := List.exists_cons_of_ne_nil (split_ne_nil '/' a.toList)
  have hdot : hasLeadingDot ⟨a ++ "/" ++ b⟩ = hasLeadingDot ⟨a⟩ := by
    have hsegments : segments ⟨a⟩ = s :: more := hs
    simp [hasLeadingDot, segments_append_slash, hsegments]
  rw [front, habsolute, hdot]
  rfl

/-- Behind a path that is not empty, a slash and a text `b` add the components that the pieces of
`b` stand for. -/
theorem components_append {a : String} (h : a ≠ "") (b : String) :
    components ⟨a ++ "/" ++ b⟩ = components ⟨a⟩ ++ named ⟨b⟩ := by
  rw [components_eq_front_append, components_eq_front_append, front_append_slash h,
    named_append_slash, List.append_assoc]

/-- A slash at the end adds no component to a path `a` that is not empty. -/
theorem components_slash {a : String} (h : a ≠ "") : components ⟨a ++ "/"⟩ = components ⟨a⟩ := by
  have hcomponents := components_append h ""
  rwa [String.append_empty, show named ⟨""⟩ = [] from rfl, List.append_nil] at hcomponents

/-- The components of two texts with a slash between them are those up to the slash, and those that
the pieces behind it stand for. -/
theorem components_append_slash (a b : String) :
    components ⟨a ++ "/" ++ b⟩ = components ⟨a ++ "/"⟩ ++ named ⟨b⟩ := by
  by_cases h : a = ""
  · subst h
    have hnamed : named ⟨"" ++ "/" ++ b⟩ = named ⟨b⟩ := named_append_slash "" b
    have hfront : front ⟨"" ++ "/" ++ b⟩ = [.root] := by simp [front, isAbsolute]
    rw [components_eq_front_append, hfront, hnamed]
    rfl
  · rw [components_append h, components_slash h]

/-! ### Spellings -/

/-- A way to spell a path with more characters, which leaves it the same components. -/
inductive Respelled : Path → Path → Prop where
  /-- A slash is repeated. -/
  | slash (a b : String) : Respelled ⟨a ++ "/" ++ b⟩ ⟨a ++ "//" ++ b⟩
  /-- A dot is put behind a slash, with a slash of its own. -/
  | dot (a b : String) : Respelled ⟨a ++ "/" ++ b⟩ ⟨a ++ "/./" ++ b⟩
  /-- A slash is put behind the last component. -/
  | trailing {a : String} (h : a ≠ "") : Respelled ⟨a⟩ ⟨a ++ "/"⟩

/-- **Repeated and trailing slashes do not count**, nor do dots behind slashes: a respelled path has
the components that it had. -/
theorem Respelled.components_eq {p q : Path} (h : Respelled p q) : q.components = p.components := by
  cases h with
  | slash a b =>
      have htext : a ++ "//" ++ b = a ++ "/" ++ ("" ++ "/" ++ b) := by simp [← String.toList_inj]
      rw [htext, components_append_slash, components_append_slash a b, named_append_slash]
      rfl
  | dot a b =>
      have htext : a ++ "/./" ++ b = a ++ "/" ++ ("." ++ "/" ++ b) := by simp [← String.toList_inj]
      rw [htext, components_append_slash, components_append_slash a b, named_append_slash]
      rfl
  | trailing h => exact components_slash h

/-- However often a path is `Respelled`, there and back, its components stay the same. -/
theorem components_eq_of_eqvGen {p q : Path} (h : Relation.EqvGen Respelled p q) :
    p.components = q.components := by
  induction h with
  | rel p q h => exact h.components_eq.symm
  | refl p => rfl
  | symm p q _ ih => exact ih.symm
  | trans p q r _ _ ih₁ ih₂ => exact ih₁.trans ih₂

/-! ### Folders -/

/-- **What stands behind a `folder` and a slash is within the folder.** -/
theorem startsWith_append_slash (folder rest : String) :
    startsWith ⟨folder ++ "/" ++ rest⟩ ⟨folder⟩ = true := by
  by_cases h : folder = ""
  · rw [h]
    exact startsWith_empty _
  · rw [startsWith_iff, components_append h]
    exact List.prefix_append _ _

/-- A text that is an ordinary component: neither nothing nor dots, and without a slash. -/
structure IsName (n : String) : Prop where
  ne_empty : n ≠ ""
  ne_dot : n ≠ "."
  ne_dots : n ≠ ".."
  slash_not_mem : '/' ∉ n.toList

namespace IsName

variable {n above below : String}

/-- More characters leave an ordinary component ordinary: two dots are more than one, but one dot is
none. -/
theorem append (h : IsName n) {more : String} (hne : more ≠ "") (hslash : '/' ∉ more.toList) :
    IsName (n ++ more) := by
  obtain ⟨c, cs, hn⟩ : ∃ c cs, n.toList = c :: cs :=
    List.exists_cons_of_ne_nil (by simpa using h.ne_empty)
  obtain ⟨d, ds, hmore⟩ : ∃ d ds, more.toList = d :: ds :=
    List.exists_cons_of_ne_nil (by simpa using hne)
  refine ⟨?_, ?_, ?_, ?_⟩
  · simp [← String.toList_inj, hn]
  · simp [← String.toList_inj, hn, hmore]
  · intro hdots
    have hlist : c :: (cs ++ d :: ds) = ['.', '.'] := by
      rw [← List.cons_append, ← hn, ← hmore, ← String.toList_append, hdots]
      rfl
    obtain ⟨rfl, hrest⟩ := List.cons.inj hlist
    obtain rfl : cs = [] := by
      rcases cs with _ | ⟨e, es⟩
      · rfl
      · simp at hrest
    exact h.ne_dot (String.toList_inj.mp hn)
  · rw [String.toList_append, List.mem_append, not_or]
    exact ⟨h.slash_not_mem, hslash⟩

/-- The pieces of an ordinary component `n` stand for the component of this name, and for nothing
else. -/
theorem named_eq (h : IsName n) : named ⟨n⟩ = [.name n.toList] := by
  have hsegments : segments ⟨n⟩ = [n.toList] := split_of_not_mem h.slash_not_mem
  have hempty : n.toList ≠ [] := by simpa using h.ne_empty
  have hdot : n.toList ≠ ['.'] := fun hd => h.ne_dot (String.toList_inj.mp hd)
  have hdots : n.toList ≠ ['.', '.'] := fun hd => h.ne_dots (String.toList_inj.mp hd)
  simp [named, hsegments, isSilent, Component.ofSegment, hempty, hdot, hdots]

/-- An ordinary component is a path that has nothing at its `front`. -/
theorem front_eq (h : IsName n) : front ⟨n⟩ = [] := by
  have hsegments : segments ⟨n⟩ = [n.toList] := split_of_not_mem h.slash_not_mem
  have hdot : n.toList ≠ ['.'] := fun hd => h.ne_dot (String.toList_inj.mp hd)
  have habsolute : n.toList.head? ≠ some '/' := fun hhead =>
    h.slash_not_mem (List.mem_of_mem_head? hhead)
  simp [front, isAbsolute, hasLeadingDot, hsegments, hdot, habsolute]

/-- An ordinary component at the front of a path or behind a slash is the last one, or the last one
before those that follow behind the next slash. -/
theorem exists_components (h : IsName n) (habove : above = "" ∨ ∃ a, above = a ++ "/")
    (hbelow : below = "" ∨ ∃ b, below = "/" ++ b) :
    ∃ later, components ⟨above ++ n ++ below⟩ = components ⟨above⟩ ++ .name n.toList :: later ∧
      (below = "" → later = []) := by
  have hname : components ⟨above ++ n⟩ = components ⟨above⟩ ++ [.name n.toList] := by
    rcases habove with rfl | ⟨a, rfl⟩
    · rw [String.empty_append, components_eq_front_append, h.front_eq, h.named_eq]
      rfl
    · rw [components_append_slash, h.named_eq]
  rcases hbelow with rfl | ⟨b, rfl⟩
  · exact ⟨[], by rw [String.append_empty, hname], fun _ => rfl⟩
  · have hne : above ++ n ≠ "" := by simp [h.ne_empty]
    refine ⟨named ⟨b⟩, ?_, ?_⟩
    · rw [← String.append_assoc, components_append hne, hname, List.append_assoc]
      rfl
    · simp

end IsName

/-- What lies within a folder whose last component is `other` is not within the folder whose last
component is `name`. -/
theorem startsWith_eq_false_of_ne {folder p : Path} {above below : List Component}
    {name other : List Char} (hfolder : folder.components = above ++ [.name name])
    (hp : p.components = above ++ .name other :: below) (hne : other ≠ name) :
    p.startsWith folder = false := by
  rw [Bool.eq_false_iff, Ne, startsWith_iff, hfolder, hp, List.prefix_append_right_inj,
    List.cons_prefix_cons]
  rintro ⟨hname, -⟩
  exact hne (Component.name.inj hname).symm

/-- **Siblings are not contained.** A folder that ends in an ordinary component does not contain
what is within a sibling with a longer name, though its text is the beginning of that of the
sibling. -/
theorem startsWith_sibling {above n more below : String}
    (habove : above = "" ∨ ∃ a, above = a ++ "/") (hn : IsName n) (hne : more ≠ "")
    (hslash : '/' ∉ more.toList) (hbelow : below = "" ∨ ∃ b, below = "/" ++ b) :
    startsWith ⟨above ++ n ++ more ++ below⟩ ⟨above ++ n⟩ = false := by
  have hnothing : "" = "" ∨ ∃ b, "" = "/" ++ b := .inl rfl
  obtain ⟨later, hfolder, hlast⟩ := hn.exists_components habove hnothing
  obtain ⟨within, hsibling, -⟩ := (hn.append hne hslash).exists_components habove hbelow
  rw [String.append_empty, hlast rfl] at hfolder
  rw [← String.append_assoc] at hsibling
  refine startsWith_eq_false_of_ne hfolder hsibling fun heq => hne ?_
  rw [String.toList_append] at heq
  simpa using heq

end SelectorSearch.Path
