/-!
# Patterns of Shell Scripts

A pattern matches a whole text. A star in it matches any text, a question mark any character, and
brackets any character among those in them, or outside of them after an exclamation mark. A
character that was quoted stands for itself.

## Main results

* `matchesPattern_of_not_isPattern`: what has no special character matches itself and nothing else.
-/

namespace SelectorSearch.Shell

/-- A character, and whether it stands for itself in a pattern. -/
structure Glyph where
  char : Char
  literal : Bool
  deriving DecidableEq, Repr

/-- A part of a pattern: a character, any one, any text, or one of some characters or of all
others. -/
inductive PatternItem where
  | char (c : Char)
  | anyChar
  | anyText
  /-- A character in one of the ranges, or in none of them. -/
  | oneOf (negated : Bool) (ranges : List (Char × Char))
  deriving DecidableEq, Repr

/-- The ranges between brackets, where a character alone is a range of itself. -/
def charRanges : List Char → List (Char × Char)
  | a :: '-' :: b :: rest => (a, b) :: charRanges rest
  | a :: rest => (a, a) :: charRanges rest
  | [] => []

/-- The characters up to the closing bracket, which may also come first, and the rest. -/
def scanBrackets : List Glyph → Option (List Char × List Glyph)
  | [] => none
  | g :: rest =>
    let isClosing := fun h : Glyph => h.char = ']' && !h.literal
    match rest.dropWhile (!isClosing ·) with
    | _ :: after => some (g.char :: (rest.takeWhile (!isClosing ·)).map Glyph.char, after)
    | [] => none

/-- The item of what is between brackets, which an exclamation mark negates. -/
def bracketItem : List Char → PatternItem
  | '!' :: chars => .oneOf true (charRanges chars)
  | chars => .oneOf false (charRanges chars)

/-- The parts of a pattern, in their order. -/
def patternItems : (fuel : Nat) → List Glyph → List PatternItem
  | 0, _ | _, [] => []
  | fuel + 1, g :: rest =>
    if g.literal then .char g.char :: patternItems fuel rest
    else match g.char with
      | '*' => .anyText :: patternItems fuel rest
      | '?' => .anyChar :: patternItems fuel rest
      | '[' =>
        match scanBrackets rest with
        | some (chars, after) => bracketItem chars :: patternItems fuel after
        | none => .char '[' :: patternItems fuel rest
      | c => .char c :: patternItems fuel rest

/-- Whether a part that stands for one character stands for this one. -/
def PatternItem.accepts (c : Char) : PatternItem → Bool
  | char d => c = d
  | anyChar => true
  | anyText => false
  | oneOf negated ranges => (ranges.any fun (low, high) => low ≤ c && c ≤ high) != negated

/-- Whether parts of a pattern match a whole text. -/
def matchItems : List PatternItem → List Char → Bool
  | [], text => text.isEmpty
  | .anyText :: items, [] => matchItems items []
  | .anyText :: items, c :: text =>
    matchItems items (c :: text) || matchItems (.anyText :: items) text
  | item :: items, c :: text => item.accepts c && matchItems items text
  | _ :: _, [] => false
termination_by items text => items.length + text.length

/-- Whether a pattern matches a whole text. -/
def matchesPattern (pattern : List Glyph) (text : List Char) : Bool :=
  matchItems (patternItems pattern.length pattern) text

/-- Whether some glyphs have a special character among them. -/
def isPattern (glyphs : List Glyph) : Bool :=
  glyphs.any fun g => !g.literal && ['*', '?', '['].contains g.char

/-- The text without the shortest part at its front that a pattern matches, or the longest one; the
whole text if there is none. -/
def trimFront (longest : Bool) (pattern : List Glyph) (text : List Char) : List Char :=
  let lengths := List.range (text.length + 1)
  let lengths := if longest then lengths.reverse else lengths
  match lengths.find? fun n => matchesPattern pattern (text.take n) with
  | some n => text.drop n
  | none => text

/-- The text without the shortest part at its end that a pattern matches, or the longest one; the
whole text if there is none. -/
def trimEnd (longest : Bool) (pattern : List Glyph) (text : List Char) : List Char :=
  let lengths := List.range (text.length + 1)
  let lengths := if longest then lengths else lengths.reverse
  match lengths.find? fun n => matchesPattern pattern (text.drop n) with
  | some n => text.take n
  | none => text

/-- Parts that are single characters `chars` match these characters and nothing else. -/
theorem matchItems_literals (chars text : List Char) :
    matchItems (chars.map .char) text = decide (text = chars) := by
  induction chars generalizing text with
  | nil => cases text <;> simp [matchItems]
  | cons c rest ih =>
    cases text with
    | nil => simp [matchItems]
    | cons d text => simp [matchItems, PatternItem.accepts, ih]

/-- The parts of `glyphs` without a special character are their characters. -/
theorem patternItems_of_not_isPattern {fuel : Nat} {glyphs : List Glyph}
    (hfuel : glyphs.length ≤ fuel) (h : isPattern glyphs = false) :
    patternItems fuel glyphs = (glyphs.map Glyph.char).map .char := by
  induction glyphs generalizing fuel with
  | nil => cases fuel <;> rfl
  | cons g rest ih =>
      obtain ⟨fuel, rfl⟩ := Nat.exists_eq_add_one.mpr (Nat.zero_lt_of_lt hfuel)
      rw [isPattern, List.any_cons, Bool.or_eq_false_iff] at h
      obtain ⟨hg, hrest⟩ := h
      have ih := @ih fuel (Nat.le_of_succ_le_succ hfuel) hrest
      rw [patternItems, List.map_cons, List.map_cons, ih]
      split
      · rfl
      case isFalse hliteral =>
          simp only [hliteral, Bool.not_false, Bool.true_and] at hg
          split
          case h_1 hstar | h_2 hstar | h_3 hstar =>
              rw [hstar] at hg
              exact absurd hg (by decide)
          case h_4 => rfl

/-- **What has no special character matches itself and nothing else**, as a whole `text`. -/
theorem matchesPattern_of_not_isPattern {glyphs : List Glyph} (h : isPattern glyphs = false)
    (text : List Char) :
    matchesPattern glyphs text = decide (text = glyphs.map Glyph.char) := by
  rw [matchesPattern, patternItems_of_not_isPattern (Nat.le_refl _) h]
  exact matchItems_literals _ _

end SelectorSearch.Shell
