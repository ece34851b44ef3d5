import SelectorSearch.Shell.Tool

/-!
# Conditions of Shell Scripts

What the commands `test` and `[` find out: whether texts are empty or equal, how numbers compare,
and what a path names.

## Main results

* `holds_not_not`: two negations cancel out.
-/

namespace SelectorSearch.Shell

/-- The comparison of two numbers that an operator stands for, if it is such an operator. -/
def compareNumbers? (op : String) : Option (Int → Int → Bool) :=
  match op with
  | "-eq" => some fun a b => a = b
  | "-ne" => some fun a b => a ≠ b
  | "-lt" => some fun a b => a < b
  | "-le" => some fun a b => a ≤ b
  | "-gt" => some fun a b => a > b
  | "-ge" => some fun a b => a ≥ b
  | _ => none

/-- The number in a condition, or what is wrong with the text of it. -/
def conditionNumber (text : String) : Except String Int :=
  match text.toInt? with
  | some n => .ok n
  | none => .error ("Illegal number: " ++ text)

/-- Whether a file is as a condition says; nothing if the operator says nothing of files. -/
def fileIs (t : FileTree) (op name : String) : Option Bool :=
  match op with
  | "-e" | "-r" | "-w" => some (t.contains ⟨name⟩)
  | "-f" => some (t.isFile ⟨name⟩)
  | "-d" => some (t.isDirectory ⟨name⟩)
  | "-s" =>
    some (t.isDirectory ⟨name⟩ || (t.read ⟨name⟩).toOption.any fun bytes => !bytes.isEmpty)
  | "-x" => some (t.isDirectory ⟨name⟩ || (findProgram t ("./" ++ name)).isOk)
  | "-L" | "-h" | "-p" | "-S" | "-b" | "-c" | "-t" => some false
  | _ => none

/-- Whether a condition of up to three words holds, or what is wrong with it. -/
def holdsSimple (t : FileTree) : List String → Except String Bool
  | [] => .ok false
  | [a] => .ok (a ≠ "")
  | ["!", a] => .ok (a = "")
  | ["-n", a] => .ok (a ≠ "")
  | ["-z", a] => .ok (a = "")
  | [op, a] =>
    match fileIs t op a with
    | some b => .ok b
    | none => .error (op ++ ": unexpected operator")
  | [a, "=", b] => .ok (a = b)
  | [a, "!=", b] => .ok (a ≠ b)
  | [a, op, b] =>
    match compareNumbers? op with
    | some compare => do return compare (← conditionNumber a) (← conditionNumber b)
    | none => .error (op ++ ": unexpected operator")
  | a :: _ => .error (a ++ ": unexpected operator")

/-- Whether a condition holds, or what is wrong with it. A negation in front concerns all words
behind it. -/
def holds (t : FileTree) (words : List String) : Except String Bool :=
  if words.length ≤ 3 ∧ words.head? ≠ some "!" then holdsSimple t words
  else
    match words with
    | "!" :: rest => (holds t rest).map not
    | words =>
      let anyOf := words.splitOn "-o"
      let all := fun parts : List (List String) => (parts.mapM (holdsSimple t)).map (·.all id)
      (anyOf.mapM fun part : List String => all (part.splitOn "-a")).map (·.any id)

/-- Two negations in front of `words` cancel out, also of a condition that is an error. -/
theorem holds_not_not (t : FileTree) (words : List String) :
    holds t ("!" :: "!" :: words) = holds t words := by
  have hnot (words : List String) : holds t ("!" :: words) = (holds t words).map not := by
    rw [holds, if_neg fun h => h.2 rfl]
  rw [hnot, hnot]
  cases holds t words <;> simp [Except.map]

end SelectorSearch.Shell
