import Mathlib.Algebra.GroupWithZero.Nat
import Mathlib.Data.List.Perm.Basic
import SelectorSearch.Session.State

/-!
# A Machine after Any Operations

Where operations lead can be said without following them one by one. The state is the first final
one that a transition asks for. The counters are words that stop at the largest one, and stopping
does no harm: as soon as every single step adds a weight and stops, the whole run adds the sum of
the weights and stops (`toNat_foldl_capped`), so it does not matter when the limit is reached, nor
in which order the operations come. What remains to be said of each counter is the weight of one
operation.

The two counters of progress do not add up. One is overwritten by every operation that announces a
number of files, the other one is a running maximum.

## Main results

* `toNat_foldl_capped`: steps that add and stop add up to a sum that stops.
* `state_run`, `getElem?_answers`: the state and the answers, by the first final target.
* `filesWithMatches_run`, `totalMatches_run`, `malformedLines_run`: the counters that add up.
* `totalFiles_run`, `filesProcessed_run`: the last announcement and the furthest file count.
* `atMost_run`, `stats_run_of_perm`: the counters later, and after another order of operations.
* `state_answers_and_counters`: all of this of a new machine.
-/

namespace SelectorSearch

/-! ### Adding up to a limit -/

/-- No count is larger than `countMax`, since that is the largest word. -/
theorem le_countMax (n : UInt64) : n.toNat ≤ countMax.toNat := by
  have hlt := n.toNat_lt
  have hmax : countMax.toNat = 0xFFFFFFFFFFFFFFFF := rfl
  omega

/-- A count that `more` is added to, up to `countMax`, does not become smaller. -/
theorem le_min_add_countMax (n : UInt64) (more : Nat) :
    n.toNat ≤ min (n.toNat + more) countMax.toNat :=
  Nat.le_min.mpr ⟨Nat.le_add_right _ _, le_countMax n⟩

/-- If every `step` adds the `weight` of its item to a counter and stops at `countMax`, then several
steps add the sum of the weights and stop there too. -/
theorem toNat_foldl_capped {σ α : Type} {step : σ → α → σ} (counter : σ → UInt64)
    (weight : α → Nat)
    (hstep : ∀ s a, (counter (step s a)).toNat =
      min ((counter s).toNat + weight a) countMax.toNat)
    (items : List α) (s : σ) :
    (counter (items.foldl step s)).toNat =
      min ((counter s).toNat + (items.map weight).sum) countMax.toNat := by
  induction items generalizing s with
  | nil =>
      have hle := le_countMax (counter s)
      simp [hle]
  | cons a rest ih =>
      rw [List.foldl_cons, ih, hstep, List.map_cons, List.sum_cons]
      omega

/-- Weights of one for each item of the kind `p` add up to the number of such items. -/
theorem sum_map_toNat {α : Type} (p : α → Bool) (items : List α) :
    (items.map fun a => (p a).toNat).sum = items.countP p := by
  induction items with
  | nil => rfl
  | cons a rest ih => cases h : p a <;> simp [h, ih, Nat.add_comm]

/-- The weights of those items that `kind?` gives one add up to the sum over these items alone. -/
theorem sum_map_elim {α β : Type} (kind? : α → Option β) (weight : β → Nat) (items : List α) :
    (items.map fun a => (kind? a).elim 0 weight).sum =
      ((items.filterMap kind?).map weight).sum := by
  induction items with
  | nil => rfl
  | cons a rest ih => cases h : kind? a <;> simp [h, ih]

/-- No counter is larger in `s` than in `t`, the number of files set aside, which can go either
way. -/
structure SessionStats.AtMost (s t : SessionStats) : Prop where
  filesProcessed : s.filesProcessed ≤ t.filesProcessed
  filesWithMatches : s.filesWithMatches ≤ t.filesWithMatches
  totalMatches : s.totalMatches ≤ t.totalMatches
  malformedLines : s.malformedLines ≤ t.malformedLines

namespace SessionMachine

/-! ### Operations by what they do -/

namespace Operation

/-- The state that an operation asks for, which only a transition does. -/
def target? : Operation → Option SessionState
  | .transition target => some target
  | _ => none

/-- The matches of the file with matches that an operation is about, if it is about one. -/
def found? : Operation → Option UInt64
  | .found n => some n
  | _ => none

/-- How far the search has come, if the operation reports progress. -/
def processed? : Operation → Option UInt64
  | .progress processed _ => some processed
  | _ => none

/-- The number of files that an operation announces, on its own or together with progress. -/
def total? : Operation → Option UInt64
  | .total n => some n
  | .progress _ n => some n
  | _ => none

end Operation

/-- The first final state that a transition among `ops` asks for, if one asks for a final state at
all. -/
def firstFinal? (ops : List Operation) : Option SessionState :=
  (ops.filterMap Operation.target?).find? (·.isTerminal)

/-! ### The state and the answers -/

/-- One operation changes the state only if it is a transition, and only if the present state is not
final. -/
theorem state_apply (m : SessionMachine) (op : Operation) :
    (m.apply op).1.state = if m.state.isTerminal then m.state else op.target?.getD m.state := by
  obtain ⟨state, stats⟩ := m
  cases op with
  | transition target => cases state <;> rfl
  | _ => exact (ite_self state).symm

/-- Only a transition is answered, and the answer is whether there was a state to leave. -/
theorem apply_snd (m : SessionMachine) (op : Operation) :
    (m.apply op).2 = op.target?.map fun _ => !m.state.isTerminal := by
  cases op with
  | transition target =>
      change some (m.transition target).2 = some (!m.state.isTerminal)
      unfold transition
      split <;> simp [*]
  | _ => rfl

/-- **Operations lead to the first final state among the one before them and those that they ask
for**, and to `running` if there is none. A final state stays in front of all targets, and any other
one gives way to the first of them. -/
theorem state_run (m : SessionMachine) (ops : List Operation) :
    (m.run ops).1.state =
      ((m.state :: ops.filterMap Operation.target?).find? (·.isTerminal)).getD .running := by
  induction ops generalizing m with
  | nil => cases h : m.state <;> simp [run, h, SessionState.isTerminal]
  | cons op rest ih =>
      have hrun : (m.run (op :: rest)).1 = ((m.apply op).1.run rest).1 := rfl
      rw [hrun, ih, state_apply]
      cases hfinal : m.state.isTerminal <;> cases htarget : op.target? <;>
        simp [hfinal, htarget, List.find?_cons]

/-- The state that operations give to a new machine is their `firstFinal?`, if they ask for a final
state. -/
theorem state_run_new (ops : List Operation) :
    (({} : SessionMachine).run ops).1.state = (firstFinal? ops).getD .running :=
  state_run {} ops

/-- A new machine is in a final state after `ops` exactly if one of them has asked for a final
state. -/
theorem isTerminal_run_new (ops : List Operation) :
    (({} : SessionMachine).run ops).1.state.isTerminal = (firstFinal? ops).isSome := by
  rw [state_run_new]
  cases h : firstFinal? ops with
  | none => rfl
  | some final => exact List.find?_some h

/-- The answer at place `i` is the one that the machine gives after the operations before `i`. -/
theorem getElem?_run_snd (m : SessionMachine) (ops : List Operation) (i : Nat) :
    (m.run ops).2[i]? = ops[i]?.map fun op => ((m.run (ops.take i)).1.apply op).2 := by
  induction ops generalizing m i with
  | nil => rfl
  | cons op rest ih =>
      cases i with
      | zero => rfl
      | succ i => exact ih _ i

/-- **A new machine answers to transitions only**, and with `true` as long as none before has asked
for a final state. -/
theorem getElem?_answers (ops : List Operation) (i : Nat) :
    (({} : SessionMachine).run ops).2[i]? =
      ops[i]?.map fun op => op.target?.map fun _ => (firstFinal? (ops.take i)).isNone := by
  simp only [getElem?_run_snd, apply_snd, isTerminal_run_new, Option.not_isSome]

/-! ### One operation and the counters -/

/-- What each operation does to the counters, where a transition does nothing to them. -/
theorem stats_apply (m : SessionMachine) (op : Operation) :
    (m.apply op).1.stats =
      match op with
      | .transition _ => m.stats
      | .total n => m.stats.recordTotal n
      | .progress processed total => m.stats.recordProgress processed total
      | .found n => m.stats.recordMatch n
      | .malformed => m.stats.recordMalformed := by
  cases op with
  | transition target => exact stats_transition m target
  | _ => rfl

/-- One operation adds one to the files with matches, up to `countMax`, if it is about such a
file. -/
theorem filesWithMatches_apply (m : SessionMachine) (op : Operation) :
    (m.apply op).1.stats.filesWithMatches.toNat =
      min (m.stats.filesWithMatches.toNat + op.found?.isSome.toNat) countMax.toNat := by
  have hle := le_countMax m.stats.filesWithMatches
  rw [stats_apply]
  obtain ⟨state, processed, total, files, found, malformed⟩ := m
  cases op with
  | found n =>
      simp only [SessionStats.recordMatch, Operation.found?, toNat_addCapped, UInt64.toNat_one,
        Option.isSome_some, Bool.toNat_true]
  | _ =>
      simp only [SessionStats.recordTotal, SessionStats.recordProgress,
        SessionStats.recordMalformed, Operation.found?, Option.isSome_none, Bool.toNat_false,
        Nat.add_zero, Nat.min_eq_left hle]

/-- One operation adds to the matches as many as it says that were found, up to `countMax`. -/
theorem totalMatches_apply (m : SessionMachine) (op : Operation) :
    (m.apply op).1.stats.totalMatches.toNat =
      min (m.stats.totalMatches.toNat + op.found?.elim 0 (·.toNat)) countMax.toNat := by
  have hle := le_countMax m.stats.totalMatches
  rw [stats_apply]
  obtain ⟨state, processed, total, files, found, malformed⟩ := m
  cases op with
  | found n =>
      simp only [SessionStats.recordMatch, Operation.found?, toNat_addCapped, Option.elim_some]
  | _ =>
      simp only [SessionStats.recordTotal, SessionStats.recordProgress,
        SessionStats.recordMalformed, Operation.found?, Option.elim_none, Nat.add_zero,
        Nat.min_eq_left hle]

/-- One operation adds one to the malformed lines, up to `countMax`, if it is about such a line. -/
theorem malformedLines_apply (m : SessionMachine) (op : Operation) :
    (m.apply op).1.stats.malformedLines.toNat =
      min (m.stats.malformedLines.toNat + (op == .malformed).toNat) countMax.toNat := by
  have hle := le_countMax m.stats.malformedLines
  rw [stats_apply]
  obtain ⟨state, processed, total, files, found, malformed⟩ := m
  cases op with
  | malformed =>
      simp only [SessionStats.recordMalformed, toNat_addCapped, UInt64.toNat_one, BEq.rfl,
        Bool.toNat_true]
  | _ =>
      simp only [SessionStats.recordTotal, SessionStats.recordProgress, SessionStats.recordMatch,
        beq_eq_false_iff_ne.mpr, ne_eq, reduceCtorEq, not_false_eq_true, Bool.toNat_false,
        Nat.add_zero, Nat.min_eq_left hle]

/-- One operation overwrites the number of files if it announces one, and leaves it otherwise. -/
theorem totalFiles_apply (m : SessionMachine) (op : Operation) :
    (m.apply op).1.stats.totalFiles = op.total?.getD m.stats.totalFiles := by
  rw [stats_apply]
  obtain ⟨state, processed, total, files, found, malformed⟩ := m
  cases op <;> rfl

/-- One operation moves the furthest file if it reports one that is further, and leaves it
otherwise. -/
theorem filesProcessed_apply (m : SessionMachine) (op : Operation) :
    (m.apply op).1.stats.filesProcessed.toNat =
      op.processed?.elim m.stats.filesProcessed.toNat
        fun n => max m.stats.filesProcessed.toNat n.toNat := by
  rw [stats_apply]
  obtain ⟨state, processed, total, files, found, malformed⟩ := m
  cases op with
  | progress processed total => exact UInt64.toNat_max _ _
  | _ => rfl

/-! ### Several operations and the counters -/

/-- Operations count the files with matches that they are about, up to `countMax` and no further. -/
theorem filesWithMatches_run (m : SessionMachine) (ops : List Operation) :
    (m.run ops).1.stats.filesWithMatches.toNat =
      min (m.stats.filesWithMatches.toNat + (ops.filterMap Operation.found?).length)
        countMax.toNat := by
  rw [run_fst, List.length_filterMap_eq_countP, ← sum_map_toNat]
  exact toNat_foldl_capped (·.stats.filesWithMatches) _ filesWithMatches_apply ops m

/-- Operations count the matches of all files that they are about, up to `countMax` and no
further. -/
theorem totalMatches_run (m : SessionMachine) (ops : List Operation) :
    (m.run ops).1.stats.totalMatches.toNat =
      min (m.stats.totalMatches.toNat + ((ops.filterMap Operation.found?).map (·.toNat)).sum)
        countMax.toNat := by
  rw [run_fst, ← sum_map_elim]
  exact toNat_foldl_capped (·.stats.totalMatches) _ totalMatches_apply ops m

/-- Operations count the malformed lines that they are about, up to `countMax` and no further. -/
theorem malformedLines_run (m : SessionMachine) (ops : List Operation) :
    (m.run ops).1.stats.malformedLines.toNat =
      min (m.stats.malformedLines.toNat + ops.count .malformed) countMax.toNat := by
  rw [run_fst, List.count, ← sum_map_toNat]
  exact toNat_foldl_capped (·.stats.malformedLines) _ malformedLines_apply ops m

/-- After some operations the number of files is the one that was announced last, or the one before
them. -/
theorem totalFiles_run (m : SessionMachine) (ops : List Operation) :
    (m.run ops).1.stats.totalFiles =
      (ops.filterMap Operation.total?).getLast?.getD m.stats.totalFiles := by
  rw [run_fst]
  induction ops generalizing m with
  | nil => rfl
  | cons op rest ih =>
      rw [List.foldl_cons, ih, totalFiles_apply]
      cases h : op.total? <;> simp [h, List.getLast?_cons]

/-- After some operations the furthest file is the largest one of those reported and of the one
before them. -/
theorem filesProcessed_run (m : SessionMachine) (ops : List Operation) :
    (m.run ops).1.stats.filesProcessed.toNat =
      ((ops.filterMap Operation.processed?).map (·.toNat)).foldl max
        m.stats.filesProcessed.toNat := by
  rw [run_fst]
  induction ops generalizing m with
  | nil => rfl
  | cons op rest ih =>
      rw [List.foldl_cons, ih, filesProcessed_apply]
      cases h : op.processed? <;> simp [h]

/-! ### Later, and in another order -/

/-- **Counters do not go down**: operations take nothing away from the counters, the number of files
set aside. -/
theorem atMost_run (m : SessionMachine) (ops : List Operation) :
    m.stats.AtMost (m.run ops).1.stats where
  filesProcessed := by
    rw [UInt64.le_iff_toNat_le, filesProcessed_run, List.foldl_max]
    exact Nat.le_max_left _ _
  filesWithMatches := by
    rw [UInt64.le_iff_toNat_le, filesWithMatches_run]
    exact le_min_add_countMax _ _
  totalMatches := by
    rw [UInt64.le_iff_toNat_le, totalMatches_run]
    exact le_min_add_countMax _ _
  malformedLines := by
    rw [UInt64.le_iff_toNat_le, malformedLines_run]
    exact le_min_add_countMax _ _

/-- **The order does not matter**: operations in another order lead to the same counters, the number
of files set aside. -/
theorem stats_run_of_perm (m : SessionMachine) {ops other : List Operation}
    (h : ops.Perm other) :
    (m.run other).1.stats.recordTotal (m.run ops).1.stats.totalFiles = (m.run ops).1.stats := by
  have hfound := h.filterMap Operation.found?
  have hprocessed := (h.filterMap Operation.processed?).map (·.toNat)
  have hfiles : (m.run other).1.stats.filesWithMatches = (m.run ops).1.stats.filesWithMatches := by
    rw [← UInt64.toNat_inj, filesWithMatches_run, filesWithMatches_run, hfound.length_eq]
  have hmatches : (m.run other).1.stats.totalMatches = (m.run ops).1.stats.totalMatches := by
    rw [← UInt64.toNat_inj, totalMatches_run, totalMatches_run, (hfound.map (·.toNat)).sum_nat]
  have hmalformed : (m.run other).1.stats.malformedLines = (m.run ops).1.stats.malformedLines := by
    rw [← UInt64.toNat_inj, malformedLines_run, malformedLines_run, h.count_eq]
  have hfurthest : (m.run other).1.stats.filesProcessed = (m.run ops).1.stats.filesProcessed := by
    rw [← UInt64.toNat_inj, filesProcessed_run, filesProcessed_run, hprocessed.foldl_eq]
  rw [SessionStats.recordTotal, hfiles, hmatches, hmalformed, hfurthest]

/-! ### A new machine -/

/-- **Where operations lead.** The state of a new machine after any operations is the first final
one that a transition asked for, and the machine goes on running if there is none. A transition is
answered with true as long as none before it has asked for a final state, and leaves the counters
alone. The files with matches, their matches and the malformed lines are counted up to the largest
count and no further, the progress is the largest one reported, and the number of files is the one
that was announced last. No counter but the number of files becomes smaller by further operations,
and none but that one depends on the order of the operations. -/
theorem state_answers_and_counters (ops : List Operation) :
    let start : SessionMachine := {}
    let m := (start.run ops).1
    let answers := (start.run ops).2
    m.state = (firstFinal? ops).getD .running ∧
      (∀ i : Nat, answers[i]? = ops[i]?.map fun op : Operation =>
        op.target?.map fun _ => (firstFinal? (ops.take i)).isNone) ∧
      (∀ target, (m.apply (.transition target)).1.stats = m.stats) ∧
      m.stats.filesWithMatches.toNat =
        min (ops.filterMap Operation.found?).length 0xFFFFFFFFFFFFFFFF ∧
      m.stats.totalMatches.toNat =
        min ((ops.filterMap Operation.found?).map (·.toNat)).sum 0xFFFFFFFFFFFFFFFF ∧
      m.stats.malformedLines.toNat = min (ops.count .malformed) 0xFFFFFFFFFFFFFFFF ∧
      m.stats.filesProcessed.toNat =
        ((ops.filterMap Operation.processed?).map (·.toNat)).max?.getD 0 ∧
      m.stats.totalFiles = (ops.filterMap Operation.total?).getLast?.getD 0 ∧
      (∀ more, m.stats.AtMost (start.run (ops ++ more)).1.stats) ∧
      ∀ other, ops.Perm other →
        (start.run other).1.stats.recordTotal m.stats.totalFiles = m.stats := by
  intro start m answers
  refine ⟨state_run_new ops, getElem?_answers ops, fun target => stats_apply m _, ?_, ?_, ?_, ?_,
    totalFiles_run start ops, fun more => ?_, fun other => stats_run_of_perm start⟩
  · exact (filesWithMatches_run start ops).trans (congrArg (min · _) (Nat.zero_add _))
  · exact (totalMatches_run start ops).trans (congrArg (min · _) (Nat.zero_add _))
  · exact (malformedLines_run start ops).trans (congrArg (min · _) (Nat.zero_add _))
  · rw [filesProcessed_run, List.foldl_max]
    exact Nat.zero_max _
  · rw [run_append]
    exact atMost_run m more

/-- A search that goes on behind its end and past the largest count, and the same backwards. -/
theorem state_answers_and_counters_at_limit :
    let ops : List Operation := [.found countMax, .transition .running, .progress 3 5,
      .transition .cancelled, .found 7, .progress 2 4, .malformed, .transition .completed]
    let start : SessionMachine := {}
    ops.Perm ops.reverse ∧
      (start.run ops).1.state = .cancelled ∧
      (start.run ops).2[3]? = some (some true) ∧
      (start.run ops).2[7]? = some (some false) ∧
      (start.run ops).1.stats.totalMatches.toNat = 0xFFFFFFFFFFFFFFFF ∧
      (start.run ops).1.stats.totalFiles = 4 ∧
      (start.run ops.reverse).1.stats.recordTotal 4 = (start.run ops).1.stats := by
  intro ops start
  have hperm : ops.Perm ops.reverse := (List.reverse_perm ops).symm
  obtain ⟨hstate, hanswers, -, -, hmatches, -, -, htotal, -, hreorder⟩ :=
    state_answers_and_counters ops
  have hlast : (start.run ops).1.stats.totalFiles = 4 := htotal
  have hreversed := hreorder ops.reverse hperm
  rw [hlast] at hreversed
  exact ⟨hperm, hstate, hanswers 3, hanswers 7, hmatches.trans (by decide), hlast, hreversed⟩

end SessionMachine

end SelectorSearch
