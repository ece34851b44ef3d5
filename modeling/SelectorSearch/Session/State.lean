/-!
# The State of a Session

A session runs until it completes, fails or is cancelled, and it leaves the running state once
only. Five counters go along with it. They are words of 64 bits and stop at the largest one
instead of wrapping around.

## Main results

* `toNat_addCapped`: addition stops at the largest word.
* `stats_transition`: a transition keeps the counters.
* `run_append`: operations lead on from where those before them have led.
-/

namespace SelectorSearch

/-! ### Counting -/

/-- The largest count, which is the largest word of 64 bits. -/
def countMax : UInt64 := 0xFFFFFFFFFFFFFFFF

/-- The sum of two counts, or `countMax` if the sum is larger: counters saturate and do not wrap
around. -/
def addCapped (a b : UInt64) : UInt64 :=
  if countMax - a < b then countMax else a + b

/-- **Addition stops at the largest word**, so that the number of `addCapped a b` is the smaller of
the sum and `countMax`. -/
theorem toNat_addCapped (a b : UInt64) :
    (addCapped a b).toNat = min (a.toNat + b.toNat) countMax.toNat := by
  have ha := a.toNat_lt
  have hb := b.toNat_lt
  have hmax : countMax.toNat = 0xFFFFFFFFFFFFFFFF := rfl
  have hle : a ≤ countMax := by rw [UInt64.le_iff_toNat_le, hmax]; omega
  have hsub : (countMax - a).toNat = 0xFFFFFFFFFFFFFFFF - a.toNat := by
    rw [UInt64.toNat_sub_of_le _ _ hle, hmax]
  unfold addCapped
  split <;> rename_i h <;> rw [UInt64.lt_iff_toNat_lt, hsub] at h
  · rw [hmax]; omega
  · rw [UInt64.toNat_add]; omega

/-- The counters of a session, which its report shows at the end. -/
structure SessionStats where
  filesProcessed : UInt64 := 0
  totalFiles : UInt64 := 0
  filesWithMatches : UInt64 := 0
  totalMatches : UInt64 := 0
  malformedLines : UInt64 := 0
  deriving DecidableEq, Repr

namespace SessionStats

/-- The number of files is announced. It replaces whatever was announced before, also by less. -/
def recordTotal (s : SessionStats) (total : UInt64) : SessionStats :=
  { s with totalFiles := total }

/-- A file is searched. Of the numbers of files searched the largest one counts, of the totals the
last one. -/
def recordProgress (s : SessionStats) (processed total : UInt64) : SessionStats :=
  { s with filesProcessed := max s.filesProcessed processed, totalFiles := total }

/-- A file has matches: one more file with matches, and `found` more matches. -/
def recordMatch (s : SessionStats) (found : UInt64) : SessionStats :=
  { s with
    filesWithMatches := addCapped s.filesWithMatches 1
    totalMatches := addCapped s.totalMatches found }

/-- A line is malformed, and the counter of such lines goes up by one, up to `countMax`. -/
def recordMalformed (s : SessionStats) : SessionStats :=
  { s with malformedLines := addCapped s.malformedLines 1 }

end SessionStats

/-! ### States -/

/-- The states of a session: `running`, and three states that it can end in. -/
inductive SessionState where
  | running
  /-- The summary has arrived. -/
  | completed
  /-- The process ended before the summary, or could not be supervised. -/
  | failed
  /-- The result view was closed, or the process was stopped. -/
  | cancelled
  deriving DecidableEq, Repr

/-- Whether a state is final. Every state but `running` is. -/
def SessionState.isTerminal : SessionState → Bool
  | .running => false
  | _ => true

/-- The state of a session together with its counters, which are changed by operations only. -/
structure SessionMachine where
  state : SessionState := .running
  stats : SessionStats := {}
  deriving DecidableEq, Repr

namespace SessionMachine

/-- Moves to the `target` state unless the present one is final, and says whether it did. -/
def transition (m : SessionMachine) (target : SessionState) : SessionMachine × Bool :=
  if m.state.isTerminal then (m, false) else ({ m with state := target }, true)

/-- A transition leaves the counters alone, whether it moves the machine or not. -/
theorem stats_transition (m : SessionMachine) (target : SessionState) :
    (m.transition target).1.stats = m.stats := by
  unfold transition
  split <;> rfl

/-- What can be done to a machine: a transition, or the record of a message in the counters. -/
inductive Operation where
  | transition (target : SessionState)
  | total (n : UInt64)
  | progress (processed total : UInt64)
  | found (n : UInt64)
  | malformed
  deriving DecidableEq, Repr

/-- One operation. A transition answers whether it moved the machine; all others answer nothing. -/
def apply (m : SessionMachine) : Operation → SessionMachine × Option Bool
  | .transition target => let (m, moved) := m.transition target; (m, some moved)
  | .total n => ({ m with stats := m.stats.recordTotal n }, none)
  | .progress processed total =>
    ({ m with stats := m.stats.recordProgress processed total }, none)
  | .found n => ({ m with stats := m.stats.recordMatch n }, none)
  | .malformed => ({ m with stats := m.stats.recordMalformed }, none)

/-- Several operations, one after another, with their answers in the same order. -/
def run (m : SessionMachine) : List Operation → SessionMachine × List (Option Bool)
  | [] => (m, [])
  | op :: rest =>
    let (next, answer) := m.apply op
    let (last, answers) := next.run rest
    (last, answer :: answers)

/-- The machine that `run` leads to is the fold of the operations, whatever they answer. -/
theorem run_fst (m : SessionMachine) (ops : List Operation) :
    (m.run ops).1 = ops.foldl (fun m op => (m.apply op).1) m := by
  induction ops generalizing m with
  | nil => rfl
  | cons op rest ih => exact ih _

/-- Operations in two parts `a` and `b`: those of `b` lead on from where those of `a` have led. -/
theorem run_append (m : SessionMachine) (a b : List Operation) :
    (m.run (a ++ b)).1 = ((m.run a).1.run b).1 := by
  simp only [run_fst, List.foldl_append]

end SessionMachine

end SelectorSearch
