import Mathlib.Algebra.GroupWithZero.Nat
import Mathlib.Algebra.Order.BigOperators.Group.List
import Mathlib.Data.List.Pairwise
import SelectorSearch.Proofs.Counting
import SelectorSearch.Proofs.Dialog
import SelectorSearch.Proofs.Drained
import SelectorSearch.Proofs.MessageGrammar
import SelectorSearch.Proofs.Navigation
import SelectorSearch.Proofs.Wire

/-!
# The Counters and the View

A session counts the matches of a file by the number that the message gives, and shows those that
the message lists. That both agree is no matter of the session: the reader lets only consistent
messages through (`Message.Decoded.consistent`). The rest is that a message is shown and counted in
the same step, so that both go by the messages that the session has drained (`Session.Reached`).

The two counters of progress are not tied to each other in this way. The furthest file is a maximum
over all messages, the number of files is the one that was announced last. So the progress is within
the largest number of files that was announced, but within the last one only if no file was further.

## Main results

* `Message.Decoded.consistent`: what a decoder makes of a stream is consistent.
* `SessionWorld.counters_match_view`: the counters against the view.
* `SessionWorld.progress_le_total_iff`: when the progress is within the number of files.
* `SessionWorld.progress_beyond_total`: when it is not.
-/

namespace SelectorSearch

open Session

/-! ### Decoded messages -/

namespace Message

/-- Fields that were read and then `checked` make a consistent message, whichever kind of message
they `make`. -/
theorem consistent_of_read {α : Type} {fields : Except LineError α} {make : α → Message}
    {m : Message} (h : (fields >>= fun a => checked (make a)) = .ok m) : m.Consistent := by
  obtain ⟨a, -, ha⟩ := bind_eq_ok_iff.mp h
  obtain ⟨rfl, hconsistent⟩ := checked_eq_ok_iff.mp ha
  exact hconsistent

/-- A message that can be read from a line is consistent, since it was checked before it was
made. -/
theorem consistent_of_parse {line : String} {m : Message} (h : parse line = .ok m) :
    m.Consistent := by
  unfold parse at h
  split at h
  · cases h
  · next v _ =>
      cases v with
      | object members =>
          simp only [ofValue, ofMembers] at h
          split at h
          case h_5 =>
            cases h
            trivial
          all_goals exact consistent_of_read h
      | _ => cases h

/-- The message of the bytes of a line is consistent, in whatever encoding they are. -/
theorem consistent_of_ofBytes? {line : List UInt8} {m : Message} (h : ofBytes? line = some m) :
    m.Consistent := by
  simp only [ofBytes?, ofLine?] at h
  split at h
  · cases h
  · split at h
    · next hparse =>
        obtain rfl := Option.some.inj h
        exact consistent_of_parse hparse
    · obtain rfl := Option.some.inj h
      trivial

/-- A message that a decoder makes of some stream, which comes to it in some `chunks`. -/
def Decoded (m : Message) : Prop :=
  ∃ chunks, m ∈ LineDecoder.decodeAll chunks

/-- **A message that a decoder makes of a stream is consistent.** -/
theorem Decoded.consistent {m : Message} (h : m.Decoded) : m.Consistent := by
  obtain ⟨chunks, hm⟩ := h
  rw [LineDecoder.decodeAll_eq, ofStream] at hm
  obtain ⟨line, -, hline⟩ := List.mem_filterMap.mp hm
  exact consistent_of_ofBytes? hline

/-- What the search tool can write is what a decoder makes of a stream, namely of the line that the
tool writes. -/
theorem decoded_of_wire (w : WireMessage) : w.message.Decoded := by
  refine ⟨[Utf8.encode (sentText [] (some w))], ?_⟩
  obtain ⟨hlines, hlast⟩ := split_sentText [] (some w)
  rw [LineDecoder.decodeAll_eq, List.flatten_singleton, ofStream_eq, hlines, hlast,
    ofBytes?_openLine]
  exact List.mem_singleton_self _

/-- A message has a file with matches to tell exactly if it is `Message.foundMatch` for this
file. -/
theorem found?_eq_some_iff {m : Message} {found : FoundMatch} :
    m.found? = some found ↔ m = .foundMatch found := by
  cases m <;> simp [found?]

/-- A message has progress to tell exactly if it is `Message.processingFile` for this progress. -/
theorem progress?_eq_some_iff {m : Message} {p : FileProgress} :
    m.progress? = some p ↔ m = .processingFile p := by
  cases m <;> simp [progress?]

/-- A file with matches among decoded messages lists as many matches as it counts, and at least
one. -/
theorem length_details_of_decoded {messages : List Message} (h : ∀ m ∈ messages, m.Decoded)
    {found : FoundMatch} (hfound : found ∈ messages.filterMap found?) :
    found.details.length = found.matchCount.toNat ∧ 1 ≤ found.details.length := by
  obtain ⟨m, hm, hkind⟩ := List.mem_filterMap.mp hfound
  obtain rfl := found?_eq_some_iff.mp hkind
  obtain ⟨hcount, hlength, -⟩ := (h _ hm).consistent
  have hpos : found.matchCount.toNat ≠ 0 := fun h0 => hcount (UInt64.toNat_inj.mp h0)
  exact ⟨hlength, by omega⟩

/-- Progress among decoded messages is within the number of files that it announces, and that number
is one of those `announced?`. -/
theorem progress_of_decoded {messages : List Message} (h : ∀ m ∈ messages, m.Decoded)
    {p : FileProgress} (hp : p ∈ messages.filterMap progress?) :
    p.fileNumber ≤ p.numberOfFiles ∧ p.numberOfFiles ∈ messages.filterMap announced? := by
  obtain ⟨m, hm, hkind⟩ := List.mem_filterMap.mp hp
  obtain rfl := progress?_eq_some_iff.mp hkind
  exact ⟨(h _ hm).consistent, List.mem_filterMap.mpr ⟨_, hm, rfl⟩⟩

end Message

/-- What is shown up to the first summary are the first ones of the `messages`. -/
theorem uptoSummary_isPrefix (messages : List Message) : uptoSummary messages <+: messages := by
  induction messages with
  | nil => exact List.prefix_refl []
  | cons m rest ih =>
      rw [uptoSummary]
      split
      · exact ⟨rest, rfl⟩
      · exact (List.prefix_cons_inj m).mpr ih

/-! ### The counters -/

/-- Behind its header, the block of a file has one label for each match, with the number of its
line. -/
theorem ResultText.filterMap_number?_tail (m : FoundMatch) :
    (resultLines m).tail.filterMap ResultLine.number? = m.details.map (lineDigits ·.line) :=
  filterMap_number?_resultLines m

namespace SessionWorld

/-- A run of a new session with only decoded messages around drains only decoded messages, and
leaves the others queued. -/
theorem reached_run_decoded {around : Session.Surroundings} {steps : List SessionStep}
    (h : ∀ m ∈ around.queued ++ steps.filterMap SessionStep.message?, m.Decoded) :
    ∃ drained, around.queued ++ steps.filterMap SessionStep.message? =
        drained ++ (({ around } : SessionWorld).run steps).1.around.queued ∧
      Reached drained (({ around } : SessionWorld).run steps).1.session
        (({ around } : SessionWorld).run steps).2 ∧
      ∀ m ∈ uptoSummary drained, m.Decoded := by
  obtain ⟨drained, hqueued, hreached⟩ := reached_run_new around steps
  refine ⟨drained, hqueued, hreached, fun m hm => h m ?_⟩
  rw [hqueued]
  exact List.mem_append_left _ ((uptoSummary_isPrefix drained).subset hm)

/-- **The counters agree with what is shown.** At any moment of any run, with only decoded messages
around, let some messages be drained and the others still be in the queue. The session has appended
to the view what it has drained up to the first summary, and counted the same messages: the files
are the blocks in the view and the matches their labels, the malformed lines are those that it
keeps, each as far as a word goes, and there are no fewer matches than files. The number of files is
the last one announced, and the progress is the largest file number, both zero if there is none. -/
theorem counters_match_view (around : Session.Surroundings) (steps : List SessionStep)
    (hdecoded : ∀ m ∈ around.queued ++ steps.filterMap SessionStep.message?, m.Decoded) :
    let start : SessionWorld := { around }
    let w := (start.run steps).1
    let effects := (start.run steps).2
    let stats := w.session.machine.stats
    ∃ drained, around.queued ++ steps.filterMap SessionStep.message? =
        drained ++ w.around.queued ∧
      let applied := uptoSummary drained
      let blocks := applied.filterMap Message.found?
      effects = shown applied ++ w.session.lastEffects ∧
      effects.filterMap SessionEffect.appended? = applied.filterMap (·.render.body) ∧
      (∀ m ∈ blocks, (Message.foundMatch m).render.body = some (matchBlock m) ∧
        ResultText.lines (matchBlock m) = ResultText.lines (fileHeader m) ++
          (ResultText.resultLines m).tail.map ResultText.ResultLine.text ∧
        (ResultText.resultLines m).tail.filterMap ResultText.ResultLine.number? =
          m.details.map (ResultText.lineDigits ·.line)) ∧
      stats.filesWithMatches.toNat = min blocks.length 0xFFFFFFFFFFFFFFFF ∧
      stats.totalMatches.toNat = min (blocks.map (·.details.length)).sum 0xFFFFFFFFFFFFFFFF ∧
      stats.malformedLines.toNat = min w.session.malformed.length 0xFFFFFFFFFFFFFFFF ∧
      w.session.malformed = applied.filterMap malformedText? ∧
      stats.filesWithMatches ≤ stats.totalMatches ∧
      stats.totalFiles = (applied.filterMap Message.announced?).getLast?.getD 0 ∧
      stats.filesProcessed.toNat =
        ((applied.filterMap Message.progress?).map (·.fileNumber.toNat)).max?.getD 0 := by
  intro start w effects stats
  obtain ⟨drained, hqueued, hreached, happlied⟩ := reached_run_decoded hdecoded
  refine ⟨drained, hqueued, ?_⟩
  intro applied blocks
  have hstats : stats = (applied.foldl count {}).stats := hreached.stats_eq
  have hfiles : stats.filesWithMatches.toNat = min blocks.length countMax.toNat := by
    rw [hstats, filesWithMatches_foldl]
    exact congrArg (min · _) (Nat.zero_add _)
  have hlengths : blocks.map (·.matchCount.toNat) = blocks.map (·.details.length) :=
    List.map_congr_left fun m hm => (Message.length_details_of_decoded happlied hm).1.symm
  have hmatches : stats.totalMatches.toNat =
      min (blocks.map (·.details.length)).sum countMax.toNat := by
    rw [hstats, totalMatches_foldl, ← hlengths]
    exact congrArg (min · _) (Nat.zero_add _)
  have hle : blocks.length ≤ (blocks.map (·.details.length)).sum := by
    have hpos : ∀ n ∈ blocks.map (·.details.length), 1 ≤ n := List.forall_mem_map.mpr
      fun m hm => (Message.length_details_of_decoded happlied hm).2
    simpa using List.length_le_sum_of_one_le _ hpos
  have hmalformed : w.session.malformed = applied.filterMap malformedText? := hreached.malformed_eq
  refine ⟨hreached.effects_eq, hreached.appended_eq, ?_, hfiles, hmatches, ?_, hmalformed, ?_, ?_,
    ?_⟩
  · exact fun m _ => ⟨rfl, ResultText.lines_matchBlock_eq_append m,
      ResultText.filterMap_number?_tail m⟩
  · rw [hstats, malformedLines_foldl, hmalformed]
    exact congrArg (min · _) (Nat.zero_add _)
  · rw [UInt64.le_iff_toNat_le, hfiles, hmatches]
    omega
  · rw [hstats, totalFiles_foldl]
  · rw [hstats, filesProcessed_foldl, List.foldl_max]
    exact Nat.zero_max _

/-- A file that is found after the summary, and one that arrives after the end. -/
theorem counters_before_late_match :
    let found : FoundMatch := ⟨"a.html", 2, [⟨3, "<p>"⟩, ⟨9, "<b>"⟩]⟩
    let steps : List SessionStep := [.push (.processingFile ⟨1, 2⟩), .push (.foundMatch found),
      .tick, .push (.malformed "oops"), .push (.complete ⟨"Done", 2, 1⟩),
      .push (.foundMatch found), .tick, .push (.foundMatch found)]
    let w := (({} : SessionWorld).run steps).1
    w.around.queued = [.foundMatch found] ∧
      (({} : SessionWorld).run steps).2.filterMap SessionEffect.appended? =
        [matchBlock found, "Done"] ∧
      w.session.machine.stats.filesWithMatches.toNat = 1 ∧
      w.session.machine.stats.totalMatches.toNat = 2 ∧
      w.session.machine.stats.malformedLines.toNat = 1 := by
  intro found steps w
  have hfound : (Message.foundMatch found).Decoded :=
    Message.decoded_of_wire ⟨.foundMatch found, rfl, by decide⟩
  have hprogress : (Message.processingFile ⟨1, 2⟩).Decoded :=
    Message.decoded_of_wire ⟨.processingFile ⟨1, 2⟩, rfl, by decide⟩
  have hdone : (Message.complete ⟨"Done", 2, 1⟩).Decoded :=
    Message.decoded_of_wire ⟨.complete ⟨"Done", 2, 1⟩, rfl, trivial⟩
  have hoops : (Message.malformed "oops").Decoded :=
    ⟨[[0x6F, 0x6F, 0x70, 0x73]], by decide +kernel⟩
  let arrived : List Message := [.processingFile ⟨1, 2⟩, .foundMatch found, .malformed "oops",
    .complete ⟨"Done", 2, 1⟩, .foundMatch found, .foundMatch found]
  have hdecoded : ∀ m ∈ arrived, m.Decoded := by
    simp [arrived, hfound, hprogress, hdone, hoops]
  obtain ⟨drained, hdrained, -, happended, -, hfiles, hmatches, hmalformed, hkept, -⟩ :=
    counters_match_view {} steps hdecoded
  obtain rfl : drained = arrived.dropLast :=
    List.append_cancel_right (hdrained.symm.trans rfl)
  rw [hkept] at hmalformed
  exact ⟨rfl, happended, hfiles, hmatches, hmalformed⟩

/-- **How far the progress goes.** At any moment of any run, with only decoded messages around, the
furthest file is within the largest number of files that was announced. It is within the number of
files that was announced last exactly if every file was, which is so whenever the announced numbers
never became smaller. A report has the same counters. -/
theorem progress_le_total_iff (around : Session.Surroundings) (steps : List SessionStep)
    (hdecoded : ∀ m ∈ around.queued ++ steps.filterMap SessionStep.message?, m.Decoded) :
    let start : SessionWorld := { around }
    let w := (start.run steps).1
    let stats := w.session.machine.stats
    ∃ drained, around.queued ++ steps.filterMap SessionStep.message? =
        drained ++ w.around.queued ∧
      let totals := (uptoSummary drained).filterMap Message.announced?
      let reported := (uptoSummary drained).filterMap Message.progress?
      stats.filesProcessed.toNat ≤ (totals.map UInt64.toNat).max?.getD 0 ∧
      stats.totalFiles = totals.getLast?.getD 0 ∧
      (stats.filesProcessed ≤ stats.totalFiles ↔
        ∀ p ∈ reported, p.fileNumber ≤ stats.totalFiles) ∧
      (totals.Pairwise (· ≤ ·) → stats.filesProcessed ≤ stats.totalFiles) ∧
      ∀ report, w.session.report = some report → report.stats = stats := by
  intro start w stats
  obtain ⟨drained, hqueued, hreached, happlied⟩ := reached_run_decoded hdecoded
  refine ⟨drained, hqueued, ?_⟩
  intro totals reported
  have hwithin : ∀ p ∈ reported, p.fileNumber ≤ p.numberOfFiles ∧ p.numberOfFiles ∈ totals :=
    fun p hp => Message.progress_of_decoded happlied hp
  have hstats : stats = ((uptoSummary drained).foldl count {}).stats := hreached.stats_eq
  have hbound : ∀ bound : Nat, stats.filesProcessed.toNat ≤ bound ↔
      ∀ p ∈ reported, p.fileNumber.toNat ≤ bound := by
    intro bound
    rw [hstats, filesProcessed_foldl_le_iff]
    exact and_iff_right (Nat.zero_le _)
  have htotal : stats.totalFiles = totals.getLast?.getD 0 := by
    rw [hstats, totalFiles_foldl]
  have hlast : stats.filesProcessed ≤ stats.totalFiles ↔
      ∀ p ∈ reported, p.fileNumber ≤ stats.totalFiles := by
    simp only [UInt64.le_iff_toNat_le, hbound]
  refine ⟨?_, htotal, hlast, ?_, fun report hreport => (hreached.of_report hreport).1⟩
  · refine (hbound _).mpr fun p hp => ?_
    obtain ⟨hle, hmem⟩ := hwithin p hp
    exact (UInt64.le_iff_toNat_le.mp hle).trans
      (List.le_max?_getD_of_mem (List.mem_map_of_mem hmem))
  · intro hsorted
    refine hlast.mpr fun p hp => ?_
    obtain ⟨hle, hmem⟩ := hwithin p hp
    have hne : totals ≠ [] := List.ne_nil_of_mem hmem
    rw [htotal, List.getLast?_eq_some_getLast hne, Option.getD_some]
    exact UInt64.le_trans hle
      (hsorted.rel_getLast_of_rel_getLast_getLast hmem (UInt64.le_refl _))

/-- Two files of the same five, the further one first. -/
theorem progress_le_total_of_repeat :
    let steps : List SessionStep := [.push (.processingFile ⟨4, 5⟩), .tick,
      .push (.processingFile ⟨2, 5⟩), .tick]
    let stats := (({} : SessionWorld).run steps).1.session.machine.stats
    stats.filesProcessed ≤ stats.totalFiles := by
  intro steps stats
  have hfar : (Message.processingFile ⟨4, 5⟩).Decoded :=
    Message.decoded_of_wire ⟨.processingFile ⟨4, 5⟩, rfl, by decide⟩
  have hnear : (Message.processingFile ⟨2, 5⟩).Decoded :=
    Message.decoded_of_wire ⟨.processingFile ⟨2, 5⟩, rfl, by decide⟩
  let arrived : List Message := [.processingFile ⟨4, 5⟩, .processingFile ⟨2, 5⟩]
  have hdecoded : ∀ m ∈ arrived, m.Decoded := by simp [arrived, hfar, hnear]
  obtain ⟨drained, hdrained, -, -, -, hsorted, -⟩ := progress_le_total_iff {} steps hdecoded
  obtain rfl : drained = arrived := List.append_cancel_right (hdrained.symm.trans rfl)
  exact hsorted (by decide)

/-- Decoded messages that announce fewer files after more have been searched. The session has then
searched five files of three, and so says its report. -/
theorem progress_beyond_total :
    let messages : List Message := [.processingFile ⟨5, 5⟩, .countedFiles ⟨3, "", "", "", ""⟩,
      .complete ⟨"Done", 0, 0⟩]
    let w := (({} : SessionWorld).run (messages.map .push ++ [.tick])).1
    (∀ m ∈ messages, m.Decoded) ∧
      ∃ report, w.session.report = some report ∧ report.stats.filesProcessed = 5 ∧
        report.stats.totalFiles = 3 ∧
        ¬w.session.machine.stats.filesProcessed ≤ w.session.machine.stats.totalFiles := by
  intro messages w
  have hprogress : (Message.processingFile ⟨5, 5⟩).Decoded :=
    Message.decoded_of_wire ⟨.processingFile ⟨5, 5⟩, rfl, by decide⟩
  have hcounted : (Message.countedFiles ⟨3, "", "", "", ""⟩).Decoded :=
    Message.decoded_of_wire ⟨.countedFiles ⟨3, "", "", "", ""⟩, rfl, trivial⟩
  have hdone : (Message.complete ⟨"Done", 0, 0⟩).Decoded :=
    Message.decoded_of_wire ⟨.complete ⟨"Done", 0, 0⟩, rfl, trivial⟩
  exact ⟨by simp [messages, hprogress, hcounted, hdone], _, rfl, rfl, rfl, by decide⟩

end SessionWorld

end SelectorSearch
