import SelectorSearch.Proofs.Counting
import SelectorSearch.Proofs.LineDecoder
import SelectorSearch.Proofs.Race
import SelectorSearch.Session.WatchedRace

/-!
# What the User Is Told

The lines of the standard output that are no messages travel a long way to the dialog at the end:
they are cut out of the chunks, read as text, queued, counted and kept by the session, and listed
in the report. `invalidLines` says what should arrive, from the bytes alone: of the lines before
the first summary those that are neither blank nor messages.

The lines are followed backwards. What a session keeps of some messages is a matter of the messages
up to the first summary (`Race.run_stands`), those of the stream are the messages of its lines, and
line by line the text that is kept is the text of the line (`bind_malformedText?`). A view that is
closed on the way only matters to a session that is cancelled (`WatchedRace.race_or_cancelled`).

## Main results

* `malformed_of_stream`: what a session keeps of the messages of a stream.
* `WatchedRace.race_or_cancelled`: a run of a watched race is one of the race, or is cancelled.
* `SessionReport.errorMessage_eq_none_iff_invalid`, `SessionReport.errorMessage_eq_some`: when there
  is a dialog, and what it says.
* `WatchedRace.dialog_of_stream`: from the bytes of the stream to the dialog.
-/

namespace SelectorSearch

open Session

/-! ### Lines -/

namespace Message

/-- The text of the bytes of a line, without its line ends. -/
def lineText (line : List UInt8) : String :=
  Text.dropLineEnd (String.ofList (Utf8.decode line))

/-- The line is invalid: it is not blank, and no message can be read from it. -/
def isInvalidLine (line : List UInt8) : Bool :=
  !Text.allBlank (lineText line) && !(parse (lineText line)).isOk

/-- The line is read as the summary of a search. -/
def isSummaryLine (line : List UInt8) : Bool :=
  (ofBytes? line).any isTerminal

/-- The texts of the invalid lines before the first summary among some `bytes`. -/
def invalidLines (bytes : List UInt8) : List String :=
  (((Text.split lineFeed bytes).takeWhile (!isSummaryLine ·)).filter isInvalidLine).map lineText

/-- A message that can be read has no malformed text. -/
theorem malformedText?_of_parse {text : String} {m : Message} (h : parse text = .ok m) :
    malformedText? m = none := by
  have hm := isMalformed_of_parse h
  cases m with
  | malformed raw => cases hm
  | _ => rfl

/-- The malformed text of the message of a line is the text of the line, if the line is invalid. -/
theorem bind_malformedText? (line : List UInt8) :
    (ofBytes? line).bind malformedText? =
      if isInvalidLine line then some (lineText line) else none := by
  rw [ofBytes?, isInvalidLine, lineText]
  generalize String.ofList (Utf8.decode line) = text
  rw [ofLine?]
  generalize Text.dropLineEnd text = kept
  by_cases hblank : Text.allBlank kept = true
  · simp only [hblank, if_true, Option.bind_none, Bool.not_true, Bool.false_and, reduceCtorEq,
      if_false]
  · cases hparse : parse kept with
    | ok m => simp [hblank, malformedText?_of_parse hparse, Except.isOk, Except.toBool]
    | error e => simp [hblank, malformedText?, Except.isOk, Except.toBool]

/-- A message that ends a session has no malformed text. -/
theorem malformedText?_of_isTerminal {m : Message} (h : m.isTerminal = true) :
    malformedText? m = none := by
  cases m with
  | complete s => rfl
  | _ => cases h

/-- Line by line, what is kept of the messages up to the first summary are the invalid lines before
it. -/
theorem malformed_of_lines (lines : List (List UInt8)) :
    (uptoSummary (lines.filterMap ofBytes?)).filterMap malformedText? =
      ((lines.takeWhile (!isSummaryLine ·)).filter isInvalidLine).map lineText := by
  induction lines with
  | nil => rfl
  | cons line rest ih =>
      have hline := bind_malformedText? line
      cases hm : ofBytes? line with
      | none =>
          have hsummary : isSummaryLine line = false := by rw [isSummaryLine, hm]; rfl
          have hvalid : isInvalidLine line = false := by
            rw [hm] at hline
            simpa using hline
          rw [List.filterMap_cons_none hm, ih]
          simp [hsummary, hvalid]
      | some m =>
          rw [List.filterMap_cons_some hm]
          rw [hm, Option.bind_some] at hline
          have hsummary : isSummaryLine line = m.isTerminal := by rw [isSummaryLine, hm]; rfl
          cases hterminal : m.isTerminal with
          | true =>
              simp [uptoSummary, hterminal, hsummary, malformedText?_of_isTerminal hterminal]
          | false =>
              rw [uptoSummary, if_neg (by simp [hterminal]), List.filterMap_cons, hline, ih]
              cases hinvalid : isInvalidLine line <;> simp [hsummary, hterminal, hinvalid]

end Message

/-- **What a session keeps of the messages of a stream are its `invalidLines`**, however it was cut
into chunks. -/
theorem malformed_of_stream (chunks : List (List UInt8)) :
    (uptoSummary (LineDecoder.decodeAll chunks)).filterMap malformedText? =
      Message.invalidLines chunks.flatten := by
  rw [LineDecoder.decodeAll_eq]
  exact Message.malformed_of_lines _

/-! ### The dialog -/

/-- What the process wrote to its error output, if that is why the search failed. -/
def SessionOutcome.reason? : SessionOutcome → Option String
  | .failed reason => some reason
  | _ => none

/-- Only a process that ended too early, or that could not be supervised, has a section of its own
in the dialog. -/
theorem SessionOutcome.isSome_section?_iff (o : SessionOutcome) :
    o.section?.isSome = true ↔
      (∃ code, o = .abnormalExit code) ∨ ∃ message, o = .workerError message := by
  cases o <;> simp [section?]

/-- The section on what the process wrote stands in the dialog if there are `lines` to list, and
lists all of them. -/
theorem toList_invalidSection? (lines : List String) :
    (invalidSection? lines).toList = if lines.isEmpty then [] else
      ["Invalid response from Element Finder CLI:\n" ++ String.intercalate "\n" lines] := by
  cases lines <;> rfl

namespace SessionReport

/-- The dialog lists the malformed lines of a report, and the reason of a failure behind them. -/
theorem invalid_eq (r : SessionReport) : r.invalid = r.malformed ++ r.outcome.reason?.toList := by
  obtain ⟨outcome, stats, malformed⟩ := r
  cases outcome <;> simp [invalid, SessionOutcome.reason?]

/-- A report calls for no dialog exactly if its session was cancelled, or completed with nothing to
list. -/
theorem errorMessage_eq_none_iff_invalid (r : SessionReport) :
    r.errorMessage = none ↔
      r.outcome = .cancelled ∨ (∃ s, r.outcome = .completed s) ∧ r.invalid = [] := by
  by_cases hcancelled : r.outcome = .cancelled
  · simp [errorMessage_cancelled hcancelled, hcancelled]
  · rw [errorMessage_eq_none_iff hcancelled, or_iff_right hcancelled]
    refine and_congr_right fun ⟨s, hs⟩ => ?_
    simp [invalid, hs]

/-- The dialog of a report shows the sections of the report with blank lines between them. -/
theorem errorMessage_eq_some {r : SessionReport} {text : String}
    (h : r.errorMessage = some text) : text = String.intercalate "\n\n" r.sections := by
  unfold errorMessage at h
  split at h
  · cases h
  · split at h
    · cases h
    · exact (Option.some.inj h).symm

end SessionReport

/-! ### Watched races -/

namespace WatchedRace

variable {w w' : WatchedRace} {s : WatchedStep} {steps : List WatchedStep}
  {effects more : List SessionEffect}

/-- The session was cancelled, and no tick is under way any more. -/
structure Cancelled (w : WatchedRace) : Prop where
  tick : w.race.tick = .idle
  report : ∃ report, w.race.session.report = some report ∧ report.outcome = .cancelled

/-- A tick that finds the view closed cancels the session. -/
theorem cancelled_cancel (h : w.cancels = true) : w.cancel.Cancelled := by
  simp only [cancels, Bool.and_eq_true, decide_eq_true_eq] at h
  exact ⟨h.1.2, _, finish_report _ _ _, rfl⟩

/-- A session that has a `report` is not cancelled by a view that closes later. -/
theorem cancels_of_report {report : SessionReport} (h : w.race.session.report = some report) :
    w.cancels = false := by
  simp [cancels, h]

/-- A session that was cancelled stays so in every step. -/
theorem Cancelled.step (h : w.Cancelled) (hs : w.step? s = some (w', more)) : w'.Cancelled := by
  obtain ⟨report, hreport, hcancelled⟩ := h.report
  cases s with
  | setClosed closed =>
      cases hs
      exact ⟨h.tick, h.report⟩
  | act s =>
      rw [act_of_open (cancels_of_report hreport)] at hs
      obtain ⟨⟨race, effects⟩, hrace, heq⟩ := Option.map_eq_some_iff.mp hs
      obtain ⟨rfl, rfl⟩ := Prod.mk.inj heq
      obtain ⟨hsession, htick, -⟩ := Race.rests_step (by simp [hreport]) h.tick hrace
      exact ⟨htick, report, hsession ▸ hreport, hcancelled⟩

/-- One act is an act of the race, or nothing to it, or it cancels the session. -/
theorem step_cases (hs : w.step? s = some (w', more)) :
    (∃ a, w.race.step? a = some (w'.race, more)) ∨ (w'.race = w.race ∧ more = []) ∨
      w'.Cancelled := by
  cases s with
  | setClosed closed =>
      cases hs
      exact .inr (.inl ⟨rfl, rfl⟩)
  | act a =>
      rw [step?] at hs
      split at hs
      · next hclosed =>
          cases hs
          exact .inr (.inr (cancelled_cancel hclosed.2))
      · obtain ⟨⟨race, effects⟩, hrace, heq⟩ := Option.map_eq_some_iff.mp hs
        obtain ⟨rfl, rfl⟩ := Prod.mk.inj heq
        exact .inl ⟨a, hrace⟩

/-- A run takes its first act by `step?`, and from there goes on with the `rest`. -/
theorem run?_cons_eq_some {rest : List WatchedStep}
    (h : w.run? (s :: rest) = some (w', effects)) :
    ∃ w₁ now later, w.step? s = some (w₁, now) ∧ w₁.run? rest = some (w', later) ∧
      effects = now ++ later := by
  simp only [run?, Option.bind_eq_bind, Option.bind_eq_some_iff] at h
  obtain ⟨⟨w₁, now⟩, hstep, ⟨w₂, later⟩, hrest, heq⟩ := h
  obtain ⟨rfl, rfl⟩ := Prod.mk.inj (Option.some.inj heq)
  exact ⟨w₁, now, later, hstep, hrest, rfl⟩

theorem Cancelled.run (h : w.Cancelled) (hs : w.run? steps = some (w', effects)) :
    w'.Cancelled := by
  induction steps generalizing w effects with
  | nil =>
      obtain ⟨rfl, rfl⟩ := Prod.mk.inj (Option.some.inj hs)
      exact h
  | cons s rest ih =>
      obtain ⟨w₁, now, later, hstep, hrest, -⟩ := run?_cons_eq_some hs
      exact ih (h.step hstep) hrest

/-- **A run of a watched race is a run of the race itself**, unless the view was found closed and
the session is cancelled. -/
theorem race_or_cancelled (h : w.run? steps = some (w', effects)) :
    (∃ acts, w.race.run? acts = some (w'.race, effects)) ∨ w'.Cancelled := by
  induction steps generalizing w effects with
  | nil =>
      obtain ⟨rfl, rfl⟩ := Prod.mk.inj (Option.some.inj h)
      exact .inl ⟨[], rfl⟩
  | cons s rest ih =>
      obtain ⟨w₁, now, later, hstep, hrest, rfl⟩ := run?_cons_eq_some h
      obtain ⟨a, hact⟩ | ⟨hrace, rfl⟩ | hcancelled := step_cases hstep
      · refine (ih hrest).imp_left fun ⟨acts, hacts⟩ => ⟨a :: acts, ?_⟩
        simp [Race.run?, hact, hacts]
      · rw [← hrace]
        exact ih hrest
      · exact .inr (hcancelled.run hrest)

/-- The report of a session that was not cancelled keeps, and counts, the malformed lines up to the
first summary. -/
theorem malformed_of_report {messages : List Message} {final : WorkerStatus}
    {report : SessionReport} (h : (start messages final).run? steps = some (w, effects))
    (hreport : w.race.session.report = some report) (hne : report.outcome ≠ .cancelled) :
    report.malformed = (uptoSummary messages).filterMap malformedText? ∧
      report.stats.malformedLines.toNat = min report.malformed.length countMax.toNat := by
  obtain ⟨acts, hacts⟩ | hcancelled := race_or_cancelled h
  · obtain ⟨applied, hrun, -⟩ | hend := Race.run_stands hacts
    · cases hrun.report.symm.trans hreport
    · obtain ⟨outcome, -, hended⟩ := hend.report
      obtain rfl := Option.some.inj (hended.symm.trans hreport)
      refine ⟨rfl, ?_⟩
      rw [show (({} : Session).absorb (uptoSummary messages)).machine =
        (uptoSummary messages).foldl count {} from rfl, malformedLines_foldl]
      congr 1
      exact Nat.zero_add _
  · obtain ⟨other, hother, hcancel⟩ := hcancelled.report
    obtain rfl := Option.some.inj (hother.symm.trans hreport)
    exact absurd hcancel hne

/-- **What the user is told.** Some bytes arrive in some chunks, and the acts of the worker, the
looks of the ticks and the closing of the view are interleaved in some way. If the session ends
without being cancelled, its report keeps the lines that were neither blank nor messages, up to the
first summary, each once and in their order, and counts them as far as a word goes. The user is told
nothing about a cancelled session, nor about a completed one without such lines. Otherwise the
dialog begins with the section on the process, which an abnormal exit and a worker that could not
supervise it have, and then lists the lines and the reason of a failure, if there are any. -/
theorem dialog_of_stream {chunks : List (List UInt8)} {final : WorkerStatus}
    {report : SessionReport}
    (h : (start (LineDecoder.decodeAll chunks) final).run? steps = some (w, effects))
    (hreport : w.race.session.report = some report) :
    let invalid := Message.invalidLines chunks.flatten
    let listed := invalid ++ report.outcome.reason?.toList
    (report.outcome = .cancelled → report.errorMessage = none) ∧
    (report.outcome ≠ .cancelled →
      report.malformed = invalid ∧
      report.stats.malformedLines.toNat = min invalid.length 0xFFFFFFFFFFFFFFFF ∧
      (report.errorMessage = none ↔ (∃ s, report.outcome = .completed s) ∧ listed = []) ∧
      (report.outcome.section?.isSome = true ↔ (∃ code, report.outcome = .abnormalExit code) ∨
        ∃ message, report.outcome = .workerError message) ∧
      ∀ text, report.errorMessage = some text →
        text = String.intercalate "\n\n" (report.outcome.section?.toList ++
          if listed.isEmpty then [] else
            ["Invalid response from Element Finder CLI:\n" ++
              String.intercalate "\n" listed])) := by
  intro invalid listed
  refine ⟨SessionReport.errorMessage_cancelled, fun hne => ?_⟩
  obtain ⟨hmalformed, hcount⟩ := malformed_of_report h hreport hne
  rw [malformed_of_stream] at hmalformed
  have hlisted : report.invalid = listed := by rw [report.invalid_eq, hmalformed]
  refine ⟨hmalformed, ?_, ?_, SessionOutcome.isSome_section?_iff _, fun text htext => ?_⟩
  · rw [hcount, hmalformed]
    rfl
  · rw [report.errorMessage_eq_none_iff_invalid, hlisted, or_iff_right hne]
  · rw [SessionReport.errorMessage_eq_some htext, SessionReport.sections, toList_invalidSection?,
      hlisted]

/-- A damaged line and one that does not end, with a blank one between them, arrive while the view
is closed in the middle of a tick and opened again before the next one. -/
theorem dialog_of_damaged_stream :
    let chunks : List (List UInt8) := [[0x6F, 0x6F, 0x70], [0x73, 0x0D, 0x0A, 0x20, 0x0A, 0xFF]]
    let steps : List WatchedStep := [.act .push, .act .askView, .setClosed true, .act .takeStatus,
      .act .drain, .setClosed false, .act .push, .act .publish, .act .askView, .act .takeStatus,
      .act .drain]
    ∃ w effects report,
      (start (LineDecoder.decodeAll chunks) (.failed "Error: boom")).run? steps =
        some (w, effects) ∧
      w.race.session.report = some report ∧ report.malformed = ["oops", "\uFFFD"] ∧
      report.errorMessage =
        some "Invalid response from Element Finder CLI:\noops\n\uFFFD\nError: boom" := by
  intro chunks steps
  have hend : ((start (LineDecoder.decodeAll chunks) (.failed "Error: boom")).run? steps).map
      (fun p => p.1.race.session.report.map SessionReport.outcome) =
        some (some (.failed "Error: boom")) := by decide +kernel
  obtain ⟨⟨w, effects⟩, hrun, hended⟩ := Option.map_eq_some_iff.mp hend
  obtain ⟨report, hreport, houtcome⟩ := Option.map_eq_some_iff.mp hended
  obtain ⟨hmalformed, -, hnone, -, htext⟩ :=
    (dialog_of_stream hrun hreport).2 (by simp [houtcome])
  have hinvalid : Message.invalidLines chunks.flatten = ["oops", "\uFFFD"] := by decide +kernel
  refine ⟨w, effects, report, hrun, hreport, hmalformed.trans hinvalid, ?_⟩
  obtain ⟨text, hshown⟩ : ∃ text, report.errorMessage = some text := by
    refine Option.ne_none_iff_exists'.mp fun hsilent => ?_
    obtain ⟨⟨s, hs⟩, -⟩ := hnone.mp hsilent
    cases houtcome.symm.trans hs
  rw [hshown, htext text hshown, houtcome, hinvalid]
  rfl

end WatchedRace

end SelectorSearch
