import SelectorSearch.Proofs.Interleaving
import SelectorSearch.Proofs.LineDecoder
import SelectorSearch.Worker.Pump

/-!
# What a Pump Queues and Reports

A pump reads two streams whose bytes arrive in any pieces and in any order of the two. Each stream
has a decoder of its own, so at any time a channel has decoded the complete lines of what it read,
and once the stream is at its end all lines (`Channel.HasRead`). The books of a pump add that up:
what is queued is an interleaving of what the standard output has decoded with what the error
output has decoded without its malformed lines (`Pump.Books`), and those malformed lines are in the
phase of the pump (`Pump.Verdict`).

`Moves` lists once what a step can be; every later proof is a case distinction on it.

## Main results

* `moves_of_step`: the steps of a pump.
* `accounts_run`: the books hold after every run.
* `queued_of_exited`: the queue of a pump whose process ended by itself.
* `failed_of_patience`: reading on for fatal lines comes to an end.
* `failed_iff_malformed`: when a pump fails, and why.
-/

namespace SelectorSearch

/-! ### Reads -/

/-- The bytes that a read brings: those of its chunk, and none for the end of the pipe or a failed
read. -/
def PipeRead.content : PipeRead → List UInt8
  | .bytes chunk => chunk
  | _ => []

@[simp] theorem PipeRead.content_endOfFile : endOfFile.content = [] := rfl

/-- The bytes of the standard output that an event brings, which are none unless it is a read of
that pipe. -/
@[simp] def PumpEvent.outputBytes : PumpEvent → List UInt8
  | .output r => r.content
  | _ => []

/-- The bytes of the error output that an event brings, which are none unless it is a read of that
pipe. -/
@[simp] def PumpEvent.errorBytes : PumpEvent → List UInt8
  | .error r => r.content
  | _ => []

/-- Whether an event is a read of the standard output, be it only of the end of the pipe. -/
def PumpEvent.isOutput : PumpEvent → Bool
  | .output _ => true
  | _ => false

namespace Channel

variable {c : Channel} {bytes : List UInt8}

/-- What a channel has decoded of the `bytes` that it read: the complete lines, and the last line
too once the stream is at its end. -/
def decoded (c : Channel) (bytes : List UInt8) : List Message :=
  if c.isOpen then Message.ofLines bytes else Message.ofStream bytes

theorem decoded_of_open (h : c.isOpen = true) (bytes : List UInt8) :
    c.decoded bytes = Message.ofLines bytes := by
  simp [decoded, h]

theorem decoded_of_closed (h : c.isOpen = false) (bytes : List UInt8) :
    c.decoded bytes = Message.ofStream bytes := by
  simp [decoded, h]

/-- The channel has read these `bytes` and no others: the last piece of them waits in the decoder
until the stream ends. -/
def HasRead (c : Channel) (bytes : List UInt8) : Prop :=
  c.decoder.pending = if c.isOpen then Text.lastPiece lineFeed bytes else []

/-- A new channel has read nothing, and nothing waits in its decoder. -/
theorem hasRead_new : HasRead {} [] := rfl

/-- A channel that has read some `bytes` has read those of the read `r` too after it. -/
theorem HasRead.take (h : c.HasRead bytes) (ho : c.isOpen = true) (r : PipeRead) :
    (c.take r).1.HasRead (bytes ++ r.content) := by
  cases r with
  | bytes chunk =>
      simp only [HasRead, ho, if_true] at h
      simp only [HasRead, Channel.take, PipeRead.content, ho, if_true]
      rw [LineDecoder.pending_feed, h, ← Text.lastPiece_append]
  | endOfFile => rfl
  | failed => rfl

/-- A read completes what is new among the messages of all bytes, so that `Channel.take` adds to
`decoded` what it answers. The end of the stream completes the last line. -/
theorem HasRead.decoded_take (h : c.HasRead bytes) (ho : c.isOpen = true) (r : PipeRead) :
    (c.take r).1.decoded (bytes ++ r.content) = c.decoded bytes ++ (c.take r).2 := by
  simp only [HasRead, ho, if_true] at h
  cases r with
  | bytes chunk =>
      simp only [decoded, Channel.take, PipeRead.content, ho, if_true]
      rw [LineDecoder.messages_feed, h, ← Message.ofLines_append]
  | endOfFile | failed =>
      simp only [decoded, Channel.take, PipeRead.content, ho, if_true, List.append_nil,
        LineDecoder.finish, h]
      exact Message.ofStream_eq bytes

/-- A channel at the end of its stream has nothing left in its decoder. -/
theorem HasRead.eq_of_closed (h : c.HasRead bytes) (hc : c.isOpen = false) :
    c = { decoder := {}, isOpen := false } := by
  simp only [HasRead, hc] at h
  obtain ⟨decoder, isOpen⟩ := c
  obtain rfl : isOpen = false := hc
  exact congrArg (Channel.mk · false) (LineDecoder.ext_pending h)

end Channel

namespace Pump

variable {p q : Pump} {e : PumpEvent} {out err : List UInt8} {lines : List String}

/-! ### Steps -/

/-- The steps of a pump, one constructor for each thing that it can do, with the guards under which
it does it. -/
inductive Moves (p : Pump) : PumpEvent → Pump → Prop
  | stop : p.phase = .reading → Moves p .stop (p.finish .stopped)
  | output (r : PipeRead) : p.phase = .reading → p.output.isOpen = true →
      Moves p (.output r) { p with
        output := (p.output.take r).1
        queued := p.queued ++ (p.output.take r).2 }
  /-- The error output brings messages only. -/
  | quiet (r : PipeRead) : p.phase = .reading → p.error.isOpen = true →
      malformedTexts (p.error.take r).2 = [] → Moves p (.error r) (p.takeError [] r).1
  /-- The error output brings something fatal. -/
  | alarm (r : PipeRead) : p.phase = .reading → p.error.isOpen = true →
      malformedTexts (p.error.take r).2 ≠ [] → Moves p (.error r) (p.drainMore [] r)
  | drain (r : PipeRead) {lines : List String} : p.phase = .draining lines →
      Moves p (.error r) (p.drainMore lines r)
  | patience {lines : List String} : p.phase = .draining lines →
      Moves p .patienceEnds (p.drainMore lines .endOfFile)
  | exited (code : Option Int) : p.phase = .reading → p.isDry = true →
      Moves p (.exited code) (p.finish (.exited code))
  | waitFailed (reason : String) : p.phase = .reading → p.isDry = true →
      Moves p (.waitFailed reason) (p.finish (waitFailure reason))

/-- **A pump takes no other steps**: whatever `step?` allows is one of the `Moves`. -/
theorem moves_of_step (h : p.step? e = some q) : p.Moves e q := by
  unfold step? at h
  split at h
  · next hp =>
      cases e with
      | stop =>
          cases h
          exact .stop hp
      | output r =>
          simp only [stepReading] at h
          split at h <;> cases h
          next ho => exact .output r hp ho
      | error r =>
          simp only [stepReading] at h
          split at h
          · next ho =>
              obtain rfl := Option.some.inj h
              by_cases hl : malformedTexts (p.error.take r).2 = []
              · have hempty : (p.takeError [] r).2.isEmpty = true := by simp [takeError, hl]
                rw [if_pos hempty]
                exact .quiet r hp ho hl
              · have hne : ¬(p.takeError [] r).2.isEmpty = true := by simp [takeError, hl]
                rw [if_neg hne]
                exact .alarm r hp ho hl
          · cases h
      | exited code =>
          simp only [stepReading] at h
          split at h <;> cases h
          next hd => exact .exited code hp hd
      | waitFailed reason =>
          simp only [stepReading] at h
          split at h <;> cases h
          next hd => exact .waitFailed reason hp hd
      | patienceEnds => cases h
  · next lines hp =>
      cases e with
      | error r =>
          cases h
          exact .drain r hp
      | patienceEnds =>
          cases h
          exact .patience hp
      | _ => cases h
  · cases h

/-- A pump that has met something fatal: it drains, or it has failed. -/
def Alarmed (p : Pump) : Prop :=
  (∃ lines, p.phase = .draining lines) ∨ ∃ reason, p.phase = .finished (.failed reason)

/-- Reading on for fatal lines leaves a pump `Alarmed`, whether it goes on or fails. -/
theorem alarmed_drainMore (p : Pump) (lines : List String) (r : PipeRead) :
    (p.drainMore lines r).Alarmed := by
  rw [drainMore, Pump.drain]
  split
  · exact .inl ⟨_, rfl⟩
  · exact .inr ⟨_, rfl⟩

/-- An alarmed pump does not read both pipes any more. -/
theorem Alarmed.not_reading (h : p.Alarmed) : p.phase ≠ .reading := by
  obtain ⟨_, h⟩ | ⟨_, h⟩ := h <;> simp [h]

/-- If an alarmed pump is finished, its status is `failed` for some reason. -/
theorem Alarmed.failed_of_finished (h : p.Alarmed) {status : WorkerStatus}
    (hp : p.phase = .finished status) : ∃ reason, status = .failed reason := by
  obtain ⟨_, h⟩ | ⟨reason, h⟩ := h
  · cases hp.symm.trans h
  · cases hp.symm.trans h
    exact ⟨reason, rfl⟩

/-! ### The books -/

/-- The books of a pump that has read the bytes `out` and `err` from its pipes: what its two
channels have read, and that its queue interleaves what they have decoded. -/
structure Books (out err : List UInt8) (p : Pump) : Prop where
  output : p.output.HasRead out
  error : p.error.HasRead err
  queued : Interleaving (p.output.decoded out) (wellFormed (p.error.decoded err)) p.queued

/-- How the malformed `lines` of the error output show in a pump: there are none while it reads, it
collects them while it drains, and they are the reason if it fails. -/
def Verdict (p : Pump) (lines : List String) : Prop :=
  match p.phase with
  | .reading => lines = []
  | .draining known => p.error.isOpen = true ∧ lines ≠ [] ∧ known = lines
  | .finished (.failed reason) =>
    p.error.isOpen = false ∧ lines ≠ [] ∧ reason = String.intercalate "\n" lines
  | .finished .stopped => lines = []
  | .finished .running => False
  | .finished _ => p.isDry = true ∧ lines = []

/-- The books of a new pump, which has read nothing and queued nothing. -/
theorem books_new : Books [] [] {} :=
  ⟨Channel.hasRead_new, Channel.hasRead_new, .nil⟩

/-- The books say nothing of the phase, and so a pump that is finished keeps them. -/
theorem Books.finish (h : p.Books out err) (status : WorkerStatus) :
    (p.finish status).Books out err :=
  ⟨h.output, h.error, h.queued⟩

/-- The books say nothing of the phase, and so a pump that begins to drain keeps them. -/
theorem Books.drain (h : p.Books out err) (lines : List String) :
    (p.drain lines).Books out err :=
  ⟨by simpa using h.output, by simpa using h.error, by simpa using h.queued⟩

/-- A read `r` of the standard output queues what it completes, and the books go on with its
bytes. -/
theorem Books.takeOutput (h : p.Books out err) (ho : p.output.isOpen = true) (r : PipeRead) :
    Books (out ++ r.content) err { p with
      output := (p.output.take r).1
      queued := p.queued ++ (p.output.take r).2 } where
  output := h.output.take ho r
  error := h.error
  queued := by
    rw [h.output.decoded_take ho r]
    exact h.queued.append_left _

/-- A read `r` of the error output queues the messages that it completes and that are well formed,
and the books go on with its bytes. -/
theorem Books.takeError (h : p.Books out err) (ho : p.error.isOpen = true) (lines : List String)
    (r : PipeRead) : (p.takeError lines r).1.Books out (err ++ r.content) where
  output := h.output
  error := h.error.take ho r
  queued := by
    simp only [Pump.takeError]
    rw [h.error.decoded_take ho r, wellFormed_append]
    exact h.queued.append_right _

/-- While the rest of the error output is read the books hold, as `drainMore` takes from that pipe
only. -/
theorem Books.drainMore (h : p.Books out err) (ho : p.error.isOpen = true) (lines : List String)
    (r : PipeRead) : (p.drainMore lines r).Books out (err ++ r.content) :=
  (h.takeError ho lines r).drain _

/-- What the error output has decoded after a read: what it had before, and what the read
completes. -/
theorem Books.decoded_drainMore (h : p.Books out err) (ho : p.error.isOpen = true)
    (lines : List String) (r : PipeRead) :
    (p.drainMore lines r).error.decoded (err ++ r.content) =
      p.error.decoded err ++ (p.error.take r).2 := by
  rw [Pump.drainMore, drain_error]
  exact h.error.decoded_take ho r

/-- Reading on with all fatal `lines` so far gives the `Verdict` on all fatal lines, those of the
read `r` included. -/
theorem Books.verdict_drainMore (h : p.Books out err) (ho : p.error.isOpen = true)
    (r : PipeRead) (hlines : lines = malformedTexts (p.error.decoded err))
    (hne : lines ++ malformedTexts (p.error.take r).2 ≠ []) :
    (p.drainMore lines r).Verdict
      (malformedTexts ((p.drainMore lines r).error.decoded (err ++ r.content))) := by
  rw [h.decoded_drainMore ho, malformedTexts_append, ← hlines, Pump.drainMore, Pump.drain]
  cases ht : (p.takeError lines r).1.error.isOpen with
  | true => exact ⟨ht, hne, rfl⟩
  | false => exact ⟨ht, hne, rfl⟩

/-! ### Runs -/

/-- The accounts of a pump after some `events`: the books for the bytes that these brought, and the
verdict on the error output. -/
structure Accounts (events : List PumpEvent) (p : Pump) : Prop where
  books : p.Books (events.flatMap PumpEvent.outputBytes) (events.flatMap PumpEvent.errorBytes)
  verdict : p.Verdict
    (malformedTexts (p.error.decoded (events.flatMap PumpEvent.errorBytes)))
  stopped : p.phase = .finished .stopped → PumpEvent.stop ∈ events

/-- A new pump has nothing to account for. -/
theorem accounts_new : Accounts [] {} :=
  ⟨books_new, rfl, nofun⟩

/-- The accounts of a pump that reads on with all fatal `lines` so far, where the event `e` brings
what is read. -/
theorem Books.accounts_drainMore {events : List PumpEvent}
    (hb : p.Books (events.flatMap PumpEvent.outputBytes) (events.flatMap PumpEvent.errorBytes))
    (ho : p.error.isOpen = true) (r : PipeRead)
    (hlines : lines = malformedTexts (p.error.decoded (events.flatMap PumpEvent.errorBytes)))
    (hne : lines ++ malformedTexts (p.error.take r).2 ≠ [])
    (hout : e.outputBytes = []) (herr : e.errorBytes = r.content) :
    (p.drainMore lines r).Accounts (events ++ [e]) where
  books := by
    simp only [List.flatMap_append, List.flatMap_singleton, hout, herr, List.append_nil]
    exact hb.drainMore ho lines r
  verdict := by
    rw [List.flatMap_append, List.flatMap_singleton, herr]
    exact hb.verdict_drainMore ho r hlines hne
  stopped := by
    intro hstop
    obtain ⟨_, hfailed⟩ := (alarmed_drainMore _ _ _).failed_of_finished hstop
    cases hfailed

/-- One step keeps the accounts: they hold of `q` after the event `e` if they hold of `p` before
it. -/
theorem accounts_step {events : List PumpEvent} (h : p.Accounts events) (hs : p.step? e = some q) :
    q.Accounts (events ++ [e]) := by
  obtain ⟨hb, hv, -⟩ := h
  cases moves_of_step hs with
  | stop hp =>
      simp only [Verdict, hp] at hv
      exact ⟨by simpa using hb.finish .stopped, by simpa [Verdict, finish] using hv, by simp⟩
  | output r hp ho =>
      simp only [Verdict, hp] at hv
      exact ⟨by simpa using hb.takeOutput ho r, by simpa [Verdict, hp] using hv, by simp [hp]⟩
  | quiet r hp ho hl =>
      simp only [Verdict, hp] at hv
      refine ⟨by simpa using hb.takeError ho [] r, ?_, by simp [takeError, hp]⟩
      simp [Verdict, takeError, hp, hb.error.decoded_take ho r, malformedTexts_append, hv, hl]
  | alarm r hp ho hl =>
      simp only [Verdict, hp] at hv
      exact hb.accounts_drainMore ho r hv.symm hl rfl rfl
  | drain r hp =>
      simp only [Verdict, hp] at hv
      obtain ⟨ho, hne, rfl⟩ := hv
      exact hb.accounts_drainMore ho r rfl (List.append_ne_nil_of_left_ne_nil hne _) rfl rfl
  | patience hp =>
      simp only [Verdict, hp] at hv
      obtain ⟨ho, hne, rfl⟩ := hv
      exact hb.accounts_drainMore ho .endOfFile rfl
        (List.append_ne_nil_of_left_ne_nil hne _) rfl rfl
  | exited code hp hd =>
      simp only [Verdict, hp] at hv
      exact ⟨by simpa using hb.finish (.exited code),
        by simpa [Verdict, finish] using ⟨hd, hv⟩, by simp [finish]⟩
  | waitFailed reason hp hd =>
      simp only [Verdict, hp] at hv
      exact ⟨by simpa using hb.finish (waitFailure reason),
        by simpa [Verdict, finish, waitFailure] using ⟨hd, hv⟩, by simp [finish, waitFailure]⟩

/-- **The accounts hold after every run**, by induction on its `events`. -/
theorem accounts_run {before events : List PumpEvent} (h : p.Accounts before)
    (hs : p.run? events = some q) : q.Accounts (before ++ events) := by
  induction events generalizing p before with
  | nil =>
      obtain rfl : p = q := Option.some.inj hs
      simpa using h
  | cons e rest ih =>
      rw [run?, List.foldlM_cons, Option.bind_eq_bind, Option.bind_eq_some_iff] at hs
      obtain ⟨p₁, hstep, hrest⟩ := hs
      simpa using ih (accounts_step h hstep) hrest

/-! ### The end of the process -/

/-- A finished pump that was not stopped has read its error output to the end. -/
theorem Accounts.error_closed {events : List PumpEvent} (h : p.Accounts events)
    {status : WorkerStatus} (hp : p.phase = .finished status) (hs : status ≠ .stopped) :
    p.error.isOpen = false := by
  have hv := h.verdict
  simp only [Verdict, hp] at hv
  cases status with
  | running => exact hv.elim
  | exited code | errored message =>
      have hdry := hv.1
      simp only [isDry, Bool.and_eq_true, Bool.not_eq_true'] at hdry
      exact hdry.2
  | failed reason => exact hv.1
  | stopped => exact absurd rfl hs

/-- The end of the process is the last event of its run, and comes when both pipes are at their
end. -/
theorem dry_of_exited {events : List PumpEvent} {code : Option Int}
    (h : ({} : Pump).run? events = some p) (hp : p.phase = .finished (.exited code)) :
    ∃ before q, events = before ++ [.exited code] ∧ ({} : Pump).run? before = some q ∧
      q.isDry = true ∧ p = q.finish (.exited code) := by
  obtain rfl | ⟨before, e, rfl⟩ := List.eq_nil_or_concat' events
  · obtain rfl := Option.some.inj h
    cases hp
  · rw [run?_append, Option.bind_eq_some_iff] at h
    obtain ⟨q, hq, hstep⟩ := h
    rw [run?_cons, Option.bind_eq_some_iff] at hstep
    obtain ⟨p', hstep, hp'⟩ := hstep
    obtain rfl : p' = p := Option.some.inj hp'
    cases moves_of_step hstep with
    | exited c hq' hd =>
        obtain rfl : c = code := by simpa [finish] using hp
        exact ⟨before, q, rfl, hq, hd, rfl⟩
    | alarm | drain | patience => nomatch (alarmed_drainMore _ _ _).failed_of_finished hp
    | stop | waitFailed => simp [finish, waitFailure] at hp
    | output r hq' => simp [hq'] at hp
    | quiet r hq' => simp [takeError, hq'] at hp

/-- **Nothing gets lost or reordered.** When the process has ended by itself, what is queued is an
interleaving of all messages of the standard output with all messages of the error output, of which
none is malformed. Both pipes are then closed with nothing left in their decoders, and that was so
before the process was seen to end. -/
theorem queued_of_exited {events : List PumpEvent} {code : Option Int}
    (h : ({} : Pump).run? events = some p) (hp : p.phase = .finished (.exited code)) :
    let messages := Message.ofStream (events.flatMap PumpEvent.outputBytes)
    let errors := Message.ofStream (events.flatMap PumpEvent.errorBytes)
    Interleaving messages errors p.queued ∧
    (∀ m ∈ errors, m.isMalformed = false) ∧
    p.output = { decoder := {}, isOpen := false } ∧ p.error = { decoder := {}, isOpen := false } ∧
    ∃ before q, events = before ++ [.exited code] ∧ ({} : Pump).run? before = some q ∧
      q.isDry = true ∧ q.queued = p.queued := by
  intro messages errors
  obtain ⟨hb, hv, -⟩ := accounts_run accounts_new h
  rw [List.nil_append] at hb hv
  simp only [Verdict, hp, isDry, Bool.and_eq_true, Bool.not_eq_true'] at hv
  obtain ⟨⟨hout, herr⟩, hlines⟩ := hv
  have hqueued := hb.queued
  rw [Channel.decoded_of_closed herr] at hqueued hlines
  rw [Channel.decoded_of_closed hout, wellFormed_eq_self hlines] at hqueued
  obtain ⟨before, q, hevents, hq, hd, rfl⟩ := dry_of_exited h hp
  exact ⟨hqueued, fun m hm => isMalformed_of_malformedTexts hlines hm,
    hb.output.eq_of_closed hout, hb.error.eq_of_closed herr, before, q, hevents, hq, hd, rfl⟩

/-- A line may be spread over reads between which the other pipe is read, and a stream may end by a
failure with its last line pending. -/
theorem queued_of_exited_pieces :
    ∃ p, ({} : Pump).run? [.output (.bytes [0x6F, 0x6F]), .error (.bytes [0x7B]),
        .output (.bytes [0x70, 0x0A, 0x78]), .error (.bytes [0x7D]), .output .endOfFile,
        .error .failed, .exited (some 0)] = some p ∧
      p.phase = .finished (.exited (some 0)) ∧
      Interleaving [.malformed "oop", .malformed "x"] [.unrecognized none "\x7b\x7d"] p.queued := by
  obtain ⟨p, h, hp⟩ := Option.map_eq_some_iff.mp (show (({} : Pump).run?
    [.output (.bytes [0x6F, 0x6F]), .error (.bytes [0x7B]), .output (.bytes [0x70, 0x0A, 0x78]),
      .error (.bytes [0x7D]), .output .endOfFile, .error .failed,
      .exited (some 0)]).map Pump.phase = some (.finished (.exited (some 0))) by decide +kernel)
  have houtput : Message.ofStream [0x6F, 0x6F, 0x70, 0x0A, 0x78] =
      [.malformed "oop", .malformed "x"] := by decide +kernel
  have herror : Message.ofStream [0x7B, 0x7D] = [.unrecognized none "\x7b\x7d"] := by
    decide +kernel
  obtain ⟨hqueued, -⟩ := queued_of_exited h hp
  exact ⟨p, h, hp, houtput ▸ herror ▸ hqueued⟩

/-! ### Failures -/

/-- **Reading on ends at the latest when patience does**: the event `patienceEnds` finishes every
draining pump as `failed`. -/
theorem failed_of_patience (hp : p.phase = .draining lines) :
    ∃ q reason, p.step? .patienceEnds = some q ∧ q.phase = .finished (.failed reason) :=
  ⟨p.drainMore lines .endOfFile, _, by rw [step?, hp]; rfl, rfl⟩

/-- What is queued when the rest of the error output is read: what was there, and the well-formed
messages of the read `r`. -/
theorem queued_drainMore (p : Pump) (lines : List String) (r : PipeRead) :
    (p.drainMore lines r).queued = p.queued ++ wellFormed (p.error.take r).2 := by
  simp [drainMore, takeError]

/-- An alarmed pump stays so, reads no more of the standard output, and queues what is `new` from
the error output without its malformed lines. -/
theorem Alarmed.step {before : List PumpEvent} (ha : p.Alarmed) (h : p.Accounts before)
    (hs : p.step? e = some q) :
    q.Alarmed ∧ e.isOutput = false ∧ ∃ new,
      q.error.decoded ((before ++ [e]).flatMap PumpEvent.errorBytes) =
        p.error.decoded (before.flatMap PumpEvent.errorBytes) ++ new ∧
      q.queued = p.queued ++ wellFormed new := by
  have hv := h.verdict
  cases moves_of_step hs with
  | drain r hp =>
      simp only [Verdict, hp] at hv
      refine ⟨alarmed_drainMore _ _ _, rfl, (p.error.take r).2, ?_, queued_drainMore _ _ _⟩
      simpa using h.books.decoded_drainMore hv.1 _ r
  | patience hp =>
      simp only [Verdict, hp] at hv
      refine ⟨alarmed_drainMore _ _ _, rfl, (p.error.take .endOfFile).2, ?_,
        queued_drainMore _ _ _⟩
      simpa using h.books.decoded_drainMore hv.1 _ .endOfFile
  | stop hp | output _ hp | quiet _ hp | alarm _ hp | exited _ hp | waitFailed _ hp =>
      exact absurd hp ha.not_reading

/-- What `Alarmed.step` says of one step holds of all steps `after` the alarm together. -/
theorem Alarmed.run {before after : List PumpEvent} (ha : p.Alarmed) (h : p.Accounts before)
    (hs : p.run? after = some q) :
    (∀ e ∈ after, e.isOutput = false) ∧ ∃ new,
      q.error.decoded ((before ++ after).flatMap PumpEvent.errorBytes) =
        p.error.decoded (before.flatMap PumpEvent.errorBytes) ++ new ∧
      q.queued = p.queued ++ wellFormed new := by
  induction after generalizing p before with
  | nil =>
      obtain rfl := Option.some.inj hs
      exact ⟨by simp, [], by simp⟩
  | cons e rest ih =>
      rw [run?_cons, Option.bind_eq_some_iff] at hs
      obtain ⟨p', hstep, hrest⟩ := hs
      obtain ⟨ha', he, new, hdecoded, hqueued⟩ := ha.step h hstep
      obtain ⟨hrest', more, hdecoded', hqueued'⟩ := ih ha' (accounts_step h hstep) hrest
      refine ⟨List.forall_mem_cons.mpr ⟨he, hrest'⟩, new ++ more, ?_, ?_⟩
      · rw [List.append_cons, hdecoded', hdecoded, List.append_assoc]
      · rw [hqueued', hqueued, wellFormed_append, List.append_assoc]

/-- The moment at which a run meets something fatal: the pump that still reads, the event that
brings the first malformed line, and what comes before and after it. -/
structure Alarm (p : Pump) (events : List PumpEvent) (q : Pump) where
  before : List PumpEvent
  read : PipeRead
  after : List PumpEvent
  /-- The pump at that moment. -/
  pump : Pump
  events_eq : events = before ++ .error read :: after
  run_before : p.run? before = some pump
  reading : pump.phase = .reading
  isOpen : pump.error.isOpen = true
  fatal : malformedTexts (pump.error.take read).2 ≠ []
  step : pump.step? (.error read) = some (pump.drainMore [] read)
  run_after : (pump.drainMore [] read).run? after = some q

/-- The alarm of a run that comes after one more step `e`, which is put in front of what comes
before the alarm. -/
def Alarm.later {p₁ : Pump} {rest : List PumpEvent} (a : Alarm p₁ rest q)
    (h : p.step? e = some p₁) : Alarm p (e :: rest) q :=
  { a with
    before := e :: a.before
    events_eq := congrArg (e :: ·) a.events_eq
    run_before := by rw [run?_cons, h, Option.bind_some, a.run_before] }

/-- A pump that still reads does not fail without an `Alarm`. -/
theorem exists_alarm {events : List PumpEvent} {reason : String} (hp : p.phase = .reading)
    (h : p.run? events = some q) (hq : q.phase = .finished (.failed reason)) :
    Nonempty (Alarm p events q) := by
  induction events generalizing p with
  | nil =>
      obtain rfl := Option.some.inj h
      cases hp.symm.trans hq
  | cons e rest ih =>
      rw [run?_cons, Option.bind_eq_some_iff] at h
      obtain ⟨p₁, hstep, hrest⟩ := h
      cases moves_of_step hstep with
      | alarm r _ ho hne => exact ⟨[], r, rest, p, rfl, rfl, hp, ho, hne, hstep, hrest⟩
      | output | quiet =>
          obtain ⟨a⟩ := ih (by exact hp) hrest
          exact ⟨a.later hstep⟩
      | stop | exited | waitFailed => cases run?_finished rfl hrest ▸ hq
      | drain _ hd | patience hd => cases hp.symm.trans hd

/-- A failure is the answer to malformed lines in the error output: a finished pump has failed
exactly if there are any. -/
theorem Accounts.failed_iff {events : List PumpEvent} (h : p.Accounts events)
    {status : WorkerStatus} (hp : p.phase = .finished status) :
    (∃ reason, status = .failed reason) ↔
      malformedTexts (p.error.decoded (events.flatMap PumpEvent.errorBytes)) ≠ [] := by
  have hv := h.verdict
  simp only [Verdict, hp] at hv
  cases status with
  | running => exact hv.elim
  | exited code | errored message => simp [hv.2]
  | failed reason => simp [hv.2.1]
  | stopped => simp [hv]

/-- The reason of a failure is not blank, since no line that is decoded is. -/
theorem allBlank_reason {bytes : List UInt8} (h : malformedTexts (Message.ofStream bytes) ≠ []) :
    Text.allBlank (String.intercalate "\n" (malformedTexts (Message.ofStream bytes))) = false := by
  rw [Text.allBlank_intercalate (by decide), List.all_eq_false]
  obtain ⟨raw, hraw⟩ := List.exists_mem_of_ne_nil _ h
  refine ⟨raw, hraw, ?_⟩
  simp [Message.allBlank_of_mem_ofStream (mem_malformedTexts.mp hraw)]

/-- What an alarm splits a failed run into: the queue before it interleaves both pipes, and the rest
of the error output adds its well-formed messages to that. -/
theorem Alarm.queued {events : List PumpEvent} (a : Alarm {} events p)
    (hp : p.error.isOpen = false) :
    (∀ e ∈ a.after, e.isOutput = false) ∧
    Interleaving (a.pump.output.decoded (a.before.flatMap PumpEvent.outputBytes))
      (Message.ofLines (a.before.flatMap PumpEvent.errorBytes)) a.pump.queued ∧
    ∃ new, Message.ofStream (events.flatMap PumpEvent.errorBytes) =
        Message.ofLines (a.before.flatMap PumpEvent.errorBytes) ++ new ∧
      p.queued = a.pump.queued ++ wellFormed new := by
  have hbefore := accounts_run accounts_new a.run_before
  rw [List.nil_append] at hbefore
  obtain ⟨hafter, new, hdecoded, hqueued⟩ :=
    (alarmed_drainMore _ _ _).run (accounts_step hbefore a.step) a.run_after
  have hlines := hbefore.verdict
  have hbooks := hbefore.books.queued
  simp only [Verdict, a.reading] at hlines
  rw [wellFormed_eq_self hlines, Channel.decoded_of_open a.isOpen] at hbooks
  have hread := hbefore.books.decoded_drainMore a.isOpen [] a.read
  rw [Channel.decoded_of_open a.isOpen] at hread
  have hevents : events.flatMap PumpEvent.errorBytes =
      (a.before ++ [PumpEvent.error a.read] ++ a.after).flatMap PumpEvent.errorBytes := by
    simp [a.events_eq]
  refine ⟨hafter, hbooks, (a.pump.error.take a.read).2 ++ new, ?_, ?_⟩
  · rw [← Channel.decoded_of_closed hp, hevents, hdecoded, ← List.append_assoc, ← hread]
    simp
  · rw [hqueued, queued_drainMore, wellFormed_append, List.append_assoc]

/-- **When a pump fails, and why.** A pump that ends without being stopped has failed exactly if the
error output, to the last line, has a malformed line. The reason then has all malformed lines of the
error output in their order, and is not blank. Every other message of the error output is queued, in
order and next to the messages of the standard output; after the read that brought the first
malformed line nothing of the standard output is read or queued any more. -/
theorem failed_iff_malformed {events : List PumpEvent} {status : WorkerStatus}
    (h : ({} : Pump).run? events = some p) (hp : p.phase = .finished status)
    (hstop : PumpEvent.stop ∉ events) :
    let messages := p.output.decoded (events.flatMap PumpEvent.outputBytes)
    let errors := Message.ofStream (events.flatMap PumpEvent.errorBytes)
    ((∃ reason, status = .failed reason) ↔ ∃ raw, Message.malformed raw ∈ errors) ∧
    Interleaving messages (wellFormed errors) p.queued ∧
    ∀ reason, status = .failed reason →
      reason = String.intercalate "\n" (malformedTexts errors) ∧
      Text.allBlank reason = false ∧
      ∃ before r after q new, events = before ++ .error r :: after ∧
        ({} : Pump).run? before = some q ∧ q.phase = .reading ∧
        malformedTexts (q.error.take r).2 ≠ [] ∧
        (∀ e ∈ after, e.isOutput = false) ∧
        Interleaving (q.output.decoded (before.flatMap PumpEvent.outputBytes))
          (Message.ofLines (before.flatMap PumpEvent.errorBytes)) q.queued ∧
        errors = Message.ofLines (before.flatMap PumpEvent.errorBytes) ++ new ∧
        p.queued = q.queued ++ wellFormed new := by
  intro messages errors
  have hacc := accounts_run accounts_new h
  rw [List.nil_append] at hacc
  have hclosed : p.error.isOpen = false :=
    hacc.error_closed hp fun hs => hstop (hacc.stopped (hs ▸ hp))
  have herrors : p.error.decoded (events.flatMap PumpEvent.errorBytes) = errors :=
    Channel.decoded_of_closed hclosed _
  refine ⟨?_, herrors ▸ hacc.books.queued, ?_⟩
  · rw [hacc.failed_iff hp, herrors, malformedTexts_ne_nil_iff]
  · rintro reason rfl
    have hv := hacc.verdict
    simp only [Verdict, hp, herrors] at hv
    obtain ⟨-, hne, rfl⟩ := hv
    obtain ⟨a⟩ := exists_alarm rfl h hp
    obtain ⟨hafter, hbefore, new, hnew, hqueued⟩ := a.queued hclosed
    exact ⟨rfl, allBlank_reason hne, a.before, a.read, a.after, a.pump, new, a.events_eq,
      a.run_before, a.reading, a.fatal, hafter, hbefore, hnew, hqueued⟩

/-- Patience may end in the middle of a line, which then belongs to the reason. -/
theorem failed_of_impatience :
    ∃ p, ({} : Pump).run? [.output (.bytes [0x61, 0x0A]), .error (.bytes [0x7B, 0x7D, 0x0A, 0x42]),
        .error (.bytes [0x6F, 0x0A, 0x20, 0x61]), .error (.bytes [0x74]), .patienceEnds] = some p ∧
      p.phase = .finished (.failed "Bo\n at") ∧ Text.allBlank "Bo\n at" = false ∧
      Interleaving [.malformed "a"] [.unrecognized none "\x7b\x7d"] p.queued := by
  obtain ⟨p, h, hp⟩ := Option.map_eq_some_iff.mp (show (({} : Pump).run?
    [.output (.bytes [0x61, 0x0A]), .error (.bytes [0x7B, 0x7D, 0x0A, 0x42]),
      .error (.bytes [0x6F, 0x0A, 0x20, 0x61]), .error (.bytes [0x74]),
      .patienceEnds]).map (fun p => (p.phase, p.output.isOpen)) =
        some (.finished (.failed "Bo\n at"), true) by decide +kernel)
  obtain ⟨hphase, hopen⟩ := Prod.mk.inj hp
  have houtput : p.output.decoded [0x61, 0x0A] = [.malformed "a"] := by
    rw [Channel.decoded_of_open hopen]
    decide +kernel
  have herror : wellFormed (Message.ofStream [0x7B, 0x7D, 0x0A, 0x42, 0x6F, 0x0A, 0x20, 0x61,
      0x74]) = [.unrecognized none "\x7b\x7d"] := by decide +kernel
  obtain ⟨-, hqueued, hreason⟩ := failed_iff_malformed h hphase (by decide)
  exact ⟨p, h, hphase, (hreason _ rfl).2.1, houtput ▸ herror ▸ hqueued⟩

end Pump

end SelectorSearch
