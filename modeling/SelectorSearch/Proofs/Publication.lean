import SelectorSearch.Proofs.Pump
import SelectorSearch.Worker.Handle

/-!
# A Worker Publishes Its Status Once

A session relies on two promises of a worker: its final status comes after its last message, and
does not change any more. Both hold because only a finished pump has a status to publish, and a
finished pump does nothing. Demands to stop do not interfere. A worker remembers only whether there
was one, so a second demand changes nothing; and once the status is published, nobody looks at
them.

`Acts` lists once what an act can be. A run of a new worker therefore either publishes nothing, or
has one publication, with only demands after it (`Publication`).

## Main results

* `acts_of_step`: the acts of a worker and on it.
* `running_or_published`: a run publishes nothing, or once.
* `run?_without_ask`: demands after the first, or after the publication, change nothing.
* `exists_published`: a worker can always come to its publication.
* `published_once`: what holds at every moment of a run.
-/

namespace SelectorSearch

/-- What an act does to the pump, if it is an act of the pump at all. -/
def HandleStep.pumpEvent? : HandleStep → Option PumpEvent
  | .pump e => some e
  | _ => none

namespace WorkerHandle

variable {g h : WorkerHandle} {s : HandleStep} {steps before after : List HandleStep}
  {status : WorkerStatus}

theorem run?_cons (h : WorkerHandle) (s : HandleStep) (rest : List HandleStep) :
    h.run? (s :: rest) = (h.step? s).bind (·.run? rest) := by
  simp [run?]

theorem run?_append (h : WorkerHandle) (a b : List HandleStep) :
    h.run? (a ++ b) = (h.run? a).bind (·.run? b) := by
  simp [run?]

/-! ### One act -/

/-- The acts of a worker and on it, one constructor for each, with the guards under which it is
possible. -/
inductive Acts (h : WorkerHandle) : HandleStep → WorkerHandle → Prop
  /-- The pump takes a step; it stops only if it was asked to. -/
  | pump {e : PumpEvent} {p : Pump} : (e = .stop → h.asked = true) → h.pump.step? e = some p →
      Acts h (.pump e) { h with pump := p }
  /-- The status with which the pump has finished is published, if none was before. -/
  | publish {status : WorkerStatus} : h.pump.phase = .finished status → status.isFinished = true →
      h.published.isFinished = false → Acts h .publish { h with published := status }
  | ask : Acts h .ask h.ask

/-- **There are no other acts**: whatever `step?` allows is one of the `Acts`. -/
theorem acts_of_step (hs : g.step? s = some h) : g.Acts s h := by
  cases s with
  | pump e =>
      simp only [step?] at hs
      split at hs
      · cases hs
      · next hstop =>
          obtain ⟨p, hp, rfl⟩ := Option.map_eq_some_iff.mp hs
          refine .pump (fun he => ?_) hp
          simpa [he] using hstop
  | publish =>
      simp only [step?, Bool.and_eq_true, Bool.not_eq_true'] at hs
      split at hs
      · next hready =>
          cases hs
          obtain ⟨hfinished, hpublished⟩ := hready
          cases hphase : g.pump.phase with
          | finished status =>
              have hstatus : g.pump.status = status := by rw [Pump.status, hphase]
              rw [hstatus] at hfinished ⊢
              exact .publish hphase hfinished hpublished
          | reading | draining lines =>
              simp [Pump.status, hphase, WorkerStatus.isFinished] at hfinished
      · cases hs
  | ask =>
      cases hs
      exact .ask

/-- The pump of a worker runs by itself: its run takes the pump's events among the acts, in their
order. -/
theorem pump_run (hrun : g.run? steps = some h) :
    g.pump.run? (steps.filterMap HandleStep.pumpEvent?) = some h.pump := by
  induction steps generalizing g with
  | nil =>
      obtain rfl := Option.some.inj hrun
      rfl
  | cons s rest ih =>
      rw [run?_cons, Option.bind_eq_some_iff] at hrun
      obtain ⟨g', hstep, hrest⟩ := hrun
      cases acts_of_step hstep with
      | pump _ hp =>
          change g.pump.run? (_ :: rest.filterMap HandleStep.pumpEvent?) = _
          rw [Pump.run?_cons, hp, Option.bind_some]
          exact ih hrest
      | @publish status _ _ _ => exact ih (g := { g with published := status }) hrest
      | ask => exact ih (g := g.ask) hrest

/-! ### Publication -/

/-- The `status` is published, and it is the one with which the pump has finished. -/
structure Settled (status : WorkerStatus) (h : WorkerHandle) : Prop where
  returned : h.pump.phase = .finished status
  published : h.published = status
  isFinished : status.isFinished = true

/-- After the publication a worker can only be asked to stop, which changes neither its pump nor its
status. -/
theorem Settled.run (hg : g.Settled status) (hrun : g.run? steps = some h) :
    (∀ s ∈ steps, s = .ask) ∧ h.pump = g.pump ∧ h.published = status := by
  induction steps generalizing g with
  | nil =>
      obtain rfl := Option.some.inj hrun
      exact ⟨by simp, rfl, hg.published⟩
  | cons s rest ih =>
      rw [run?_cons, Option.bind_eq_some_iff] at hrun
      obtain ⟨g', hstep, hrest⟩ := hrun
      cases acts_of_step hstep with
      | pump _ hp => cases (Pump.step?_finished hg.returned _).symm.trans hp
      | publish _ _ hnone => cases (hg.published ▸ hg.isFinished).symm.trans hnone
      | ask =>
          obtain ⟨hasks, hpump, hpublished⟩ := ih (g := g.ask) ⟨hg.1, hg.2, hg.3⟩ hrest
          exact ⟨List.forall_mem_cons.mpr ⟨rfl, hasks⟩, hpump, hpublished⟩

/-- Demands to stop can always be made, and touch neither the pump nor the status that is
published. -/
theorem run?_asks (h : WorkerHandle) (hasks : ∀ s ∈ steps, s = .ask) :
    ∃ h', h.run? steps = some h' ∧ h'.pump = h.pump ∧ h'.published = h.published := by
  induction steps generalizing h with
  | nil => exact ⟨h, rfl, rfl, rfl⟩
  | cons s rest ih =>
      obtain ⟨rfl, hrest⟩ := List.forall_mem_cons.mp hasks
      exact ih h.ask hrest

/-- The moment of a run at which the status is published: the worker before it, and the acts before
and after it. -/
structure Publication (g : WorkerHandle) (steps : List HandleStep) (h : WorkerHandle) where
  before : List HandleStep
  after : List HandleStep
  /-- The worker at that moment. -/
  worker : WorkerHandle
  steps_eq : steps = before ++ .publish :: after
  run_before : g.run? before = some worker
  /-- Nothing was published before. -/
  first : .publish ∉ before
  running : worker.published = .running
  /-- What is published is what the pump has come to, and stays. -/
  returned : worker.pump.phase = .finished h.published
  isFinished : h.published.isFinished = true
  /-- Everything is queued already, and nothing more will be. -/
  complete : h.pump = worker.pump
  /-- After it there are only demands to stop. -/
  asks : ∀ s ∈ after, s = .ask

/-- A run after its `Publication` has a worker that is `Settled` with the status it has
published. -/
theorem Publication.settled (p : Publication g steps h) : h.Settled h.published :=
  ⟨p.complete ▸ p.returned, rfl, p.isFinished⟩

/-- The publication of a run that comes after one more act `s`, which is put in front of the acts
before the publication. -/
def Publication.later {g' : WorkerHandle} (p : Publication g' steps h) (hs : g.step? s = some g')
    (hne : s ≠ .publish) : Publication g (s :: steps) h :=
  { p with
    before := s :: p.before
    steps_eq := congrArg (s :: ·) p.steps_eq
    run_before := by rw [run?_cons, hs, Option.bind_some, p.run_before]
    first := by simp [p.first, Ne.symm hne] }

/-- **A run has published, or still runs**: it publishes nothing and its status is `running`, or it
has a `Publication`. -/
theorem running_or_published (hg : g.published = .running) (hrun : g.run? steps = some h) :
    (h.published = .running ∧ .publish ∉ steps) ∨ Nonempty (Publication g steps h) := by
  induction steps generalizing g with
  | nil =>
      obtain rfl := Option.some.inj hrun
      exact .inl ⟨hg, List.not_mem_nil⟩
  | cons s rest ih =>
      rw [run?_cons, Option.bind_eq_some_iff] at hrun
      obtain ⟨g', hstep, hrest⟩ := hrun
      cases acts_of_step hstep with
      | @publish status hphase hfinished _ =>
          have hsettled : Settled status { g with published := status } := ⟨hphase, rfl, hfinished⟩
          obtain ⟨hasks, hpump, hpublished⟩ := hsettled.run hrest
          refine .inr ⟨⟨[], rest, g, rfl, rfl, List.not_mem_nil, hg, ?_, ?_, hpump, hasks⟩⟩
          · rw [hpublished, hphase]
          · rw [hpublished, hfinished]
      | pump _ _ | ask =>
          obtain ⟨hrunning, hnone⟩ | ⟨⟨p⟩⟩ := ih (by exact hg) hrest
          · exact .inl ⟨hrunning, by simp [hnone]⟩
          · exact .inr ⟨p.later hstep nofun⟩

/-! ### Demands to stop -/

/-- A worker remembers whether it was asked to stop: it was if it had been before the run, or if the
run asks it. -/
theorem asked_iff (hrun : g.run? steps = some h) :
    h.asked = true ↔ g.asked = true ∨ .ask ∈ steps := by
  induction steps generalizing g with
  | nil =>
      obtain rfl := Option.some.inj hrun
      simp
  | cons s rest ih =>
      rw [run?_cons, Option.bind_eq_some_iff] at hrun
      obtain ⟨g', hstep, hrest⟩ := hrun
      cases acts_of_step hstep with
      | pump _ _ | publish _ _ _ => simpa using ih hrest
      | ask => simpa [ask] using ih hrest

/-- A pump that stops was asked to, before the run or in it. -/
theorem asked_of_stop (hrun : g.run? steps = some h) (hstop : .pump .stop ∈ steps) :
    g.asked = true ∨ .ask ∈ steps := by
  obtain ⟨before, after, rfl⟩ := List.append_of_mem hstop
  rw [run?_append, Option.bind_eq_some_iff] at hrun
  obtain ⟨g', hbefore, hrest⟩ := hrun
  rw [run?_cons, Option.bind_eq_some_iff] at hrest
  obtain ⟨g'', hstep, -⟩ := hrest
  cases acts_of_step hstep with
  | pump hasked _ =>
      refine ((asked_iff hbefore).mp (hasked rfl)).imp_right fun hmem => ?_
      exact List.mem_append_left _ hmem

/-- A worker whose published status is `stopped` was asked to stop in its run. -/
theorem ask_of_stopped (hrun : ({} : WorkerHandle).run? steps = some h)
    (hstopped : h.published = .stopped) : .ask ∈ steps := by
  obtain ⟨hrunning, -⟩ | ⟨⟨p⟩⟩ := running_or_published rfl hrun
  · cases hstopped.symm.trans hrunning
  · have hphase : h.pump.phase = .finished .stopped := hstopped ▸ p.settled.returned
    have hevent := (Pump.accounts_run Pump.accounts_new (pump_run hrun)).stopped hphase
    rw [List.nil_append, List.mem_filterMap] at hevent
    obtain ⟨s, hmem, hs⟩ := hevent
    obtain rfl : s = .pump .stop := by
      cases s <;> simp_all [HandleStep.pumpEvent?]
    exact (asked_of_stop hrun hmem).resolve_left (by simp)

/-- Without a demand to stop that comes after another one, or after the publication, a run leads to
the same status and the same pump. -/
theorem run?_without_ask (hrun : ({} : WorkerHandle).run? (before ++ .ask :: after) = some h)
    (hidle : .ask ∈ before ∨ .publish ∈ before) :
    ∃ h', ({} : WorkerHandle).run? (before ++ after) = some h' ∧ h'.published = h.published ∧
      h'.pump = h.pump := by
  rw [run?_append, Option.bind_eq_some_iff] at hrun
  obtain ⟨g, hbefore, hrest⟩ := hrun
  rw [run?_cons] at hrest
  change g.ask.run? after = some h at hrest
  rw [run?_append, hbefore, Option.bind_some]
  obtain hask | hpublish := hidle
  · have hasked : g.asked = true := (asked_iff hbefore).mpr (.inr hask)
    have hsame : g.ask = g := by rw [ask, ← hasked]
    exact ⟨h, hsame ▸ hrest, rfl, rfl⟩
  · obtain ⟨-, hnone⟩ | ⟨⟨p⟩⟩ := running_or_published rfl hbefore
    · exact absurd hpublish hnone
    · have hsettled : g.ask.Settled g.published := ⟨p.settled.1, rfl, p.isFinished⟩
      obtain ⟨hasks, hpump, hpublished⟩ := hsettled.run hrest
      obtain ⟨h', hrun', hpump', hpublished'⟩ := g.run?_asks hasks
      exact ⟨h', hrun', hpublished'.trans hpublished.symm, hpump'.trans hpump.symm⟩

/-! ### Runs -/

/-- What a finished pump has come to can be published, as long as nothing is. -/
theorem step?_publish (hphase : h.pump.phase = .finished status)
    (hfinished : status.isFinished = true) (hrunning : h.published = .running) :
    h.step? .publish = some { h with published := status } := by
  have hstatus : h.pump.status = status := by rw [Pump.status, hphase]
  have hready : (h.pump.status.isFinished && !h.published.isFinished) = true := by
    rw [hstatus, hfinished, hrunning]
    rfl
  rw [step?, if_pos hready, hstatus]

/-- **A worker that has published nothing can always come to its publication**, be it because it is
stopped or because patience ends. -/
theorem exists_published (hrun : ({} : WorkerHandle).run? steps = some h)
    (hrunning : h.published = .running) :
    ∃ more h', h.run? more = some h' ∧ h'.published.isFinished = true := by
  cases hphase : h.pump.phase with
  | reading =>
      have hstop : h.ask.step? (.pump .stop) =
          some { h.ask with pump := h.pump.finish .stopped } := by
        simp [step?, ask, Pump.step?, hphase, Pump.stepReading]
      refine ⟨[.ask, .pump .stop, .publish],
        { h.ask with pump := h.pump.finish .stopped, published := .stopped }, ?_, rfl⟩
      change h.ask.run? [.pump .stop, .publish] = _
      rw [run?_cons, hstop, Option.bind_some, run?_cons,
        step?_publish (h := { h.ask with pump := h.pump.finish .stopped }) rfl rfl hrunning]
      rfl
  | draining lines =>
      obtain ⟨q, reason, hq, hfailed⟩ := Pump.failed_of_patience hphase
      have hpatience : h.step? (.pump .patienceEnds) = some { h with pump := q } := by
        simp [step?, hq]
      refine ⟨[.pump .patienceEnds, .publish],
        { h with pump := q, published := .failed reason }, ?_, rfl⟩
      rw [run?_cons, hpatience, Option.bind_some, run?_cons,
        step?_publish (h := { h with pump := q }) hfailed rfl hrunning]
      rfl
  | finished status =>
      have hfinished : status.isFinished = true := by
        have hverdict := (Pump.accounts_run Pump.accounts_new (pump_run hrun)).verdict
        cases status with
        | running =>
            simp only [Pump.Verdict, hphase] at hverdict
        | _ => rfl
      refine ⟨[.publish], { h with published := status }, ?_, hfinished⟩
      rw [run?_cons, step?_publish hphase hfinished hrunning]
      rfl

/-- **A worker publishes its status once.** What its pump does is a run of the pump by itself. At
every moment the status is running, or it is the final one and the queue is complete. A run
publishes nothing, or there is one moment at which it does: the pump has finished with the status
that is published, everything is queued, and after it there are only demands to stop. Such a
demand changes neither the status nor the queue if there was one before, or if the status is
published; and the status says that the worker was stopped only if there was one. A worker that has
published nothing can still come to it. -/
theorem published_once (hrun : ({} : WorkerHandle).run? steps = some h) :
    ({} : Pump).run? (steps.filterMap HandleStep.pumpEvent?) = some h.pump ∧
    (∀ before after, steps = before ++ after → ∃ g, ({} : WorkerHandle).run? before = some g ∧
      (g.published = .running ∨
        g.published = h.published ∧ h.published.isFinished = true ∧
          g.pump.queued = h.pump.queued)) ∧
    ((h.published = .running ∧ .publish ∉ steps) ∨ Nonempty (Publication {} steps h)) ∧
    (∀ before after, steps = before ++ .ask :: after → .ask ∈ before ∨ .publish ∈ before →
      ∃ h', ({} : WorkerHandle).run? (before ++ after) = some h' ∧
        h'.published = h.published ∧ h'.pump.queued = h.pump.queued) ∧
    (h.published = .stopped → .ask ∈ steps) ∧
    (h.published = .running → ∃ more h', h.run? more = some h' ∧
      h'.published.isFinished = true) := by
  refine ⟨pump_run hrun, ?_, running_or_published rfl hrun, ?_, ask_of_stopped hrun,
    exists_published hrun⟩
  · rintro before after rfl
    rw [run?_append, Option.bind_eq_some_iff] at hrun
    obtain ⟨g, hbefore, hafter⟩ := hrun
    refine ⟨g, hbefore, ?_⟩
    obtain ⟨hrunning, -⟩ | ⟨⟨p⟩⟩ := running_or_published rfl hbefore
    · exact .inl hrunning
    · obtain ⟨-, hpump, hpublished⟩ := p.settled.run hafter
      exact .inr ⟨hpublished.symm, hpublished ▸ p.isFinished, by rw [hpump]⟩
  · rintro before after rfl hidle
    obtain ⟨h', hrun', hpublished, hpump⟩ := run?_without_ask hrun hidle
    exact ⟨h', hrun', hpublished, by rw [hpump]⟩

/-- A demand to stop that comes too late: the pump has met something fatal already, so the worker
has failed, and demands before and after the publication do not change that. -/
theorem published_once_of_late_ask :
    ∃ h, ({} : WorkerHandle).run? [.pump (.output (.bytes [0x61, 0x0A])),
        .pump (.error (.bytes [0x42, 0x0A])), .ask, .ask, .pump .patienceEnds, .publish, .ask] =
          some h ∧
      h.published = .failed "B" ∧ h.pump.queued = [.malformed "a"] ∧
      Nonempty (Publication {} [.pump (.output (.bytes [0x61, 0x0A])),
        .pump (.error (.bytes [0x42, 0x0A])), .ask, .ask, .pump .patienceEnds, .publish, .ask] h) ∧
      ∃ h', ({} : WorkerHandle).run? [.pump (.output (.bytes [0x61, 0x0A])),
          .pump (.error (.bytes [0x42, 0x0A])), .ask, .ask, .pump .patienceEnds, .publish] =
            some h' ∧
        h'.published = h.published ∧ h'.pump.queued = h.pump.queued := by
  obtain ⟨h, hrun, hh⟩ := Option.map_eq_some_iff.mp (show (({} : WorkerHandle).run?
    [.pump (.output (.bytes [0x61, 0x0A])), .pump (.error (.bytes [0x42, 0x0A])), .ask, .ask,
      .pump .patienceEnds, .publish, .ask]).map (fun h => (h.published, h.pump.queued)) =
        some (.failed "B", [.malformed "a"]) by decide +kernel)
  obtain ⟨hstatus, hqueued⟩ := Prod.mk.inj hh
  obtain ⟨-, -, hpublication, hasks, -, -⟩ := published_once hrun
  refine ⟨h, hrun, hstatus, hqueued, hpublication.resolve_left fun hrunning => ?_, ?_⟩
  · cases hstatus.symm.trans hrunning.1
  · exact hasks [.pump (.output (.bytes [0x61, 0x0A])), .pump (.error (.bytes [0x42, 0x0A])), .ask,
      .ask, .pump .patienceEnds, .publish] [] rfl (.inl (by simp))

end WorkerHandle

end SelectorSearch
