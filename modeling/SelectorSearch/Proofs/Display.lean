import SelectorSearch.Terminal

/-!
# What Is on Display

A terminal shows the progress status on its last line, and results and failures have to find that
line empty. The terminal keeps a flag for whether a status is there, and wipes the line if the flag
says so.

Which status waits for a wipe is a fold over the writes (`TerminalWrite.display`), and which one
should is a fold over the effects on the host (`HostEffect.onDisplay`). One effect keeps the two
equal and the flag true to them, if all that goes below a status, views and their names, questions
and dialogs, comes where no status is (`Orderly`).

The log goes to the standard error past the terminal, between any two effects. It leaves the flag
alone, and so the two folds; but a line of the log ends the line that the cursor is on. A status is
therefore cleared from the screen exactly if the clear-line sequence is the next thing that the
standard error receives (`Gone`), and a line of the log is the one thing that can come in between.

## Main results

* `TerminalWrite.display_eq_none_iff`: nothing waits for a wipe if every status was wiped.
* `TerminalWrite.gone_iff`: where everything is written in order, a status is gone by the next write
  unless that is a line of the log.
* `Terminal.display_reactAll`: the flag, the writes and the effects agree, whatever is logged.
* `Terminal.tidy_of_orderly`: the texts that both outputs receive for orderly effects.
-/

namespace SelectorSearch

/-! ### The display by the writes -/

namespace TerminalWrite

/-- The status that waits for a wipe after a write, given the one `before` it. -/
def onDisplay (before : Option String) : TerminalWrite → Option String
  | wipe => none
  | status text => some text
  | _ => before

/-- The status that waits for a wipe after some `writes`, if there is one. -/
def display (writes : List TerminalWrite) : Option String :=
  writes.foldl onDisplay none

/-- Every status among some `writes` is wiped by a later one of them. -/
def Wiped (writes : List TerminalWrite) : Prop :=
  ∀ before text after, writes = before ++ .status text :: after → .wipe ∈ after

/-- The write needs a line without a status, as everything does but a wipe and a line of the log. -/
def NeedsClear : TerminalWrite → Prop
  | wipe | log _ => False
  | _ => True

/-- Whatever needs a line without a status finds one, given the status `shown` before the writes. -/
def Clean : Option String → List TerminalWrite → Prop
  | _, [] => True
  | shown, w :: rest => (w.NeedsClear → shown = none) ∧ Clean (w.onDisplay shown) rest

theorem wiped_nil : Wiped [] := by
  intro before text after h
  cases before <;> cases h

/-- A first write `w` that is a status has to be wiped by the others, and they by themselves. -/
theorem wiped_cons (w : TerminalWrite) (rest : List TerminalWrite) :
    Wiped (w :: rest) ↔ (∀ text, w = .status text → .wipe ∈ rest) ∧ Wiped rest := by
  constructor
  · intro h
    refine ⟨?_, fun before text after hrest => h (w :: before) text after (congrArg (w :: ·) hrest)⟩
    rintro text rfl
    exact h [] text rest rfl
  · rintro ⟨hfirst, hrest⟩ before text after h
    cases before with
    | nil =>
        obtain ⟨rfl, rfl⟩ := List.cons.inj h
        exact hfirst text rfl
    | cons w' before => exact hrest before text after (List.cons.inj h).2

/-- After some `writes` nothing waits for a wipe if their statuses were wiped, and the status
`shown` before them was, if there was one. -/
theorem foldl_onDisplay_eq_none_iff (shown : Option String) (writes : List TerminalWrite) :
    writes.foldl onDisplay shown = none ↔ Wiped writes ∧ (shown = none ∨ .wipe ∈ writes) := by
  induction writes generalizing shown with
  | nil => simp [wiped_nil]
  | cons w rest ih =>
      rw [List.foldl_cons, ih, wiped_cons]
      cases w with
      | wipe => simp [onDisplay]
      | status text =>
          simp only [onDisplay, status.injEq, List.mem_cons, reduceCtorEq, false_or]
          constructor
          · rintro ⟨hrest, hwipe⟩
            exact ⟨⟨fun _ _ => hwipe, hrest⟩, .inr hwipe⟩
          · rintro ⟨⟨hwipe, hrest⟩, -⟩
            exact ⟨hrest, hwipe text rfl⟩
      | _ => simp [onDisplay]

/-- **Nothing waits for a wipe exactly if every status was wiped**: the fold `display` and the
splits of `Wiped` say the same. -/
theorem display_eq_none_iff (writes : List TerminalWrite) :
    display writes = none ↔ Wiped writes := by
  rw [display, foldl_onDisplay_eq_none_iff]
  exact and_iff_left (.inl rfl)

/-- Clean writes in two parts `a` and `b`, of which the second one finds what the first one
leaves. -/
theorem clean_append (shown : Option String) (a b : List TerminalWrite) :
    Clean shown (a ++ b) ↔ Clean shown a ∧ Clean (a.foldl onDisplay shown) b := by
  induction a generalizing shown with
  | nil => exact (and_iff_right trivial).symm
  | cons w rest ih =>
      rw [List.cons_append, Clean, ih, Clean, List.foldl_cons, and_assoc]

/-- Before a write `w` that needs a line without a status, every status was wiped. -/
theorem Clean.wiped {before after : List TerminalWrite} {w : TerminalWrite}
    (h : Clean none (before ++ w :: after)) (hw : w.NeedsClear) : Wiped before := by
  have hnone : display before = none := ((clean_append _ _ _).mp h).2.1 hw
  exact (display_eq_none_iff _).mp hnone

/-- Right behind a status comes nothing, a wipe, or a line of the log. -/
theorem Clean.behind {before after : List TerminalWrite} {text : String}
    (h : Clean none (before ++ .status text :: after)) :
    after = [] ∨ (∃ rest, after = .wipe :: rest) ∨ ∃ r rest, after = .log r :: rest := by
  have hafter : Clean (some text) after := ((clean_append _ _ _).mp h).2.2
  cases after with
  | nil => exact .inl rfl
  | cons w rest =>
      cases w with
      | wipe => exact .inr (.inl ⟨rest, rfl⟩)
      | log r => exact .inr (.inr ⟨r, rest, rfl⟩)
      | _ => exact absurd (hafter.1 trivial) (Option.some_ne_none text)

/-! ### The display by the text -/

theorem outputText_append (a b : List TerminalWrite) :
    outputText (a ++ b) = outputText a ++ outputText b := by
  rw [outputText, List.map_append, String.join_append]
  rfl

theorem errorText_append (now : String) (a b : List TerminalWrite) :
    errorText now (a ++ b) = errorText now a ++ errorText now b := by
  rw [errorText, List.map_append, String.join_append]
  rfl

theorem errorText_cons (now : String) (w : TerminalWrite) (rest : List TerminalWrite) :
    errorText now (w :: rest) = w.error now ++ errorText now rest := by
  rw [errorText, List.map_cons, String.join_cons]
  rfl

theorem errorText_singleton (now : String) (w : TerminalWrite) :
    errorText now [w] = w.error now := by
  rw [errorText_cons]
  exact String.append_empty

/-- Behind every status among some `writes` the standard error receives the clear-line sequence,
sooner or later. -/
def Cleared (writes : List TerminalWrite) : Prop :=
  ∀ before text after, writes = before ++ .status text :: after →
    ∀ now, ∃ between rest, errorText now after = between ++ "\r\x1b[2K" ++ rest

/-- The clear-line sequence is the next thing that the standard error receives, so that it clears
the line that the cursor was left on. -/
def ClearsNext (writes : List TerminalWrite) : Prop :=
  ∀ now, ∃ rest, errorText now writes = "\r\x1b[2K" ++ rest

/-- No status among some `writes` stays on the screen: each one is cleared while the cursor is still
on its line. -/
def Gone (writes : List TerminalWrite) : Prop :=
  ∀ before text after, writes = before ++ .status text :: after → ClearsNext after

/-- Where every status is wiped, the clear-line sequence follows every status, since a wipe sends
it. -/
theorem Wiped.cleared {writes : List TerminalWrite} (h : Wiped writes) : Cleared writes := by
  intro before text after hsplit now
  obtain ⟨between, rest, rfl⟩ := List.append_of_mem (h before text after hsplit)
  refine ⟨errorText now between, errorText now rest, ?_⟩
  rw [errorText_append, errorText_cons, String.append_assoc]
  rfl

theorem clearsNext_wipe (rest : List TerminalWrite) : ClearsNext (.wipe :: rest) := by
  intro now
  exact ⟨errorText now rest, errorText_cons now .wipe rest⟩

/-- A line of the log comes before any clear-line sequence behind it, since it is not one itself. -/
theorem not_clearsNext_log (r : LogRecord) (rest : List TerminalWrite) :
    ¬ ClearsNext (.log r :: rest) := by
  intro h
  obtain ⟨behind, hnext⟩ := h ""
  obtain ⟨line, hline⟩ := r.toList_text ""
  have hchars := congrArg String.toList hnext
  rw [errorText_cons, error, String.toList_append, String.toList_append, hline] at hchars
  exact absurd (List.cons.inj hchars).1 (by decide)

theorem not_clearsNext_nil : ¬ ClearsNext [] := by
  intro h
  obtain ⟨rest, hnext⟩ := h ""
  have hchars := congrArg String.toList hnext
  rw [String.toList_append] at hchars
  cases hchars

/-- **Where everything is written in order, a status is gone by the next write**, which is there
unless nothing has been written since, and which must not be a line of the log. -/
theorem Clean.clearsNext_iff {before after : List TerminalWrite} {text : String}
    (h : Clean none (before ++ .status text :: after)) :
    ClearsNext after ↔ after ≠ [] ∧ ∀ r rest, after ≠ .log r :: rest := by
  rcases h.behind with rfl | ⟨rest, rfl⟩ | ⟨r, rest, rfl⟩
  · exact iff_of_false not_clearsNext_nil fun h => h.1 rfl
  · refine iff_of_true (clearsNext_wipe rest) ⟨List.cons_ne_nil _ _, fun r more h => ?_⟩
    cases (List.cons.inj h).1
  · exact iff_of_false (not_clearsNext_log r rest) fun h => h.2 r rest rfl

/-- Where everything is written in order and every status is wiped, no status stays on the screen
exactly if no line of the log stands right behind one. -/
theorem gone_iff {writes : List TerminalWrite} (hclean : Clean none writes)
    (hwiped : Wiped writes) :
    Gone writes ↔
      ∀ before text r after, writes ≠ before ++ .status text :: .log r :: after := by
  constructor
  · rintro hgone before text r after rfl
    exact not_clearsNext_log r after (hgone before text (.log r :: after) rfl)
  · rintro hlog before text after rfl
    refine hclean.clearsNext_iff.mpr ⟨?_, fun r rest h => ?_⟩
    · rintro rfl
      cases hwiped before text [] rfl
    · exact hlog before text r rest (h ▸ rfl)

end TerminalWrite

/-! ### The display by the effects -/

namespace HostEffect

/-- The status that should wait for a wipe after an effect, given the one `before` it. -/
def onDisplay (before : Option String) : HostEffect → Option String
  | .view (.setStatus _ text) => some text
  | .view (.append _) | .view (.eraseStatus _) => none
  | _ => before

/-- The effect goes below a status without wiping it, and so has to come where no status is. -/
def NeedsClear : HostEffect → Prop
  | .prompt .. | .openView | .view (.name _) | .dialog _ => True
  | _ => False

/-- Whatever has to comes where no status is, given the status `shown` before the effects. -/
def Orderly : Option String → List HostEffect → Prop
  | _, [] => True
  | shown, e :: rest => (e.NeedsClear → shown = none) ∧ Orderly (e.onDisplay shown) rest

/-- The text that an effect appends to the view, for an effect that appends one. -/
def appended? : HostEffect → Option String
  | .view (.append text) => some text
  | _ => none

/-- Orderly effects in two parts `a` and `b`, of which the second one finds what the first one
leaves. -/
theorem orderly_append (shown : Option String) (a b : List HostEffect) :
    Orderly shown (a ++ b) ↔ Orderly shown a ∧ Orderly (a.foldl onDisplay shown) b := by
  induction a generalizing shown with
  | nil => exact (and_iff_right trivial).symm
  | cons e rest ih =>
      rw [List.cons_append, Orderly, ih, Orderly, List.foldl_cons, and_assoc]

/-- Effects that need no line without a status are orderly behind any status. -/
theorem orderly_of_forall {effects : List HostEffect} (h : ∀ e ∈ effects, ¬ e.NeedsClear)
    (shown : Option String) : Orderly shown effects := by
  induction effects generalizing shown with
  | nil => trivial
  | cons e rest ih =>
      obtain ⟨he, hrest⟩ := List.forall_mem_cons.mp h
      exact ⟨fun hneeds => absurd hneeds he, ih hrest _⟩

end HostEffect

/-! ### Events on a terminal -/

namespace Terminal

open TerminalWrite (display outputText errorText Clean Wiped Cleared ClearsNext)
open HostEffect (Orderly)

variable {asks : Bool} {t : Terminal} {shown : Option String} {e : HostEffect}
  {events : List Event}

/-- A wipe, if a status is `shown` that waits for one, and nothing otherwise. -/
def wipeOf (shown : Option String) : List TerminalWrite :=
  if shown.isSome then [.wipe] else []

/-- A terminal that knows whether a status waits wipes exactly if one does. -/
theorem wiping_eq (h : shown.isSome = t.statusShown) : t.wiping = wipeOf shown := by
  rw [wiping, wipeOf, h]

/-- Behind a wipe of the status that was `shown`, no status waits for one. -/
theorem foldl_onDisplay_wipeOf (shown : Option String) :
    (wipeOf shown).foldl TerminalWrite.onDisplay shown = none := by
  cases shown <;> rfl

/-- The text of a wipe is the clear-line sequence, and without a wipe there is no text. -/
theorem errorText_wipeOf (now : String) (shown : Option String) :
    errorText now (wipeOf shown) = if shown.isSome then "\r\x1b[2K" else "" := by
  cases shown <;> rfl

/-- One effect leaves behind its writes the status that it should leave, and the terminal knows
whether there is one. -/
theorem display_present (h : shown.isSome = t.statusShown) (he : e.NeedsClear → shown = none) :
    (t.present asks e).2.foldl TerminalWrite.onDisplay shown = e.onDisplay shown ∧
      (e.onDisplay shown).isSome = (t.present asks e).1.statusShown := by
  cases e with
  | prompt caption initial =>
      refine ⟨?_, h⟩
      cases asks <;> rfl
  | openView =>
      obtain rfl := he trivial
      exact ⟨rfl, rfl⟩
  | dialog text => exact ⟨rfl, h⟩
  | view v =>
      cases v with
      | append text =>
          refine ⟨?_, rfl⟩
          rw [present, showView, List.foldl_append, wiping_eq h, foldl_onDisplay_wipeOf]
          rfl
      | eraseStatus key =>
          refine ⟨?_, rfl⟩
          rw [present, showView, wiping_eq h, foldl_onDisplay_wipeOf]
          rfl
      | setStatus key text => exact ⟨rfl, rfl⟩
      | _ => exact ⟨rfl, h⟩

/-- In the writes of one effect, whatever needs a line without a status finds one. -/
theorem clean_present (h : shown.isSome = t.statusShown) (he : e.NeedsClear → shown = none) :
    Clean shown (t.present asks e).2 := by
  have hwiping : Clean shown (wipeOf shown) := by
    cases shown with
    | none => trivial
    | some text => exact ⟨False.elim, trivial⟩
  cases e with
  | prompt caption initial =>
      cases asks with
      | false => trivial
      | true => exact ⟨fun _ => he trivial, trivial⟩
  | openView => trivial
  | dialog text => exact ⟨fun _ => he trivial, trivial⟩
  | view v =>
      cases v with
      | append text =>
          rw [present, showView, wiping_eq h, TerminalWrite.clean_append, foldl_onDisplay_wipeOf]
          exact ⟨hwiping, fun _ => rfl, trivial⟩
      | eraseStatus key =>
          rw [present, showView, wiping_eq h]
          exact hwiping
      | setStatus key text => exact ⟨False.elim, fun _ => rfl, trivial⟩
      | name title => exact ⟨fun _ => he trivial, trivial⟩
      | _ => trivial

/-- One effect writes to the standard output the text that it appends to the view, and nothing
else. -/
theorem output_present (asks : Bool) (t : Terminal) (e : HostEffect) :
    outputText (t.present asks e).2 = e.appended?.getD "" := by
  cases e with
  | prompt caption initial => cases asks <;> rfl
  | openView => rfl
  | dialog text => rfl
  | view v =>
      rw [present, results_showView]
      cases v <;> rfl

/-- **The flag, the writes and the effects agree**, whatever is logged: after events with orderly
effects the status waits that the effects leave, and the terminal knows whether there is one. -/
theorem display_reactAll (h : shown.isSome = t.statusShown)
    (horderly : Orderly shown (events.filterMap Event.effect?)) :
    (reactAll asks t events).2.foldl TerminalWrite.onDisplay shown =
        (events.filterMap Event.effect?).foldl HostEffect.onDisplay shown ∧
      ((events.filterMap Event.effect?).foldl HostEffect.onDisplay shown).isSome =
        (reactAll asks t events).1.statusShown := by
  induction events generalizing t shown with
  | nil => exact ⟨rfl, h⟩
  | cons e rest ih =>
      cases e with
      | log r => exact ih h horderly
      | effect e =>
          obtain ⟨hdisplay, hflag⟩ := @display_present asks t shown e h horderly.1
          obtain ⟨hrest, hlast⟩ := ih hflag horderly.2
          refine ⟨?_, hlast⟩
          rw [reactAll_cons, react, List.foldl_append, hdisplay, hrest]
          rfl

/-- In the writes of events with orderly effects, whatever needs a line without a status finds
one. -/
theorem clean_reactAll (h : shown.isSome = t.statusShown)
    (horderly : Orderly shown (events.filterMap Event.effect?)) :
    Clean shown (reactAll asks t events).2 := by
  induction events generalizing t shown with
  | nil => trivial
  | cons e rest ih =>
      cases e with
      | log r => exact ⟨False.elim, ih h horderly⟩
      | effect e =>
          obtain ⟨hdisplay, hflag⟩ := @display_present asks t shown e h horderly.1
          rw [reactAll_cons, react, TerminalWrite.clean_append, hdisplay]
          exact ⟨clean_present h horderly.1, ih hflag horderly.2⟩

/-- The standard output receives the texts that the effects among the `events` append to the view,
one after another. -/
theorem output_reactAll (asks : Bool) (t : Terminal) (events : List Event) :
    outputText (reactAll asks t events).2 =
      String.join ((events.filterMap Event.effect?).filterMap HostEffect.appended?) := by
  induction events generalizing t with
  | nil => rfl
  | cons e rest ih =>
      rw [reactAll_cons, TerminalWrite.outputText_append, ih]
      cases e with
      | log r => exact String.empty_append
      | effect e =>
          have hcons : (Event.effect e :: rest).filterMap Event.effect? =
              e :: rest.filterMap Event.effect? := rfl
          rw [react, output_present, hcons, List.filterMap_cons]
          cases e.appended? with
          | none => exact String.empty_append
          | some text => exact String.join_cons.symm

/-! ### Tidy writes -/

/-- What a terminal writes for an event `e` behind the events `before` it: `output` goes to the
standard output and `error`, at whatever time it is now, to the standard error. -/
def Adds (asks : Bool) (before : List Event) (e : Event) (output : String)
    (error : (now : String) → String) : Prop :=
  ∃ own, writes asks (before ++ [e]) = writes asks before ++ own ∧
    outputText own = output ∧ ∀ now, errorText now own = error now

/-- What a terminal writes for some `events`, to which belong the `bodies` of some messages. -/
structure Tidy (asks : Bool) (events : List Event) (bodies : List String) : Prop where
  /-- The standard output receives the bodies and nothing else. -/
  output : outputText (writes asks events) = String.join bodies
  /-- What was written for the events so far stays in front of all that comes later. -/
  grows : ∀ before after, events = before ++ after → writes asks before <+: writes asks events
  /-- Text that is appended goes to the standard output. The standard error receives the clear-line
  sequence exactly if a status waits for it. -/
  append : ∀ before text after, events = before ++ .effect (.view (.append text)) :: after →
    Adds asks before (.effect (.view (.append text))) text fun _ =>
      if (display (writes asks before)).isSome then "\r\x1b[2K" else ""
  /-- For a status that is erased, the standard error receives the clear-line sequence exactly if a
  status waits for it. -/
  erase : ∀ before key after, events = before ++ .effect (.view (.eraseStatus key)) :: after →
    Adds asks before (.effect (.view (.eraseStatus key))) "" fun _ =>
      if (display (writes asks before)).isSome then "\r\x1b[2K" else ""
  /-- A new status is written on a line that is cleared for it, in faint type and with no line
  end. -/
  status : ∀ before key text after,
    events = before ++ .effect (.view (.setStatus key text)) :: after →
    Adds asks before (.effect (.view (.setStatus key text))) "" fun _ =>
      "\r\x1b[2K" ++ ("\x1b[2m" ++ text ++ "\x1b[0m")
  /-- A dialog is written to the standard error, with a line end. -/
  dialog : ∀ before text after, events = before ++ .effect (.dialog text) :: after →
    Adds asks before (.effect (.dialog text)) "" fun now =>
      "\x1b[2m" ++ now ++ "\x1b[0m" ++ " " ++ "\x1b[1m\x1b[31m[ERROR]\x1b[39m\x1b[0m" ++ " " ++
        ("\x1b[31m" ++ text ++ "\x1b[39m") ++ "\n"
  /-- A line of the log is written to the standard error, wherever it comes. -/
  log : ∀ before r after, events = before ++ .log r :: after →
    Adds asks before (.log r) "" fun now => r.text now
  /-- When results are written, each status before them has been followed by the clear-line
  sequence. -/
  results : ∀ before text after, writes asks events = before ++ .results text :: after →
    Cleared before
  /-- When a dialog is written, each status before it has been followed by the clear-line
  sequence. -/
  failure : ∀ before text after, writes asks events = before ++ .failure text :: after →
    Cleared before
  /-- A status is cleared from its line by what is written next, unless that is a line of the
  log. -/
  gone : ∀ before text after, writes asks events = before ++ .status text :: after →
    (ClearsNext after ↔ after ≠ [] ∧ ∀ r rest, after ≠ .log r :: rest)

/-- What is written for one more event `e` is what the terminal makes of it that has seen those
`before`. -/
theorem writes_concat (asks : Bool) (before : List Event) (e : Event) :
    writes asks (before ++ [e]) =
      writes asks before ++ ((reactAll asks {} before).1.react asks e).2 := by
  rw [writes, reactAll_append, reactAll_cons]
  exact congrArg _ (List.append_nil _)

/-- In front of each effect of some orderly ones, the terminal wipes exactly if a status waits. -/
theorem wiping_of_orderly {before after : List Event}
    (h : Orderly none ((before ++ .effect e :: after).filterMap Event.effect?)) :
    (reactAll asks {} before).1.wiping = wipeOf (display (writes asks before)) := by
  have hbefore : Orderly none (before.filterMap Event.effect?) := by
    rw [List.filterMap_append] at h
    exact ((HostEffect.orderly_append _ _ _).mp h).1
  obtain ⟨hdisplay, hflag⟩ := @display_reactAll asks {} none before rfl hbefore
  refine wiping_eq ?_
  rw [← hflag, ← hdisplay]
  rfl

/-- **What is written for orderly effects**, whatever is logged between them: the bodies and nothing
else on the standard output, and every status cleared in front of a text or a dialog. -/
theorem tidy_of_orderly (asks : Bool) (h : Orderly none (events.filterMap Event.effect?)) :
    Tidy asks events ((events.filterMap Event.effect?).filterMap HostEffect.appended?) := by
  have hclean : Clean none (writes asks events) := clean_reactAll rfl h
  constructor
  case output => exact output_reactAll asks {} events
  case grows =>
    rintro before after rfl
    rw [writes, writes, reactAll_append]
    exact List.prefix_append _ _
  case append =>
    rintro before text after rfl
    refine ⟨_, writes_concat .., results_showView _ _, fun now => ?_⟩
    rw [react, present, showView, wiping_of_orderly h, TerminalWrite.errorText_append,
      errorText_wipeOf]
    exact String.append_empty
  case erase =>
    rintro before key after rfl
    refine ⟨_, writes_concat .., results_showView _ _, fun now => ?_⟩
    rw [react, present, showView, wiping_of_orderly h, errorText_wipeOf]
  case status =>
    rintro before key text after rfl
    refine ⟨[.wipe, .status text], writes_concat .., rfl, fun now => ?_⟩
    rw [TerminalWrite.errorText_cons, TerminalWrite.errorText_singleton, ← dim_eq]
    rfl
  case dialog =>
    rintro before text after rfl
    refine ⟨[.failure text], writes_concat .., rfl, fun now => ?_⟩
    have hlabel : bold (red "[ERROR]") = "\x1b[1m\x1b[31m[ERROR]\x1b[39m\x1b[0m" := by
      simp [bold, red, styled]
    rw [TerminalWrite.errorText_singleton, TerminalWrite.error, hlabel, dim_eq, red_eq]
  case log =>
    rintro before r after rfl
    exact ⟨[.log r], writes_concat .., rfl,
      fun now => TerminalWrite.errorText_singleton now (.log r)⟩
  case results =>
    intro before text after hwrites
    rw [hwrites] at hclean
    exact (hclean.wiped trivial).cleared
  case failure =>
    intro before text after hwrites
    rw [hwrites] at hclean
    exact (hclean.wiped trivial).cleared
  case gone =>
    intro before text after hwrites
    rw [hwrites] at hclean
    exact hclean.clearsNext_iff

/-- Orderly effects that leave no status have every status wiped in the end. -/
theorem wiped_of_orderly (asks : Bool) (h : Orderly none (events.filterMap Event.effect?))
    (hlast : (events.filterMap Event.effect?).foldl HostEffect.onDisplay none = none) :
    Wiped (writes asks events) := by
  rw [← TerminalWrite.display_eq_none_iff]
  exact (@display_reactAll asks {} none events rfl h).1.trans hlast

end Terminal

end SelectorSearch
