import Mathlib.Data.List.Basic
import SelectorSearch.Queue

/-!
# The Hand-Off Between Handles

Handles that are cloned from one another, however often and from whichever of them, are a family:
they have the same origin, the handle that came with the queue. Who is in a family can be read off
the acts (`origins`), without looking at the buffers.

A family is served as if it had a queue of its own that nobody else uses (`serve`). What the other
families do does not appear there at all. That messages are taken in the order in which they were
pushed, each of them once and none before it was pushed, is then a matter of that one queue.

The proof compares the store with the acts, act by act (`Tracks`): handles name the same buffer
exactly if they have the same origin (`Names`), and what is queued behind a handle is what is left
of the messages of its family.

## Main results

* `flatten_serve`: one queue hands over what it is given.
* `Names.create`, `Names.clone`: handles name buffers as their origins say.
* `Tracks.step`, `Tracks.run`: the store keeps to the acts.
* `handed_over`: messages are handed over within a family, once and in order.
-/

namespace SelectorSearch

namespace QueueStore

variable {s : QueueStore} {handle : Nat}

/-! ### Buffers and handles -/

/-- A new queue leaves every older `handle` with the family that it names. -/
theorem family_create (h : handle < s.handles.size) :
    s.create.1.family handle = s.family handle := by
  simp [family, create, Array.getElem?_push, h, Nat.ne_of_lt h]

/-- The handle of a new queue, which is the next free number, names the buffer that came with it. -/
theorem family_create_new : s.create.1.family s.handles.size = s.buffers.size := by
  simp [family, create]

/-- A clone leaves every older `handle` with the family that it names. -/
theorem family_clone (h : handle < s.handles.size) (original : Nat) :
    (s.clone original).1.family handle = s.family handle := by
  simp [family, clone, Array.getElem?_push, h, Nat.ne_of_lt h]

/-- A clone names the family of its `original`, so that the two share one buffer. -/
theorem family_clone_new (original : Nat) :
    (s.clone original).1.family s.handles.size = s.family original := by
  simp [family, clone]

/-- A clone leaves what is queued behind every older `handle`. -/
theorem queued_clone (h : handle < s.handles.size) (original : Nat) :
    (s.clone original).1.queued handle = s.queued handle := by
  simp only [queued, family_clone h]
  rfl

/-- Behind a clone waits what waits behind its `original`, messages that were pushed before the
clone included. -/
theorem queued_clone_new (original : Nat) :
    (s.clone original).1.queued s.handles.size = s.queued original := by
  simp only [queued, family_clone_new]
  rfl

/-- A new queue leaves what is queued behind every older `handle` that names a buffer. -/
theorem queued_create (h : handle < s.handles.size) (hb : s.family handle < s.buffers.size) :
    s.create.1.queued handle = s.queued handle := by
  simp only [queued, family_create h]
  simp [create, Array.getElem?_push, Nat.ne_of_lt hb]

/-- Behind the handle of a new queue nothing is queued yet. -/
theorem queued_create_new : s.create.1.queued s.handles.size = [] := by
  simp only [queued, family_create_new]
  simp [create]

/-! ### Acts and runs -/

/-- An act is possible exactly if the handle that it goes through exists, and creating a queue goes
through none. -/
theorem isSome_step?_iff {a : Act} :
    (s.step? a).isSome = true ↔ ∀ handle ∈ a.handle?, handle < s.handles.size := by
  rw [step?]
  cases h : a.handle? <;> simp

/-- A run takes its first act by `step?`, and from there goes on with the `rest`. Its history begins
with what that act took. -/
theorem run?_cons_eq_some {a : Act} {rest : List Act} {s' : QueueStore}
    {history : List (Act × List Message)} :
    s.run? (a :: rest) = some (s', history) ↔ ∃ next taken more, s.step? a = some (next, taken) ∧
      next.run? rest = some (s', more) ∧ history = (a, taken) :: more := by
  simp only [run?, Option.bind_eq_bind, Option.bind_eq_some_iff, Prod.exists, Option.pure_def,
    Option.some.injEq, Prod.mk.injEq]
  constructor
  · rintro ⟨next, taken, hstep, last, more, hrun, rfl, rfl⟩
    exact ⟨next, taken, more, hstep, hrun, rfl⟩
  · rintro ⟨next, taken, more, hstep, hrun, rfl⟩
    exact ⟨next, taken, hstep, s', more, hrun, rfl, rfl⟩

/-! ### Families -/

/-- The origins of all handles after an act. The handle that comes with a queue is its own origin,
and a clone has the origin of its original. -/
def addOrigin (origins : List Nat) : Act → List Nat
  | .create => origins ++ [origins.length]
  | .clone original => origins ++ origins[original]?.toList
  | _ => origins

/-- The origins of all handles after some `acts` that begin with no handle at all. -/
def origins (acts : List Act) : List Nat :=
  acts.foldl addOrigin []

theorem origins_concat (acts : List Act) (a : Act) :
    origins (acts ++ [a]) = addOrigin (origins acts) a := by
  simp [origins]

/-- Handles keep their origins, since `addOrigin` only adds something behind those that are
`known`. -/
theorem exists_addOrigin_eq (known : List Nat) (a : Act) :
    ∃ more, addOrigin known a = known ++ more := by
  cases a with
  | create => exact ⟨_, rfl⟩
  | clone original => exact ⟨_, rfl⟩
  | push handle m => exact ⟨[], (List.append_nil known).symm⟩
  | drain handle => exact ⟨[], (List.append_nil known).symm⟩

/-- What can be done with one queue: a message is pushed, or all that waits is drained. -/
inductive Use where
  | push (m : Message)
  | drain
  deriving DecidableEq, Repr

/-- The message that a use of the queue brings into it, which a drain does not. -/
def Use.message? : Use → Option Message
  | .push m => some m
  | .drain => none

/-- What an act does with the queue of the family that has this `origin`, if it does anything with
it. -/
def Act.use? (origins : List Nat) (origin : Nat) : Act → Option Use
  | .push handle m => if origins[handle]? = some origin then some (.push m) else none
  | .drain handle => if origins[handle]? = some origin then some .drain else none
  | _ => none

/-- What some `acts` do with the queue of the family that has this `origin`, in their order. -/
def uses (origins : List Nat) (origin : Nat) (acts : List Act) : List Use :=
  acts.filterMap (Act.use? origins origin)

/-- What the drains of a family take, one after another, as the `history` of a run tells it. -/
def takenIn (origins : List Nat) (origin : Nat) (history : List (Act × List Message)) :
    List (List Message) :=
  history.filterMap fun entry =>
    if entry.1.use? origins origin = some .drain then some entry.2 else none

theorem uses_concat (known : List Nat) (origin : Nat) (acts : List Act) (a : Act) :
    uses known origin (acts ++ [a]) = uses known origin acts ++ (a.use? known origin).toList := by
  rw [uses, List.filterMap_append, ← uses]
  cases h : a.use? known origin <;> simp [h]

theorem takenIn_concat (known : List Nat) (origin : Nat) (history : List (Act × List Message))
    (a : Act) (taken : List Message) :
    takenIn known origin (history ++ [(a, taken)]) = takenIn known origin history ++
      if a.use? known origin = some .drain then [taken] else [] := by
  rw [takenIn, List.filterMap_append, ← takenIn]
  by_cases h : a.use? known origin = some .drain <;> simp [h]

/-! ### A queue of one's own -/

/-- A queue that nobody else uses: what each drain takes, and what is left in the end. -/
def serve (queued : List Message) : List Use → List (List Message) × List Message
  | [] => ([], queued)
  | .push m :: rest => serve (queued ++ [m]) rest
  | .drain :: rest => (queued :: (serve [] rest).1, (serve [] rest).2)

/-- A queue goes on with what it has left, so that `serve` can be cut anywhere in its uses. -/
theorem serve_append (queued : List Message) (us more : List Use) :
    serve queued (us ++ more) = ((serve queued us).1 ++ (serve (serve queued us).2 more).1,
      (serve (serve queued us).2 more).2) := by
  induction us generalizing queued with
  | nil => rfl
  | cons u rest ih =>
      cases u with
      | push m => exact ih (queued ++ [m])
      | drain => simp [serve, ih]

/-- **What is pushed is taken or left**: what the drains take, one after another, and then what is
left, is what was `queued` and then pushed, in its order. -/
theorem flatten_serve (queued : List Message) (us : List Use) :
    (serve queued us).1.flatten ++ (serve queued us).2 = queued ++ us.filterMap Use.message? := by
  induction us generalizing queued with
  | nil => simp [serve]
  | cons u rest ih =>
      cases u with
      | push m =>
          have hmessages : (Use.push m :: rest).filterMap Use.message? =
              m :: rest.filterMap Use.message? := rfl
          rw [serve, ih, hmessages, List.append_assoc, List.singleton_append]
      | drain =>
          have hmessages : (Use.drain :: rest).filterMap Use.message? =
              rest.filterMap Use.message? := rfl
          rw [serve, List.flatten_cons, List.append_assoc, ih, hmessages, List.nil_append]

/-! ### Handles against their origins -/

/-- The handles of a store have the `known` origins: every handle names a buffer, and two of them
name the same one exactly if they have the same origin. -/
structure Names (known : List Nat) (s : QueueStore) : Prop where
  length_eq : known.length = s.handles.size
  origin_lt : ∀ origin ∈ known, origin < known.length
  family_lt : ∀ handle < s.handles.size, s.family handle < s.buffers.size
  family_eq_iff : ∀ handle < s.handles.size, ∀ other < s.handles.size,
    s.family handle = s.family other ↔ known[handle]? = known[other]?

/-- The store `s'` has one more handle than `s`, and the older handles name what they named
before. -/
structure Opens (s s' : QueueStore) : Prop where
  size_eq : s'.handles.size = s.handles.size + 1
  buffers_le : s.buffers.size ≤ s'.buffers.size
  family_eq : ∀ handle < s.handles.size, s'.family handle = s.family handle
  queued_eq : ∀ handle < s.handles.size, s'.queued handle = s.queued handle

/-- A `handle` of the larger store is an old one, or the one that was opened. -/
theorem Opens.cases {s' : QueueStore} (h : Opens s s') (hlt : handle < s'.handles.size) :
    handle < s.handles.size ∨ handle = s.handles.size := by
  have hsize := h.size_eq
  omega

theorem opens_clone (s : QueueStore) (original : Nat) : Opens s (s.clone original).1 where
  size_eq := Array.size_push _
  buffers_le := Nat.le_refl _
  family_eq := fun _ hlt => family_clone hlt original
  queued_eq := fun _ hlt => queued_clone hlt original

namespace Names

variable {known : List Nat}

/-- A `handle` with a known origin exists in the store. -/
theorem lt_size {origin : Nat} (h : Names known s) (horigin : known[handle]? = some origin) :
    handle < s.handles.size :=
  h.length_eq ▸ (List.getElem?_eq_some_iff.mp horigin).1

theorem opens_create (h : Names known s) : Opens s s.create.1 where
  size_eq := Array.size_push _
  buffers_le := by simp [QueueStore.create]
  family_eq := fun _ hlt => family_create hlt
  queued_eq := fun handle hlt => queued_create hlt (h.family_lt handle hlt)

/-- The origin of an old `handle` stays the same when another one is opened. -/
theorem getElem?_concat_old (h : Names known s) (origin : Nat) (hlt : handle < s.handles.size) :
    (known ++ [origin])[handle]? = known[handle]? :=
  List.getElem?_append_left (h.length_eq ▸ hlt)

/-- The handle that was opened has the `origin` that was added for it. -/
theorem getElem?_concat_new (h : Names known s) (origin : Nat) :
    (known ++ [origin])[s.handles.size]? = some origin := by
  rw [← h.length_eq, List.getElem?_concat_length]

/-- One handle more: if it names a buffer, and shares it with just those handles that have its
`origin`, then the origins are right for the larger store. -/
theorem opened {s' : QueueStore} {origin : Nat} (h : Names known s) (hopens : Opens s s')
    (horigin : origin ≤ known.length) (hnew : s'.family s.handles.size < s'.buffers.size)
    (hsame : ∀ handle < s.handles.size,
      s.family handle = s'.family s.handles.size ↔ known[handle]? = some origin) :
    Names (known ++ [origin]) s' where
  length_eq := by rw [List.length_append, h.length_eq, hopens.size_eq, List.length_singleton]
  origin_lt := by
    intro r hr
    rw [List.length_append, List.length_singleton]
    obtain hr | hr := List.mem_append.mp hr
    · exact Nat.lt_succ_of_lt (h.origin_lt r hr)
    · rw [List.mem_singleton.mp hr]
      exact Nat.lt_succ_of_le horigin
  family_lt := by
    intro handle hlt
    obtain hold | rfl := hopens.cases hlt
    · rw [hopens.family_eq handle hold]
      exact Nat.lt_of_lt_of_le (h.family_lt handle hold) hopens.buffers_le
    · exact hnew
  family_eq_iff := by
    intro handle hhandle other hother
    obtain hhandle | rfl := hopens.cases hhandle <;> obtain hother | rfl := hopens.cases hother
    · rw [hopens.family_eq handle hhandle, hopens.family_eq other hother,
        h.getElem?_concat_old origin hhandle, h.getElem?_concat_old origin hother]
      exact h.family_eq_iff handle hhandle other hother
    · rw [hopens.family_eq handle hhandle, h.getElem?_concat_old origin hhandle,
        h.getElem?_concat_new]
      exact hsame handle hhandle
    · rw [hopens.family_eq other hother, h.getElem?_concat_old origin hother,
        h.getElem?_concat_new, eq_comm, hsame other hother, eq_comm]
    · exact iff_of_true rfl rfl

/-- A new queue has an origin of its own, which no older handle has. -/
theorem create (h : Names known s) : Names (known ++ [known.length]) s.create.1 := by
  have hbuffers : s.create.1.buffers.size = s.buffers.size + 1 := Array.size_push _
  refine h.opened h.opens_create (Nat.le_refl _) ?_ fun handle hlt => ?_
  · rw [family_create_new, hbuffers]
    exact Nat.lt_succ_self _
  · refine iff_of_false (fun hfamily => ?_) fun horigin => ?_
    · have hbound := h.family_lt handle hlt
      rw [hfamily, family_create_new] at hbound
      exact Nat.lt_irrefl _ hbound
    · exact Nat.lt_irrefl _ (h.origin_lt _ (List.mem_of_getElem? horigin))

/-- A clone has the origin of its `original`, so that the two are of one family. -/
theorem clone {original origin : Nat} (h : Names known s)
    (horigin : known[original]? = some origin) :
    Names (known ++ [origin]) (s.clone original).1 := by
  have hlt := h.lt_size horigin
  refine h.opened (opens_clone s original) ?_ ?_ fun handle hhandle => ?_
  · exact Nat.le_of_lt (h.origin_lt _ (List.mem_of_getElem? horigin))
  · rw [family_clone_new]
    exact h.family_lt original hlt
  · rw [family_clone_new, h.family_eq_iff handle hhandle original hlt, horigin]

/-- What is queued does not matter for the handles: a store with the same handles, and as many
buffers, has the same origins. -/
theorem congr {s' : QueueStore} (h : Names known s) (hhandles : s'.handles = s.handles)
    (hbuffers : s'.buffers.size = s.buffers.size) : Names known s' where
  length_eq := by rw [hhandles, h.length_eq]
  origin_lt := h.origin_lt
  family_lt := by simpa only [family, hhandles, hbuffers] using h.family_lt
  family_eq_iff := by simpa only [family, hhandles] using h.family_eq_iff

end Names

/-! ### The store against the acts -/

/-- The store is what the `acts` have made of an empty one: its handles have their origins, and each
family has been served as if it had a queue of its own. -/
structure Tracks (acts : List Act) (history : List (Act × List Message)) (s : QueueStore) :
    Prop where
  names : Names (origins acts) s
  through_lt : ∀ a ∈ acts, ∀ handle ∈ a.handle?, handle < s.handles.size
  history_acts : history.map Prod.fst = acts
  served : ∀ handle origin : Nat, (origins acts)[handle]? = some origin →
    serve [] (uses (origins acts) origin acts) =
      (takenIn (origins acts) origin history, s.queued handle)

theorem tracks_nil : Tracks [] [] {} where
  names := ⟨rfl, by simp [origins], by simp, by simp⟩
  through_lt := by simp
  history_acts := rfl
  served := by simp [origins]

/-- More handles do not change what an act does with a family, if the act goes through one that was
`known` before. -/
theorem use?_append {known : List Nat} {a : Act} (h : ∀ handle ∈ a.handle?, handle < known.length)
    (more : List Nat) (origin : Nat) : a.use? (known ++ more) origin = a.use? known origin := by
  cases a with
  | create => rfl
  | clone original => rfl
  | push handle m => simp [Act.use?, List.getElem?_append_left (h handle rfl)]
  | drain handle => simp [Act.use?, List.getElem?_append_left (h handle rfl)]

namespace Tracks

variable {acts : List Act} {history : List (Act × List Message)}

/-- What was done with a family does not depend on the origins of the handles that come later. -/
theorem uses_append (h : Tracks acts history s) (more : List Nat) (origin : Nat) :
    uses (origins acts ++ more) origin acts = uses (origins acts) origin acts :=
  List.filterMap_congr fun a ha =>
    use?_append (h.names.length_eq ▸ h.through_lt a ha) more origin

/-- What was taken from a family does not depend on the origins of the handles that come later. -/
theorem takenIn_append (h : Tracks acts history s) (more : List Nat) (origin : Nat) :
    takenIn (origins acts ++ more) origin history = takenIn (origins acts) origin history := by
  refine List.filterMap_congr fun entry hentry => ?_
  have ha : entry.1 ∈ acts := h.history_acts ▸ List.mem_map_of_mem hentry
  have huse := use?_append (h.names.length_eq ▸ h.through_lt _ ha) more origin
  simp only [huse]

/-- All acts up to one more have gone through handles that exist, if that one does, and handles are
not closed. -/
theorem through_lt_concat {a : Act} {s' : QueueStore} (h : Tracks acts history s)
    (ha : ∀ handle ∈ a.handle?, handle < s.handles.size)
    (hsize : s.handles.size ≤ s'.handles.size) :
    ∀ b ∈ acts ++ [a], ∀ handle ∈ b.handle?, handle < s'.handles.size := by
  intro b hb handle hhandle
  obtain hb | hb := List.mem_append.mp hb
  · exact Nat.lt_of_lt_of_le (h.through_lt b hb handle hhandle) hsize
  · obtain rfl := List.mem_singleton.mp hb
    exact Nat.lt_of_lt_of_le (ha handle hhandle) hsize

theorem history_acts_concat (h : Tracks acts history s) (a : Act) (taken : List Message) :
    (history ++ [(a, taken)]).map Prod.fst = acts ++ [a] := by
  rw [List.map_append, h.history_acts]
  rfl

/-- An act that opens a handle uses no queue. The families are served as before, and the new handle
sees what its `origin` has queued. -/
theorem opened {a : Act} {s' : QueueStore} {origin : Nat} (h : Tracks acts history s)
    (ha : ∀ handle ∈ a.handle?, handle < s.handles.size) (hopens : Opens s s')
    (huse : ∀ known r, a.use? known r = none)
    (horigins : addOrigin (origins acts) a = origins acts ++ [origin])
    (hnames : Names (origins acts ++ [origin]) s')
    (hserved : serve [] (uses (origins acts) origin acts) =
      (takenIn (origins acts) origin history, s'.queued s.handles.size)) :
    Tracks (acts ++ [a]) (history ++ [(a, [])]) s' := by
  have hall : origins (acts ++ [a]) = origins acts ++ [origin] := by
    rw [origins_concat, horigins]
  constructor
  case names => rwa [hall]
  case through_lt => exact h.through_lt_concat ha (hopens.size_eq ▸ Nat.le_succ _)
  case history_acts => exact h.history_acts_concat a []
  case served =>
    intro handle r hr
    rw [hall] at hr ⊢
    rw [uses_concat, takenIn_concat, huse, h.uses_append, h.takenIn_append]
    obtain hold | rfl := hopens.cases (hnames.lt_size hr)
    · rw [h.names.getElem?_concat_old origin hold] at hr
      simp [h.served handle r hr, hopens.queued_eq handle hold]
    · rw [h.names.getElem?_concat_new] at hr
      obtain rfl := Option.some.inj hr
      simp [hserved]

/-- An act that uses a queue opens no handle. It serves the family of the handle that it goes
`through`, and every other family is left alone. -/
theorem used {a : Act} {u : Use} {through : Nat} {taken : List Message} {s' : QueueStore}
    (h : Tracks acts history s) (ha : a.handle? = some through)
    (hthrough : through < s.handles.size)
    (huse : ∀ known r, a.use? known r = if known[through]? = some r then some u else none)
    (horigins : addOrigin (origins acts) a = origins acts)
    (hhandles : s'.handles = s.handles) (hbuffers : s'.buffers.size = s.buffers.size)
    (hqueued : ∀ handle < s.handles.size, s'.queued handle =
      if s.family through = s.family handle then (serve (s.queued handle) [u]).2
      else s.queued handle)
    (htaken : (serve (s.queued through) [u]).1 = if u = .drain then [taken] else []) :
    Tracks (acts ++ [a]) (history ++ [(a, taken)]) s' := by
  have hall : origins (acts ++ [a]) = origins acts := by
    rw [origins_concat, horigins]
  constructor
  case names => exact hall ▸ h.names.congr hhandles hbuffers
  case through_lt =>
    refine h.through_lt_concat (fun handle hhandle => ?_) (Nat.le_of_eq (by rw [hhandles]))
    obtain rfl := Option.some.inj (ha.symm.trans hhandle)
    exact hthrough
  case history_acts => exact h.history_acts_concat a taken
  case served =>
    intro handle r hr
    rw [hall] at hr ⊢
    have hlt := h.names.lt_size hr
    have hsame := h.names.family_eq_iff through hthrough handle hlt
    rw [hr] at hsame
    rw [uses_concat, takenIn_concat, huse, hqueued handle hlt]
    by_cases hin : (origins acts)[through]? = some r
    · have hfamilies := hsame.mpr hin
      have hqueue : s.queued through = s.queued handle := by rw [queued, queued, hfamilies]
      rw [hqueue] at htaken
      simp [hin, hfamilies, serve_append, h.served handle r hr, htaken]
    · simp [hin, mt hsame.mp hin, h.served handle r hr]

/-- A new queue begins a family of its own, with nothing pushed to it and nothing taken from it. -/
theorem create (h : Tracks acts history s) :
    Tracks (acts ++ [.create]) (history ++ [(.create, [])]) s.create.1 := by
  have hfresh : ∀ handle : Nat, (origins acts)[handle]? ≠ some (origins acts).length :=
    fun handle horigin =>
      Nat.lt_irrefl _ (h.names.origin_lt _ (List.mem_of_getElem? horigin))
  have hunused (a : Act) : a.use? (origins acts) (origins acts).length = none := by
    cases a <;> simp [Act.use?, hfresh]
  refine h.opened nofun h.names.opens_create (fun _ _ => rfl) rfl h.names.create ?_
  simp [uses, takenIn, hunused, serve, queued_create_new]

/-- A clone joins the family of its `original`, and sees from then on what that family has
queued. -/
theorem clone {original : Nat} (h : Tracks acts history s) (hlt : original < s.handles.size) :
    Tracks (acts ++ [.clone original]) (history ++ [(.clone original, [])])
      (s.clone original).1 := by
  obtain ⟨origin, horigin⟩ : ∃ origin, (origins acts)[original]? = some origin :=
    ⟨_, List.getElem?_eq_getElem (h.names.length_eq ▸ hlt)⟩
  refine h.opened ?_ (opens_clone s original) (fun _ _ => rfl) (by rw [addOrigin, horigin]; rfl)
    (h.names.clone horigin) ?_
  · rintro handle ⟨rfl⟩
    exact hlt
  · rw [queued_clone_new]
    exact h.served original origin horigin

/-- **One act** keeps the store to the acts: what `step?` makes of the store is what `Tracks` says
of one act more. -/
theorem step {a : Act} {s' : QueueStore} {taken : List Message} (h : Tracks acts history s)
    (hstep : s.step? a = some (s', taken)) :
    Tracks (acts ++ [a]) (history ++ [(a, taken)]) s' := by
  rw [step?] at hstep
  split at hstep
  case isFalse => cases hstep
  case isTrue hnamed =>
  cases a with
  | create =>
      obtain ⟨rfl, rfl⟩ := Prod.mk.inj (Option.some.inj hstep)
      exact h.create
  | clone original =>
      obtain ⟨rfl, rfl⟩ := Prod.mk.inj (Option.some.inj hstep)
      exact h.clone (by simpa [Act.handle?] using hnamed)
  | push through m =>
      obtain ⟨rfl, rfl⟩ := Prod.mk.inj (Option.some.inj hstep)
      refine h.used rfl (by simpa [Act.handle?] using hnamed) (fun _ _ => rfl) rfl rfl ?_ ?_ rfl
      · exact Array.size_modify ..
      · exact fun handle hlt => queued_push (h.names.family_lt handle hlt) through m
  | drain through =>
      obtain ⟨rfl, rfl⟩ := Prod.mk.inj (Option.some.inj hstep)
      refine h.used rfl (by simpa [Act.handle?] using hnamed) (fun _ _ => rfl) rfl rfl ?_ ?_ rfl
      · exact Array.size_modify ..
      · exact fun handle _ => queued_drain s handle through

/-- **A run** keeps the store to the acts, however many of them there are. -/
theorem run {before : List Act} {past : List (Act × List Message)} {s' : QueueStore}
    (h : Tracks before past s)
    (hrun : s.run? acts = some (s', history)) : Tracks (before ++ acts) (past ++ history) s' := by
  induction acts generalizing s before past history with
  | nil =>
      obtain ⟨rfl, rfl⟩ := Prod.mk.inj (Option.some.inj hrun)
      simpa using h
  | cons a rest ih =>
      obtain ⟨next, taken, more, hstep, hrest, rfl⟩ := run?_cons_eq_some.mp hrun
      simpa using ih (h.step hstep) hrest

/-- An act that does nothing with a family leaves what is queued behind every `handle` of it. -/
theorem queued_of_use?_eq_none {a : Act} {s' : QueueStore} {taken : List Message} {origin : Nat}
    (h : Tracks acts history s) (horigin : (origins acts)[handle]? = some origin)
    (hstep : s.step? a = some (s', taken))
    (hother : a.use? (origins acts) origin = none) : s'.queued handle = s.queued handle := by
  obtain ⟨more, hmore⟩ := exists_addOrigin_eq (origins acts) a
  have hall : origins (acts ++ [a]) = origins acts ++ more := by rw [origins_concat, hmore]
  have hnamed := isSome_step?_iff.mp (hstep ▸ rfl : (s.step? a).isSome = true)
  have hlater : (origins (acts ++ [a]))[handle]? = some origin := by
    rw [hall, List.getElem?_append_left (List.getElem?_eq_some_iff.mp horigin).1, horigin]
  have hnone : a.use? (origins acts ++ more) origin = none := by
    rw [use?_append (h.names.length_eq ▸ hnamed), hother]
  have hserved := (h.step hstep).served handle origin hlater
  rw [hall, uses_concat, hnone, Option.toList_none, List.append_nil, h.uses_append,
    h.served handle origin horigin] at hserved
  exact (Prod.mk.inj hserved).2.symm

end Tracks

/-- **Messages are handed over within a family.** What its drains have taken, one after another, and
then what is queued, is what was pushed through its handles, in that order. Each drain takes what it
would take from a queue that only this family uses, and every handle of the family tells how many
messages are left. Every act through handles that there are is possible, and one that does not go
through a handle of the family leaves its messages. -/
theorem handed_over {acts : List Act} {history : List (Act × List Message)} {origin : Nat}
    (h : run? {} acts = some (s, history)) (horigin : (origins acts)[handle]? = some origin) :
    let taken := takenIn (origins acts) origin history
    let used := uses (origins acts) origin acts
    taken.flatten ++ s.queued handle = used.filterMap Use.message? ∧
      (taken, s.queued handle) = serve [] used ∧
      (∀ other : Nat, (origins acts)[other]? = some origin →
        taken.flatten.length + s.length other = (used.filterMap Use.message?).length ∧
        s.isEmpty other = (s.length other == 0) ∧ s.queued other = s.queued handle) ∧
      ∀ a : Act, (∀ through ∈ a.handle?, through < (origins acts).length) →
        ∃ s' now, s.step? a = some (s', now) ∧
          (a.use? (origins acts) origin = none → s'.queued handle = s.queued handle) := by
  intro taken used
  have htracks : Tracks acts history s := by simpa using tracks_nil.run h
  have hserved := htracks.served handle origin horigin
  have hflatten := flatten_serve [] used
  rw [hserved, List.nil_append] at hflatten
  refine ⟨hflatten, hserved.symm, fun other hother => ?_, fun a hthrough => ?_⟩
  · have hsame : s.queued other = s.queued handle := by
      have hother := htracks.served other origin hother
      exact (Prod.mk.inj (hother.symm.trans hserved)).2
    refine ⟨?_, ?_, hsame⟩
    · rw [← hflatten, List.length_append, length, hsame]
    · rw [isEmpty, length]
      cases s.queued other <;> rfl
  · rw [htracks.names.length_eq, ← isSome_step?_iff] at hthrough
    obtain ⟨⟨s', now⟩, hstep⟩ := Option.isSome_iff_exists.mp hthrough
    exact ⟨s', now, hstep, htracks.queued_of_use?_eq_none horigin hstep⟩

/-- Two queues, one with a clone and a clone of the clone: the other queue is drained while messages
wait, and a message pushed through one of the three handles is seen through all of them. -/
theorem handed_over_between_clones :
    let acts : List Act := [.create, .create, .clone 0, .push 2 (.malformed "a"),
      .push 1 (.malformed "x"), .clone 2, .drain 3, .push 0 (.malformed "b"), .drain 1,
      .push 3 (.malformed "c")]
    ∃ s history, run? {} acts = some (s, history) ∧ (origins acts)[3]? = some 0 ∧
      takenIn (origins acts) 0 history = [[.malformed "a"]] ∧
      s.queued 3 = [.malformed "b", .malformed "c"] ∧ s.length 2 = 2 ∧ s.isEmpty 0 = false ∧
      ∃ s' now, s.step? (.drain 1) = some (s', now) ∧ s'.queued 3 = s.queued 3 := by
  intro acts
  have hsome : (run? {} acts).isSome = true := by decide
  obtain ⟨⟨s, history⟩, hrun⟩ := Option.isSome_iff_exists.mp hsome
  obtain ⟨-, hserved, hothers, hnext⟩ := handed_over hrun (rfl : (origins acts)[3]? = some 0)
  have hserve : serve [] (uses (origins acts) 0 acts) =
      ([[.malformed "a"]], [.malformed "b", .malformed "c"]) := rfl
  obtain ⟨htaken, hqueued⟩ := Prod.mk.inj (hserved.trans hserve)
  obtain ⟨-, hempty, hsame⟩ := hothers 0 rfl
  obtain ⟨s', now, hstep, hleaves⟩ := hnext (.drain 1) (by decide)
  refine ⟨s, history, hrun, rfl, htaken, hqueued, ?_, ?_, s', now, hstep, hleaves rfl⟩
  · rw [length, (hothers 2 rfl).2.2, hqueued]
    rfl
  · rw [hempty, length, hsame, hqueued]
    rfl

end QueueStore

end SelectorSearch
