import SelectorSearch.Shell.State

/-!
# Redirections

What a redirection makes of the descriptors of a command: it opens a file to read or to write, or
a text in the script to read, joins two descriptors, or closes one.

## Main results

* `lookup_of_redirect`: a redirection changes its own descriptor only.
-/

namespace SelectorSearch.Shell

/-- Why a redirection cannot open a file, where `missing` is said of a file or directory that is not
there. -/
def openReason (missing : String) : OsError → String
  | .notFound | .notADirectory => missing
  | e => e.reason

/-- The file that a redirection reads, or nothing if it cannot be opened. -/
def openToRead (name : String) : Action (Option Target) := do
  let s ← get
  if name = "/dev/null" then return some .nothing
  match s.files.read ⟨name⟩ with
  | .ok bytes => return some (← openSource bytes)
  | .error .isADirectory => return some .nothing
  | .error e =>
    complainHere ("cannot open " ++ name ++ ": " ++ openReason "No such file" e)
    return none

/-- The file that a redirection writes, or nothing if it cannot be opened. -/
def openToWrite (ds : Descriptors) (name : String) (keeps : Bool) : Action (Option Target) := do
  let s ← get
  match name with
  | "/dev/null" => return some .nothing
  | "/dev/stdout" => return ds.lookup 1
  | "/dev/stderr" => return ds.lookup 2
  | name =>
    match s.files.create ⟨name⟩ keeps with
    | .ok (files, place) =>
      set { s with files }
      return some (.file place)
    | .error e =>
      complainHere ("cannot create " ++ name ++ ": " ++ openReason "Directory nonexistent" e)
      return none

/-- The descriptors after a redirection whose `target` is expanded; nothing if it is impossible. -/
def redirect (ds : Descriptors) (r : Redirection) (target : String) :
    Action (Option Descriptors) := do
  match r.kind with
  | .read => return (← openToRead target).map (ds.set r.descriptor)
  | .document => return some (ds.set r.descriptor (← openSource (bytesOfString target)))
  | .write => return (← openToWrite ds target false).map (ds.set r.descriptor)
  | .append => return (← openToWrite ds target true).map (ds.set r.descriptor)
  | .join =>
    if target = "-" then return some (ds.close r.descriptor)
    match target.toNat?.bind (ds.lookup ·) with
    | some t => return some (ds.set r.descriptor t)
    | none =>
      complainHere (target ++ ": Bad file descriptor")
      return none

/-- What an action makes of a `target` that it opens, if it opens one. -/
theorem exists_target_of_map {action : Action (Option Target)} {make : Target → Descriptors}
    {ds : Descriptors} {s s' : State}
    (h : (do return (← action).map make : Action (Option Descriptors)).run s = .ok (some ds) s') :
    ∃ target, make target = ds := by
  change EStateM.bind action _ s = _ at h
  rw [EStateM.bind] at h
  split at h
  case h_1 target? t haction =>
      obtain ⟨hds, -⟩ := EStateM.Result.ok.inj h
      obtain ⟨target, -, hmake⟩ := Option.map_eq_some_iff.mp hds
      exact ⟨target, hmake⟩
  case h_2 => cases h

/-- **A redirection changes its own descriptor only**: every other one `n` stands for what it stood
for. -/
theorem lookup_of_redirect {ds ds' : Descriptors} {r : Redirection} {target : String} {s s' : State}
    (h : (redirect ds r target).run s = .ok (some ds') s') {n : Nat} (hn : n ≠ r.descriptor) :
    ds'.lookup n = ds.lookup n := by
  have hset (t : Target) : (ds.set r.descriptor t).lookup n = ds.lookup n := by
    rw [Descriptors.lookup_set, if_neg hn]
  have hclose : (ds.close r.descriptor).lookup n = ds.lookup n := by
    rw [Descriptors.lookup_close, if_neg hn]
  rw [redirect] at h
  split at h
  case h_1 | h_3 | h_4 =>
      obtain ⟨t, rfl⟩ := exists_target_of_map h
      exact hset t
  case h_2 =>
      obtain ⟨hds, -⟩ := EStateM.Result.ok.inj h
      obtain rfl := Option.some.inj hds
      exact hset _
  case h_5 =>
      split at h
      case isTrue =>
          obtain ⟨hds, -⟩ := EStateM.Result.ok.inj h
          obtain rfl := Option.some.inj hds
          exact hclose
      case isFalse =>
        split at h
        case h_1 t _ =>
            obtain ⟨hds, -⟩ := EStateM.Result.ok.inj h
            obtain rfl := Option.some.inj hds
            exact hset t
        case h_2 =>
            change EStateM.bind (complainHere _) _ s = _ at h
            rw [EStateM.bind] at h
            split at h
            case h_1 => cases (EStateM.Result.ok.inj h).1
            case h_2 => cases h

end SelectorSearch.Shell
