import SelectorSearch.Config
import SelectorSearch.Toml.Value

/-!
# Settings from TOML

The settings that the entries of a configuration file make. A setting that no entry gives has its
default, and entries of other names are ignored. The first entry of the wrong kind, in the order
of the file, is reported with its place.

## Main results

* `enterAll_cons`: entries take effect one after another.
-/

namespace SelectorSearch.Config

open Toml (Located)

/-- A value of the wrong kind, and where in the file it is found. -/
structure Fault where
  span : Toml.Span
  mismatch : Mismatch
  deriving DecidableEq, Repr

/-- The text of a value, where `wanted` says what it is for if it is no string. -/
def textOf (wanted : Wanted) : Located → Except Fault String
  | (_, .string s) => .ok s
  | (span, v) => .error ⟨span, .kind v.found wanted⟩

/-- The path of a value, which has to be a string. -/
def pathOf (v : Located) : Except Fault Path :=
  (textOf .path v).map Path.mk

/-- The number of milliseconds of a value, which has to be an integer that is not negative. -/
def countOf : Located → Except Fault UInt64
  | (span, .integer n) =>
    if 0 ≤ n then .ok (UInt64.ofNat n.toNat)
    else .error ⟨span, .range (.integer n) .count⟩
  | (span, v) => .error ⟨span, .kind v.found .count⟩

/-- The list of texts of a value, which has to be an array of strings. -/
def textsOf : Located → Except Fault (List String)
  | (span, v) =>
    match v.elements? with
    | some items => items.mapM (textOf .text)
    | none => .error ⟨span, .kind v.found .sequence⟩

/-- The configuration with one entry, which replaces the setting that its `key` names. Other keys
are passed over. -/
def enter (c : Config) (key : String) (v : Located) : Except Fault Config :=
  match key with
  | "node_path" => return { c with nodePath := ← pathOf v }
  | "node_path_osx" => return { c with nodePathOsx := ← pathOf v }
  | "node_path_windows" => return { c with nodePathWindows := ← pathOf v }
  | "node_path_linux" => return { c with nodePathLinux := ← pathOf v }
  | "script_path" => return { c with scriptPath := ← pathOf v }
  | "extension" => return { c with extension := ← textOf .text v }
  | "ignore" => return { c with ignore := ← textsOf v }
  | "tick_interval_ms" => return { c with tickIntervalMs := ← countOf v }
  | "terminate_timeout_ms" => return { c with terminateTimeoutMs := ← countOf v }
  | _ => return c

/-- The configuration with some entries, in their order. -/
def enterAll (c : Config) (entries : Toml.Entries) : Except Fault Config :=
  entries.foldlM (fun c (key, v) => c.enter key v) c

/-- The configuration that the entries of a file make of the default one. -/
def ofEntries (entries : Toml.Entries) : Except Fault Config :=
  enterAll {} entries

/-- Entries take effect one after another, as long as none of them is at fault. -/
theorem enterAll_cons (c : Config) (key : String) (v : Located) (entries : Toml.Entries) :
    enterAll c ((key, v) :: entries) = c.enter key v >>= fun c => enterAll c entries := rfl

end SelectorSearch.Config
