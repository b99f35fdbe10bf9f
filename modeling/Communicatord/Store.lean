import Communicatord.Flag
import Communicatord.Tokenize
import Mathlib.Data.Finset.Sort
import Mathlib.Data.String.Basic
/-
The flag store: `flag::save()` over the flags directory.

The directory maps a file name to the key/value record that
`advgetopt::conf_file` reads and writes.  With state UP, `save()` merges the
flag into its record: it keeps a `date` the record already has, increments a
`count` it already has, and writes every other field.  With state DOWN it
deletes the record.

* `save_ok` — what a save that returns did: nothing (`false`), or the merged
  record written (UP) or the file deleted (DOWN);
* `save_other` — a save changes no file but its own;
* `save_error_iff` — `save()` fails to return exactly when its record exists
  with a `count` that `std::stol` rejects (it throws) or reads as `LONG_MAX`
  (`count + 1` overflows).

Design notes: `conf_file` keeps every value string as it is given, and
`get_conf_file` is taken to read the directory as it is (its process-wide
cache of file objects is not modelled).  The clock, the host name, the
version string and whether the file system accepts the write or the unlink
are the environment of the call (`SaveEnv`); a failed write leaves the
previous record (backup-then-replace).  `unlink()` of a file that does not
exist fails with `ENOENT`, which `save()` counts as done.
-/

namespace Communicatord

/-- A flag file as `advgetopt::conf_file` holds it: the value of each parameter. -/
abbrev Record := String → Option String

/-- The flags directory: the record of each file that exists. -/
abbrev FlagDir := String → Option Record

/-- The record of a file that does not exist: no parameter. -/
def Record.empty : Record := fun _ => none

/-- `conf_file::set_parameter(std::string(), name, value)`. -/
def setParameter (file : Record) (name value : String) : Record :=
  Function.update file name (some value)

/-- `conf_file::has_parameter(name)`. -/
def hasParameter (file : Record) (name : String) : Bool := (file name).isSome

/-- `conf_file::get_parameter(name)`: the value, empty when there is none. -/
def getParameter (file : Record) (name : String) : String := (file name).getD ""

/-- Consecutive `set_parameter` calls. -/
def setParameters (file : Record) (fields : List (String × String)) : Record :=
  fields.foldl (fun file kv => setParameter file kv.1 kv.2) file

/-- What `save()` reads besides the flag and the directory. -/
structure SaveEnv where
  /-- `time(nullptr)`, a `time_t` (`long`). -/
  now : Int
  now_range : longMin ≤ now ∧ now ≤ longMax
  /-- `snapdev::gethostname()`. -/
  hostname : String
  /-- `COMMUNICATORD_VERSION_STRING`. -/
  version : String
  /-- Whether the file system accepts the change: `save_configuration()`
  succeeds (UP), `unlink()` fails with no `errno` but `ENOENT` (DOWN). -/
  ioOk : Bool

/-- How `save()` ends without returning. -/
inductive SaveFailure
  /-- `std::stol` threw on the stored `count`. -/
  | stol (e : StolError)
  /-- `std::stol(count) + 1` overflowed a `long`: undefined behaviour. -/
  | countOverflow
  deriving DecidableEq, Repr

/-- `std::to_string(std::stol(count) + 1)`. -/
def incrementCount (count : String) : Except SaveFailure String := do
  let c ← (stol count).mapError .stol
  if c = longMax then throw .countOverflow else pure (toString (c + 1))

/-- The `set_parameter` calls of `save()` before `count`, in order; `date`
only when the record has none. -/
def savedFields (f : Flag) (env : SaveEnv) (hasDate : Bool) : List (String × String) :=
  [("unit", f.unit), ("section", f.section), ("name", f.name), ("source_file", f.sourceFile),
    ("function", f.function), ("line", toString f.line.val), ("message", f.message),
    ("priority", toString f.priority.val), ("manual_down", if f.manualDown then "yes" else "no")] ++
  (if hasDate then [] else [("date", toString env.now)]) ++
  [("modified", toString env.now), ("tags", joinStrings (f.tags.sort (· ≤ ·)) ","),
    ("hostname", env.hostname), ("version", env.version)]

/-- The UP branch of `flag::save()`: the record merged from the flag and the
file's record `old` (`none` when the file does not exist). -/
def Flag.mergeRecord (f : Flag) (env : SaveEnv) (old : Option Record) : Except SaveFailure Record := do
  let fileExists := old.isSome
  let file := old.getD Record.empty
  let hasDate := fileExists && hasParameter file "date"
  let hasCount := fileExists && hasParameter file "count"
  let file := setParameters file (savedFields f env hasDate)
  let count ← if hasCount then incrementCount (getParameter file "count") else pure "1"
  pure (setParameter file "count" count)

/-- How `unlink()` fails: no such file (`ENOENT`), or any other `errno`. -/
inductive UnlinkError
  | enoent
  | other
  deriving DecidableEq, Repr

/-- `unlink(filename)`: refused when the file system does not accept the
change, `ENOENT` when there is no such file, the file removed otherwise. -/
def unlink (dir : FlagDir) (filename : String) (ioOk : Bool) : Except UnlinkError FlagDir :=
  if !ioOk then .error .other
  else match dir filename with
    | none => .error .enoent
    | some _ => .ok (Function.update dir filename none)

/-- `flag::save()`: the result and the directory after the call, given what
`get_path_to_flag_files()` returned. -/
def Flag.save (f : Flag) (path : String) (env : SaveEnv) (dir : FlagDir) :
    Except SaveFailure (Bool × FlagDir) :=
  let filename := f.getFilename path
  if filename = "" then .ok (false, dir)
  else match f.state with
    | .up => do
      let file ← f.mergeRecord env (dir filename)
      pure (if env.ioOk then (true, Function.update dir filename (some file)) else (false, dir))
    | .down =>
      match unlink dir filename env.ioOk with
      | .ok dir' => .ok (true, dir')
      -- deleting a flag that does not exist "works" every time
      | .error .enoent => .ok (true, dir)
      | .error .other => .ok (false, dir)

/-! ### Records -/

theorem setParameters_not_mem {file : Record} {fields : List (String × String)} {k : String}
    (h : k ∉ fields.map Prod.fst) : setParameters file fields k = file k := by
  induction fields generalizing file with
  | nil => rfl
  | cons kv fields ih =>
    simp only [List.map_cons, List.mem_cons, not_or] at h
    rw [setParameters, List.foldl_cons, ← setParameters, ih h.2, setParameter,
      Function.update_noteq h.1]

theorem setParameters_mem {file : Record} {fields : List (String × String)} {k v : String}
    (hnd : (fields.map Prod.fst).Nodup) (h : (k, v) ∈ fields) :
    setParameters file fields k = some v := by
  induction fields generalizing file with
  | nil => cases h
  | cons kv fields ih =>
    rw [List.map_cons, List.nodup_cons] at hnd
    rw [setParameters, List.foldl_cons, ← setParameters]
    rcases List.mem_cons.1 h with rfl | h
    · rw [setParameters_not_mem hnd.1, setParameter, Function.update_same]
    · exact ih hnd.2 h

theorem savedFields_keys (f : Flag) (env : SaveEnv) (hasDate : Bool) :
    ((savedFields f env hasDate).map Prod.fst).Nodup ∧
      "count" ∉ (savedFields f env hasDate).map Prod.fst := by
  cases hasDate <;> simp [savedFields]

/-- Every field `save()` writes when the record has a date, it also writes
when it has none. -/
theorem savedFields_of_true (f : Flag) (env : SaveEnv) (hasDate : Bool) {kv : String × String}
    (h : kv ∈ savedFields f env true) : kv ∈ savedFields f env hasDate := by
  cases hasDate
  · simp only [savedFields, if_true, if_false, List.append_nil, List.mem_append] at h ⊢
    tauto
  · exact h

/-- The value `save()` writes for `count`: one more than the stored count, or
`1` when the file or its count is missing. -/
def nextCount (old : Option Record) : Except SaveFailure String :=
  match old.bind (· "count") with
  | some c => incrementCount c
  | none => pure "1"

/-- The merged record: the saved fields over the old record, `date` kept when
there was one, and the next count. -/
theorem mergeRecord_eq (f : Flag) (env : SaveEnv) (old : Option Record) :
    f.mergeRecord env old = (nextCount old).map fun count =>
      setParameter (setParameters (old.getD Record.empty)
        (savedFields f env (old.bind (· "date")).isSome)) "count" count := by
  have hc := fun d => (savedFields_keys f env d).2
  cases old with
  | none => rfl
  | some r =>
    simp only [Flag.mergeRecord, nextCount, Option.isSome_some, Bool.true_and, hasParameter,
      Option.getD_some, Option.bind_some, getParameter, setParameters_not_mem (hc _)]
    cases hcount : r "count" <;> simp [hcount, bind, Except.bind, Except.map, pure, Except.pure]

/-- What a merge that returns holds: the next count, the saved fields, and
the old record everywhere else. -/
theorem mergeRecord_ok {f : Flag} {env : SaveEnv} {old : Option Record} {file : Record}
    (h : f.mergeRecord env old = .ok file) :
    ∃ count, nextCount old = .ok count ∧ file "count" = some count ∧
      (∀ k v, (k, v) ∈ savedFields f env (old.bind (· "date")).isSome → file k = some v) ∧
      ∀ k, k ≠ "count" → k ∉ (savedFields f env (old.bind (· "date")).isSome).map Prod.fst →
        file k = (old.getD Record.empty) k := by
  rw [mergeRecord_eq] at h
  cases hc : nextCount old with
  | error e => simp [hc, Except.map] at h
  | ok count =>
    simp only [hc, Except.map, Except.ok.injEq] at h
    subst h
    obtain ⟨hnd, hcount⟩ := savedFields_keys f env (old.bind (· "date")).isSome
    refine ⟨count, rfl, by simp [setParameter], fun k v hkv => ?_, fun k hk hnot => ?_⟩
    · have hk : k ≠ "count" := by
        rintro rfl
        exact hcount (List.mem_map_of_mem Prod.fst hkv)
      rw [setParameter, Function.update_noteq hk, setParameters_mem hnd hkv]
    · rw [setParameter, Function.update_noteq hk, setParameters_not_mem hnot]

/-! ### `save()` -/

section Save

variable {f : Flag} {path : String} {env : SaveEnv} {dir : FlagDir}

theorem save_unresolved (h : f.getFilename path = "") : f.save path env dir = .ok (false, dir) := by
  simp [Flag.save, h]

theorem save_up (hfn : f.getFilename path ≠ "") (hs : f.state = .up) :
    f.save path env dir = (f.mergeRecord env (dir (f.getFilename path))).map fun file =>
      if env.ioOk then (true, Function.update dir (f.getFilename path) (some file)) else (false, dir) := by
  simp only [Flag.save, hfn, hs, if_false]
  cases f.mergeRecord env (dir (f.getFilename path)) <;> rfl

theorem save_down (hfn : f.getFilename path ≠ "") (hs : f.state = .down) :
    f.save path env dir = .ok (if env.ioOk then (true, Function.update dir (f.getFilename path) none)
      else (false, dir)) := by
  simp only [Flag.save, hfn, hs, if_false, unlink]
  cases env.ioOk
  · rfl
  · cases hd : dir (f.getFilename path)
    · rw [show Function.update dir (f.getFilename path) none = dir from hd ▸ Function.update_eq_self _ _]
      rfl
    · rfl

/-- What a save that returns did: nothing, returning `false`; or, its file
name resolved and the file system operation successful, it wrote the merged
record (UP) or deleted the file (DOWN), returning `true`. -/
theorem save_ok {b : Bool} {dir' : FlagDir} (h : f.save path env dir = .ok (b, dir')) :
    (b = false ∧ dir' = dir) ∨
      (b = true ∧ f.getFilename path ≠ "" ∧ env.ioOk ∧
        ((f.state = .up ∧ ∃ file, f.mergeRecord env (dir (f.getFilename path)) = .ok file ∧
            dir' = Function.update dir (f.getFilename path) (some file)) ∨
          (f.state = .down ∧ dir' = Function.update dir (f.getFilename path) none))) := by
  by_cases hfn : f.getFilename path = ""
  · rw [save_unresolved hfn] at h
    cases h
    exact .inl ⟨rfl, rfl⟩
  cases hs : f.state with
  | up =>
    rw [save_up hfn hs] at h
    cases hm : f.mergeRecord env (dir (f.getFilename path)) with
    | error e => simp [hm, Except.map] at h
    | ok file =>
      simp only [hm, Except.map, Except.ok.injEq] at h
      split at h <;> simp_all
  | down =>
    rw [save_down hfn hs] at h
    split at h <;> simp_all

/-- What a save that returned `true` did: its file name resolved, the file
system operation succeeded, and the file got the merged record (UP) or was
deleted (DOWN). -/
theorem save_true {dir' : FlagDir} (h : f.save path env dir = .ok (true, dir')) :
    f.getFilename path ≠ "" ∧ env.ioOk ∧
      ((f.state = .up ∧ ∃ file, f.mergeRecord env (dir (f.getFilename path)) = .ok file ∧
          dir' = Function.update dir (f.getFilename path) (some file)) ∨
        (f.state = .down ∧ dir' = Function.update dir (f.getFilename path) none)) := by
  rcases save_ok h with ⟨h, -⟩ | ⟨-, rest⟩
  exacts [absurd h (by decide), rest]

/-- A save changes no file but its own. -/
theorem save_other {b : Bool} {dir' : FlagDir} (h : f.save path env dir = .ok (b, dir'))
    {other : String} (hne : other ≠ f.getFilename path) : dir' other = dir other := by
  rcases save_ok h with ⟨-, rfl⟩ | ⟨-, -, -, ⟨-, -, -, rfl⟩ | ⟨-, rfl⟩⟩ <;>
    simp [Function.update_noteq hne]

theorem incrementCount_ok_iff {count s : String} :
    incrementCount count = .ok s ↔ ∃ c, stol count = .ok c ∧ c ≠ longMax ∧ s = toString (c + 1) := by
  unfold incrementCount
  cases hs : stol count with
  | error e => simp [hs, bind, Except.bind, Except.mapError]
  | ok c =>
    by_cases hc : c = longMax <;>
      simp [hs, hc, bind, Except.bind, Except.mapError, throw, throwThe, MonadExceptOf.throw,
        pure, Except.pure, eq_comm]

theorem incrementCount_error_iff {count : String} {e : SaveFailure} :
    incrementCount count = .error e ↔
      (∃ e', stol count = .error e' ∧ e = .stol e') ∨ (stol count = .ok longMax ∧ e = .countOverflow) := by
  unfold incrementCount
  cases hs : stol count with
  | error e' => simp [hs, bind, Except.bind, Except.mapError, eq_comm]
  | ok c =>
    by_cases hc : c = longMax <;>
      simp [hs, hc, bind, Except.bind, Except.mapError, throw, throwThe, MonadExceptOf.throw,
        pure, Except.pure, eq_comm]

/-- `save()` fails to return exactly when the flag is UP, its file name
resolves, and its record holds a `count` that `std::stol` rejects (the
exception propagates) or reads as `LONG_MAX` (`count + 1` overflows). -/
theorem save_error_iff (e : SaveFailure) :
    f.save path env dir = .error e ↔
      f.getFilename path ≠ "" ∧ f.state = .up ∧
        ∃ count, (dir (f.getFilename path)).bind (· "count") = some count ∧
          ((∃ e', stol count = .error e' ∧ e = .stol e') ∨
            (stol count = .ok longMax ∧ e = .countOverflow)) := by
  have hmap : ∀ {α β : Type} {x : Except SaveFailure α} {g : α → β},
      x.map g = .error e ↔ x = .error e := fun {_ _ x _} => by cases x <;> simp [Except.map]
  by_cases hfn : f.getFilename path = ""
  · simp [save_unresolved hfn, hfn]
  cases hs : f.state with
  | down => simp [save_down hfn hs]
  | up =>
    rw [save_up hfn hs, hmap, mergeRecord_eq, hmap, nextCount]
    cases (dir (f.getFilename path)).bind (· "count") with
    | none => simp [pure, Except.pure, hfn]
    | some c => simp [hfn, incrementCount_error_iff]

end Save

/-- A stored `count` that is not a number, or that is `LONG_MAX`, makes `save()`
throw. -/
theorem save_count_not_long :
    ({ unit := "core-plugins", «section» := "attachment", name := "clamav-missing" } : Flag).save
        "/var/lib/communicatord/flags" ⟨0, by decide, "", "", true⟩
        (fun _ => some (setParameter Record.empty "count" "abc")) = .error (.stol .invalidArgument) ∧
    ({ unit := "core-plugins", «section» := "attachment", name := "clamav-missing" } : Flag).save
        "/var/lib/communicatord/flags" ⟨0, by decide, "", "", true⟩
        (fun _ => some (setParameter Record.empty "count" "9223372036854775807")) =
      .error .countOverflow :=
  ⟨rfl, rfl⟩

end Communicatord
