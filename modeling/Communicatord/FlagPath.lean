import Communicatord.Store
/-
The flags directory: `get_path_to_flag_files()` and its process-wide cache.

`get_path_to_flag_files()` keeps the directory in the function-local static
`g_path_to_flag_files`, empty until a call finds the directory.  While it is
empty, the call reads the directory and checks with `stat()` that it is one.
`get_filename()` of a new flag goes through it.

* `getPathToFlagFiles_empty` — the call reads the directory by calling
  itself, with the cache still empty, so from an empty cache no call returns,
  however many nested calls the stack allows;
* `getPathToFlagFiles_cached` — with a directory in the cache, a call
  returns it at once;
* `getPathToFlagFilesFixed_spec` — the function as its comment describes it,
  reading the directory with `get_path_to_flag_files_internal()`: it returns
  the empty string or the configured directory when that is a directory, and
  once it returned one it returns it on every later call.

Design notes: the nested calls are counted by `fuel`; `none` is a call that
has not returned within it.  The file system is what `stat()` says of each
path (`FileSystem`), and the configuration file is the record of
`/etc/communicatord/flags.conf` (empty when there is none).
-/

namespace Communicatord

/-- What `stat()` says of a path: `none` when it fails, otherwise whether the
path names a directory (`S_ISDIR`). -/
abbrev FileSystem := String → Option Bool

/-- `get_path_to_flag_files_internal()`: the `path` parameter of
`/etc/communicatord/flags.conf`, or the default directory. -/
def getPathToFlagFilesInternal (conf : Record) : String :=
  if hasParameter conf "path" then getParameter conf "path" else "/var/lib/communicatord/flags"

/-- The update of the cache after the directory `path` was read: set to it
when `stat()` finds a directory there, left as it is otherwise (the two
failures are logged). -/
def cachePath (fs : FileSystem) (path cache : String) : String :=
  if fs path = some true then path else cache

/-- `get_path_to_flag_files()` with at most `fuel` nested calls: the path it
returns and the cache after it, `none` when the calls nest deeper. -/
def getPathToFlagFiles (fs : FileSystem) : Nat → String → Option (String × String)
  | 0, _ => none
  | fuel + 1, cache =>
    if cache = "" then
      -- the directory is read with `get_path_to_flag_files()` itself
      (getPathToFlagFiles fs fuel cache).map fun (path, cache) =>
        (cachePath fs path cache, cachePath fs path cache)
    else some (cache, cache)

/-- `get_path_to_flag_files()` as its comment describes it: the directory read
with `get_path_to_flag_files_internal()`. -/
def getPathToFlagFilesFixed (conf : Record) (fs : FileSystem) (cache : String) : String × String :=
  if cache = "" then
    (cachePath fs (getPathToFlagFilesInternal conf) cache,
      cachePath fs (getPathToFlagFilesInternal conf) cache)
  else (cache, cache)

/-- `flag::get_filename()` with the directory from `get_path_to_flag_files()`:
the file name and the cache after the call. -/
def Flag.resolveFilename (f : Flag) (fs : FileSystem) (fuel : Nat) (cache : String) :
    Option (String × String) :=
  if f.filename = "" then
    (getPathToFlagFiles fs fuel cache).map fun (path, cache) => (f.getFilename path, cache)
  else some (f.filename, cache)

/-- From an empty cache, `get_path_to_flag_files()` does not return within any
number of nested calls. -/
theorem getPathToFlagFiles_empty (fs : FileSystem) (fuel : Nat) :
    getPathToFlagFiles fs fuel "" = none := by
  induction fuel with
  | zero => rfl
  | succ fuel ih => simp [getPathToFlagFiles, ih]

theorem getPathToFlagFiles_cached (fs : FileSystem) (fuel : Nat) {cache : String} (h : cache ≠ "") :
    getPathToFlagFiles fs (fuel + 1) cache = some (cache, cache) := by
  simp [getPathToFlagFiles, h]

theorem Flag.resolveFilename_empty (fs : FileSystem) (fuel : Nat) {f : Flag} (hf : f.filename = "") :
    f.resolveFilename fs fuel "" = none := by
  simp [Flag.resolveFilename, hf, getPathToFlagFiles_empty]

/-- The fixed function returns at once: the empty string, or the configured
directory when it is one; what it returns is the cache after the call, and a
non-empty cache is returned as it is. -/
theorem getPathToFlagFilesFixed_spec (conf : Record) (fs : FileSystem) (cache : String) :
    (getPathToFlagFilesFixed conf fs cache).1 = (getPathToFlagFilesFixed conf fs cache).2 ∧
      (cache = "" → ((getPathToFlagFilesFixed conf fs cache).1 = "" ∨
        ((getPathToFlagFilesFixed conf fs cache).1 = getPathToFlagFilesInternal conf ∧
          fs (getPathToFlagFilesInternal conf) = some true))) ∧
      (cache ≠ "" → getPathToFlagFilesFixed conf fs cache = (cache, cache)) := by
  unfold getPathToFlagFilesFixed cachePath
  refine ⟨by split_ifs <;> rfl, fun h => ?_, fun h => if_neg h⟩
  split_ifs with hfs <;> simp_all

end Communicatord
