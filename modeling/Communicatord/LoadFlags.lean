import Communicatord.FlagPath
import Communicatord.Load
import Communicatord.SaveRun
/-
`flag::load_flags()`: every flag of the flags directory, with a sentinel flag
when there are too many.

After resolving the directory, the function reads the enumerated `*.flag`
files one after the other with `flag(filename)`.  When `FLAGS_LIMIT` flags
were read and a file remains, it appends the too-many-flags sentinel instead
and stops.

* `loadFlagsFrom_eq` — the loop in closed form: it reads the first
  `FLAGS_LIMIT` files in order, throws the exception of the first of them
  that does not load, and otherwise returns their flags, followed by the
  sentinel when more files were enumerated;
* `loadFlags_limit` — once the directory is resolved, when every enumerated
  file loads, `load_flags()` returns the flags of the first `FLAGS_LIMIT`
  files in order, followed by the sentinel exactly when more files were
  enumerated; it reads no file past the first `FLAGS_LIMIT`, and no call
  returns more than `FLAGS_LIMIT + 1` flags;
* `loadFlags_limit_startup` — but from the cache a process starts with,
  `load_flags()` never returns; with line 165 calling
  `get_path_to_flag_files_internal()` (`loadFlagsFixed`) it returns that
  list for the configured directory;
* `saveRun_loadFlags` — every record that any run of saves leaves in an
  empty directory loads (`AllLoad`, kept by each save), so the loop returns
  on every enumeration of the files of such a directory;
* `loadFlags_never_returns` — with the cache of `get_path_to_flag_files()`
  empty, as it is when the process starts, `load_flags()`, `get_filename()`
  of a new flag and `save()` of it do not return.

Design notes: `FLAGS_LIMIT` is declared in `flags.h`, which is not under
`src/`, and is a parameter here.  The enumeration order of
`snapdev::glob_to_list` is the order of the list of file names.
-/

namespace Communicatord

/-- What `load_flags()` throws. -/
inductive FlagsError
  /-- `invalid_name` from the sentinel's constructor. -/
  | invalidName (e : InvalidName)
  /-- What `flag(filename)` threw on a file. -/
  | load (e : LoadError)
  deriving DecidableEq, Repr

/-- Modelled from the spec: `COMMUNICATORD_FLAG_UP(unit, section, name,
message)` (a macro of `flags.h`) builds `flag(unit, section, name)` with state
UP and the message; the source location it also records is left out, as
nothing here reads it. -/
def communicatordFlagUp (unit «section» name message : String) : Except InvalidName Flag := do
  let f ← Flag.init unit «section» name
  pure ((f.setState .up).setMessage message)

/-- The sentinel `load_flags()` appends when there are too many flags. -/
def tooManyFlags (path : String) : Except FlagsError Flag := do
  let f ← (communicatordFlagUp "communicatord" "flag" "too-many-flags"
    ("too many flags were raised, showing only the first 100," ++
      " others can be viewed on this system at \"" ++ path ++ "\"")).mapError .invalidName
  pure (((f.setPriority 97).addTag "flag").addTag "too-many")

/-- The loop of `load_flags()` over the enumerated files, `result` holding the
flags read so far. -/
def loadFlagsFrom (flagsLimit : Nat) (path : String) (dir : FlagDir) :
    List String → List Flag → Except FlagsError (List Flag)
  | [], result => .ok result
  | filename :: filenames, result =>
    if flagsLimit ≤ result.length then (tooManyFlags path).map fun flag => result ++ [flag]
    else
      match Flag.load dir filename with
      | .error e => .error (.load e)
      | .ok f => loadFlagsFrom flagsLimit path dir filenames (result ++ [f])

/-- `flag::load_flags()`, the directory resolved with at most `fuel` nested
calls and its files enumerated by `flagFilenames`; `none` when the
resolution does not return. -/
def loadFlags (flagsLimit : Nat) (fs : FileSystem) (fuel : Nat) (cache : String)
    (flagFilenames : String → List String) (dir : FlagDir) : Option (Except FlagsError (List Flag)) :=
  (getPathToFlagFiles fs fuel cache).map fun (path, _) =>
    if path = "" then .ok [] else loadFlagsFrom flagsLimit path dir (flagFilenames path) []

/-- `flag::save()` of a flag, its file name resolved by `get_filename()`;
`none` when the resolution does not return. -/
def Flag.saveResolved (f : Flag) (fs : FileSystem) (fuel : Nat) (cache : String) (env : SaveEnv)
    (dir : FlagDir) : Option (Except SaveFailure (Bool × FlagDir)) :=
  if f.filename = "" then
    (getPathToFlagFiles fs fuel cache).map fun (path, _) => f.save path env dir
  else some (f.save "" env dir)

/-- `flag::load_flags()` with the call of line 165 made to
`get_path_to_flag_files_internal()`, as the comments of
`get_path_to_flag_files()` describe it (`getPathToFlagFilesFixed`). -/
def loadFlagsFixed (flagsLimit : Nat) (conf : Record) (fs : FileSystem) (cache : String)
    (flagFilenames : String → List String) (dir : FlagDir) : Except FlagsError (List Flag) :=
  let path := (getPathToFlagFilesFixed conf fs cache).1
  if path = "" then .ok [] else loadFlagsFrom flagsLimit path dir (flagFilenames path) []

/-! ### `mapM` in `Except` -/

/-- `mapM` in `Except` returns when each call does. -/
theorem mapM_ok {α β ε : Type} {f : α → Except ε β} {l : List α} (h : ∀ x ∈ l, ∃ b, f x = .ok b) :
    ∃ bs, l.mapM f = .ok bs := by
  induction l with
  | nil => exact ⟨[], rfl⟩
  | cons x l ih =>
    obtain ⟨b, hb⟩ := h x (List.mem_cons_self x l)
    obtain ⟨bs, hbs⟩ := ih fun y hy => h y (List.mem_cons_of_mem x hy)
    exact ⟨b :: bs, by rw [List.mapM_cons, hb, hbs]; rfl⟩

/-- `mapM` in `Except` returns `bs` exactly when each call returns the element
of `bs` at its position. -/
theorem mapM_eq_ok_iff {α β ε : Type} {f : α → Except ε β} {l : List α} {bs : List β} :
    l.mapM f = .ok bs ↔ List.Forall₂ (fun x b => f x = .ok b) l bs := by
  induction l generalizing bs with
  | nil => rw [List.mapM_nil]; cases bs <;> simp [pure, Except.pure]
  | cons x l ih =>
    rw [List.mapM_cons]
    cases bs with
    | nil => cases f x <;> cases l.mapM f <;> simp [bind, Except.bind, pure, Except.pure]
    | cons b bs =>
      rw [List.forall₂_cons, ← ih]
      cases f x <;> cases l.mapM f <;> simp [bind, Except.bind, pure, Except.pure]

/-- `mapM` only calls the function on the elements of the list. -/
theorem mapM_congr_mem {α β ε : Type} {f g : α → Except ε β} {l : List α}
    (h : ∀ x ∈ l, f x = g x) : l.mapM f = l.mapM g := by
  induction l with
  | nil => rfl
  | cons x l ih =>
    rw [List.mapM_cons, List.mapM_cons, h x (List.mem_cons_self x l),
      ih fun y hy => h y (List.mem_cons_of_mem x hy)]

/-! ### The loop -/

/-- The loop from `result` on, in closed form. -/
theorem loadFlagsFrom_acc (flagsLimit : Nat) (path : String) (dir : FlagDir)
    (filenames : List String) (result : List Flag) :
    loadFlagsFrom flagsLimit path dir filenames result =
      (((filenames.take (flagsLimit - result.length)).mapM (Flag.load dir)).mapError .load).bind
        fun flags =>
          if flagsLimit - result.length < filenames.length then
            (tooManyFlags path).map fun flag => result ++ flags ++ [flag]
          else .ok (result ++ flags) := by
  induction filenames generalizing result with
  | nil =>
    rw [List.take_nil, List.mapM_nil]
    simp [loadFlagsFrom, Except.mapError, pure, Except.pure, Except.bind]
  | cons filename filenames ih =>
    by_cases hlim : flagsLimit ≤ result.length
    · rw [Nat.sub_eq_zero_of_le hlim, List.take_zero, List.mapM_nil]
      simp [loadFlagsFrom, hlim, Except.mapError, pure, Except.pure, Except.bind]
    · obtain ⟨k, hk⟩ : ∃ k, flagsLimit - result.length = k + 1 :=
        ⟨flagsLimit - result.length - 1, by omega⟩
      have hk' : flagsLimit - (result.length + 1) = k := by omega
      rw [loadFlagsFrom, if_neg hlim, hk, List.take_succ_cons, List.mapM_cons]
      cases hload : Flag.load dir filename with
      | error e => rfl
      | ok g =>
        have hlen : (result ++ [g]).length = result.length + 1 := by simp
        dsimp only
        rw [ih, hlen, hk']
        cases (filenames.take k).mapM (Flag.load dir) with
        | error e => rfl
        | ok flags =>
          simp only [Except.mapError, bind, Except.bind, pure, Except.pure, List.length_cons,
            Nat.add_lt_add_iff_right, List.append_assoc, List.singleton_append]

/-- `load_flags()` after resolving the directory: it reads the first
`FLAGS_LIMIT` files in order and throws the exception of the first of them
that does not load; otherwise it returns their flags, followed by the
sentinel when more files were enumerated. -/
theorem loadFlagsFrom_eq (flagsLimit : Nat) (path : String) (dir : FlagDir) (filenames : List String) :
    loadFlagsFrom flagsLimit path dir filenames [] =
      (((filenames.take flagsLimit).mapM (Flag.load dir)).mapError .load).bind fun flags =>
        if flagsLimit < filenames.length then (tooManyFlags path).map fun flag => flags ++ [flag]
        else .ok flags := by
  simpa using loadFlagsFrom_acc flagsLimit path dir filenames []

/-- A file without `message` makes `load_flags()` throw: it is not skipped. -/
theorem loadFlagsFrom_missing_message :
    loadFlagsFrom 100 "/var/lib/communicatord/flags"
        (fun file => if file = "/var/lib/communicatord/flags/core-plugins_attachment_clamav-missing.flag"
          then some (setParameters Record.empty
            [("unit", "core-plugins"), ("section", "attachment"), ("name", "clamav-missing")])
          else none)
        ["/var/lib/communicatord/flags/core-plugins_attachment_clamav-missing.flag"] [] =
      .error (.load (.invalidParameter ("a flag file is expected to include a unit, section, and " ++
        "name field, along with a message field. Other fields are optional."))) := by
  rfl

/-- The sentinel: the flag `communicatord/flag/too-many-flags`, raised, with
priority 97 and the tags `flag` and `too-many`. -/
theorem tooManyFlags_spec (path : String) :
    ∃ sentinel, tooManyFlags path = .ok sentinel ∧
      sentinel.triple = ("communicatord", "flag", "too-many-flags") ∧ sentinel.state = .up ∧
      sentinel.priority = 97 ∧ sentinel.tags = {"flag", "too-many"} :=
  ⟨_, by rfl, by rfl, by rfl, by rfl,
    show insert "too-many" (insert "flag" ∅) = ({"flag", "too-many"} : Finset String) by decide⟩

/-- When the first `FLAGS_LIMIT` files load, the loop returns their flags,
followed by the sentinel when more files were enumerated. -/
theorem loadFlagsFrom_of_mapM {flagsLimit : Nat} {path : String} {dir : FlagDir}
    {filenames : List String} {gs : List Flag} {sentinel : Flag}
    (hgs : (filenames.take flagsLimit).mapM (Flag.load dir) = .ok gs)
    (hs : tooManyFlags path = .ok sentinel) :
    loadFlagsFrom flagsLimit path dir filenames [] =
      .ok (gs ++ if flagsLimit < filenames.length then [sentinel] else []) := by
  have hloop := loadFlagsFrom_acc flagsLimit path dir filenames []
  simp only [List.length_nil, Nat.sub_zero, List.nil_append] at hloop
  rw [hloop, hgs]
  by_cases hmore : flagsLimit < filenames.length <;>
    simp [hmore, hs, Except.mapError, Except.bind, Except.map]

/-- The loop reads no file past the first `FLAGS_LIMIT`. -/
theorem loadFlagsFrom_congr {dir dir' : FlagDir} {flagsLimit : Nat} {filenames : List String}
    (h : ∀ file ∈ filenames.take flagsLimit, dir' file = dir file) (path : String) :
    loadFlagsFrom flagsLimit path dir' filenames [] = loadFlagsFrom flagsLimit path dir filenames [] := by
  simp only [loadFlagsFrom_acc, List.length_nil, Nat.sub_zero,
    mapM_congr_mem fun file hfile => Flag.load_congr (h file hfile)]

theorem loadFlagsFrom_length {flagsLimit : Nat} {path : String} {dir : FlagDir}
    {filenames : List String} {flags : List Flag}
    (h : loadFlagsFrom flagsLimit path dir filenames [] = .ok flags) : flags.length ≤ flagsLimit + 1 := by
  cases hgs : (filenames.take flagsLimit).mapM (Flag.load dir) with
  | error e =>
    simp only [loadFlagsFrom_acc, List.length_nil, Nat.sub_zero, hgs] at h
    cases h
  | ok gs =>
    obtain ⟨sentinel, hs, -⟩ := tooManyFlags_spec path
    have hlen : gs.length ≤ flagsLimit :=
      (mapM_eq_ok_iff.1 hgs).length_eq ▸ List.length_take_le _ _
    rw [loadFlagsFrom_of_mapM hgs hs, Except.ok.injEq] at h
    subst h
    split <;> simp <;> omega

/-! ### Resolving the directory first -/

/-- With the cache of `get_path_to_flag_files()` empty, as it is when the
process starts, none of `get_path_to_flag_files()`, `get_filename()` and
`save()` of a new flag, and `load_flags()` returns, however deep the stack may
grow. -/
theorem loadFlags_never_returns (fs : FileSystem) (fuel : Nat) :
    getPathToFlagFiles fs fuel "" = none ∧
      (∀ f : Flag, f.filename = "" → f.resolveFilename fs fuel "" = none) ∧
      (∀ (f : Flag) env dir, f.filename = "" → f.saveResolved fs fuel "" env dir = none) ∧
      ∀ flagsLimit flagFilenames dir, loadFlags flagsLimit fs fuel "" flagFilenames dir = none := by
  refine ⟨getPathToFlagFiles_empty fs fuel, fun f hf => Flag.resolveFilename_empty fs fuel hf,
    fun f env dir hf => ?_, fun flagsLimit flagFilenames dir => ?_⟩
  · simp [Flag.saveResolved, hf, getPathToFlagFiles_empty]
  · simp [loadFlags, getPathToFlagFiles_empty]

/-- Once `get_path_to_flag_files()` returns a directory, `load_flags()` runs
the loop over its files. -/
theorem loadFlags_resolved {fs : FileSystem} {fuel : Nat} {cache path cache' : String}
    (hpath : getPathToFlagFiles fs fuel cache = some (path, cache')) (hne : path ≠ "")
    (flagsLimit : Nat) (flagFilenames : String → List String) (dir : FlagDir) :
    loadFlags flagsLimit fs fuel cache flagFilenames dir =
      some (loadFlagsFrom flagsLimit path dir (flagFilenames path) []) := by
  simp [loadFlags, hpath, hne]

theorem loadFlags_length {flagsLimit : Nat} {fs : FileSystem} {fuel : Nat} {cache : String}
    {flagFilenames : String → List String} {dir : FlagDir} {flags : List Flag}
    (h : loadFlags flagsLimit fs fuel cache flagFilenames dir = some (.ok flags)) :
    flags.length ≤ flagsLimit + 1 := by
  obtain ⟨⟨path, cache'⟩, -, hloop⟩ := Option.map_eq_some'.1 h
  dsimp only at hloop
  split at hloop
  · cases hloop
    simp
  · exact loadFlagsFrom_length hloop

/-- Once the directory is resolved, when every enumerated file loads,
`load_flags()` returns the flags of the first `FLAGS_LIMIT` files in order,
then the sentinel exactly when more files were enumerated.  The files past the
first `FLAGS_LIMIT` are not read, and no call of `load_flags()` returns more
than `FLAGS_LIMIT + 1` flags. -/
theorem loadFlags_limit (flagsLimit : Nat) {fs : FileSystem} {fuel : Nat} {cache path cache' : String}
    {flagFilenames : String → List String} {dir : FlagDir}
    (hpath : getPathToFlagFiles fs fuel cache = some (path, cache')) (hne : path ≠ "")
    (hload : ∀ file ∈ flagFilenames path, ∃ g, Flag.load dir file = .ok g) :
    ∃ gs sentinel,
      List.Forall₂ (fun file g => Flag.load dir file = .ok g) ((flagFilenames path).take flagsLimit) gs ∧
      gs.length = min (flagFilenames path).length flagsLimit ∧
      sentinel.triple = ("communicatord", "flag", "too-many-flags") ∧ sentinel.priority = 97 ∧
      sentinel.tags = {"flag", "too-many"} ∧
      loadFlags flagsLimit fs fuel cache flagFilenames dir =
        some (.ok (gs ++ if flagsLimit < (flagFilenames path).length then [sentinel] else [])) ∧
      (∀ dir' : FlagDir, (∀ file ∈ (flagFilenames path).take flagsLimit, dir' file = dir file) →
        loadFlags flagsLimit fs fuel cache flagFilenames dir' =
          loadFlags flagsLimit fs fuel cache flagFilenames dir) ∧
      ∀ (fs : FileSystem) fuel cache flagFilenames dir flags,
        loadFlags flagsLimit fs fuel cache flagFilenames dir = some (.ok flags) →
          flags.length ≤ flagsLimit + 1 := by
  obtain ⟨gs, hgs⟩ := mapM_ok fun file hfile => hload file (List.mem_of_mem_take hfile)
  obtain ⟨sentinel, hs, htriple, -, hpriority, htags⟩ := tooManyFlags_spec path
  have hrel := mapM_eq_ok_iff.1 hgs
  refine ⟨gs, sentinel, hrel, ?_, htriple, hpriority, htags, ?_, fun dir' hdir' => ?_,
    fun _ _ _ _ _ _ => loadFlags_length⟩
  · rw [← hrel.length_eq, List.length_take, Nat.min_comm]
  · rw [loadFlags_resolved hpath hne, loadFlagsFrom_of_mapM hgs hs]
  · rw [loadFlags_resolved hpath hne, loadFlags_resolved hpath hne, loadFlagsFrom_congr hdir']

/-- `load_flags()` does not return the flags of the directory: from the empty
cache every process starts with it never returns, however deep the stack may
grow.  With line 165 calling `get_path_to_flag_files_internal()`, when the
configured directory exists and its enumerated files all load, it returns the
flags of the first `FLAGS_LIMIT` files in order, then the sentinel exactly
when more files were enumerated. -/
theorem loadFlags_limit_startup (flagsLimit : Nat) (conf : Record) {fs : FileSystem}
    (flagFilenames : String → List String) {dir : FlagDir}
    (hne : getPathToFlagFilesInternal conf ≠ "") (hdir : fs (getPathToFlagFilesInternal conf) = some true)
    (hload : ∀ file ∈ flagFilenames (getPathToFlagFilesInternal conf), ∃ g, Flag.load dir file = .ok g) :
    (∀ fuel, loadFlags flagsLimit fs fuel "" flagFilenames dir = none) ∧
      ∃ gs sentinel,
        List.Forall₂ (fun file g => Flag.load dir file = .ok g)
          ((flagFilenames (getPathToFlagFilesInternal conf)).take flagsLimit) gs ∧
        sentinel.triple = ("communicatord", "flag", "too-many-flags") ∧ sentinel.priority = 97 ∧
        sentinel.tags = {"flag", "too-many"} ∧
        loadFlagsFixed flagsLimit conf fs "" flagFilenames dir =
          .ok (gs ++ if flagsLimit < (flagFilenames (getPathToFlagFilesInternal conf)).length then [sentinel]
            else []) := by
  refine ⟨fun fuel => by simp [loadFlags, getPathToFlagFiles_empty], ?_⟩
  obtain ⟨gs, hgs⟩ := mapM_ok fun file hfile => hload file (List.mem_of_mem_take hfile)
  obtain ⟨sentinel, hs, htriple, -, hpriority, htags⟩ := tooManyFlags_spec (getPathToFlagFilesInternal conf)
  have hpath : (getPathToFlagFilesFixed conf fs "").1 = getPathToFlagFilesInternal conf := by
    simp [getPathToFlagFilesFixed, cachePath, hdir]
  refine ⟨gs, sentinel, mapM_eq_ok_iff.1 hgs, htriple, hpriority, htags, ?_⟩
  simp only [loadFlagsFixed, hpath, if_neg hne]
  exact loadFlagsFrom_of_mapM hgs hs

/-- Two files that load and `FLAGS_LIMIT` 1, in the default directory:
`load_flags()` never returns; fixed, it returns the flag of the first file and
the sentinel. -/
theorem loadFlags_limit_startup_sentinel :
    (∀ fuel, loadFlags 1 (fun _ => some true) fuel ""
        (fun path => [path ++ "/core-plugins_attachment_clamav-missing.flag",
          path ++ "/core-plugins_firewall_down.flag"])
        (fun _ => some (setParameters Record.empty [("unit", "core-plugins"), ("section", "attachment"),
          ("name", "clamav-missing"), ("message", "clamav is not installed")])) = none) ∧
      ∃ gs sentinel, loadFlagsFixed 1 Record.empty (fun _ => some true) ""
          (fun path => [path ++ "/core-plugins_attachment_clamav-missing.flag",
            path ++ "/core-plugins_firewall_down.flag"])
          (fun _ => some (setParameters Record.empty [("unit", "core-plugins"), ("section", "attachment"),
            ("name", "clamav-missing"), ("message", "clamav is not installed")])) = .ok (gs ++ [sentinel]) ∧
        gs.length = 1 ∧ sentinel.priority = 97 := by
  apply And.imp_right ?imp (loadFlags_limit_startup 1 Record.empty _ (by decide) rfl ?hload)
  case imp =>
    rintro ⟨gs, sentinel, hrel, -, hpriority, -, hloop⟩
    exact ⟨gs, sentinel, hloop, hrel.length_eq.symm, hpriority⟩
  case hload =>
    simp only [List.mem_cons, List.mem_singleton, List.not_mem_nil, or_false]
    rintro _ (rfl | rfl) <;> exact ⟨_, by rfl⟩

/-! ### Directories the saves wrote -/

/-- Every record of the directory loads with `flag(filename)`. -/
def AllLoad (dir : FlagDir) : Prop := ∀ file r, dir file = some r → ∃ g, Flag.load dir file = .ok g

/-- A successful save keeps every record of the directory loadable. -/
theorem save_allLoad {f : Flag} {path : String} {env : SaveEnv} {dir dir' : FlagDir}
    (hdir : AllLoad dir) (hsave : f.save path env dir = .ok (true, dir')) : AllLoad dir' := by
  intro file r hr
  by_cases hfile : file = f.getFilename path
  · subst hfile
    cases hs : f.state with
    | up =>
      obtain ⟨g, hload, -⟩ := load_save_fields hs hsave fun d hd => by
        obtain ⟨r₀, hr₀, -⟩ := Option.bind_eq_some.1 hd
        obtain ⟨g₀, hg₀⟩ := hdir _ r₀ hr₀
        exact load_date hg₀ hd
      exact ⟨g, hload⟩
    | down =>
      have := (save_exists hsave).1 (by simp [hr])
      rw [hs] at this
      cases this
  · have heq := save_other hsave hfile
    obtain ⟨g, hg⟩ := hdir file r (heq ▸ hr)
    exact ⟨g, (Flag.load_congr heq).trans hg⟩

theorem saveRun_allLoad {path : String} {dir dir' : FlagDir} {run : List (Flag × SaveEnv)}
    (hrun : SaveRun path dir run dir') (hdir : AllLoad dir) : AllLoad dir' := by
  induction hrun with
  | nil => exact hdir
  | snoc _ hsave ih => exact save_allLoad ih hsave

theorem loadFlagsFrom_ok {dir : FlagDir} {filenames : List String} (hdir : AllLoad dir)
    (hfiles : ∀ file ∈ filenames, (dir file).isSome) (flagsLimit : Nat) (path : String) :
    ∃ flags, loadFlagsFrom flagsLimit path dir filenames [] = .ok flags := by
  have hall : ∀ file ∈ filenames.take flagsLimit, ∃ g, Flag.load dir file = .ok g := fun file hfile => by
    obtain ⟨r, hr⟩ := Option.isSome_iff_exists.1 (hfiles file (List.mem_of_mem_take hfile))
    exact hdir file r hr
  obtain ⟨gs, hgs⟩ := mapM_ok hall
  obtain ⟨sentinel, hs, -⟩ := tooManyFlags_spec path
  exact ⟨_, loadFlagsFrom_of_mapM hgs hs⟩

/-- From an empty flags directory, after any run of successful saves of any
flags, the loop of `load_flags()` returns on every enumeration of the
directory's files: the code writes only records that load. -/
theorem saveRun_loadFlags {path : String} {run : List (Flag × SaveEnv)} {dir : FlagDir}
    (hrun : SaveRun path (fun _ => none) run dir) {filenames : List String}
    (hfiles : ∀ file ∈ filenames, (dir file).isSome) (flagsLimit : Nat) (loadPath : String) :
    ∃ flags, loadFlagsFrom flagsLimit loadPath dir filenames [] = .ok flags :=
  loadFlagsFrom_ok (saveRun_allLoad hrun fun _ _ h => by cases h) hfiles flagsLimit loadPath

/-- Two triples raised into an empty directory load back through
`load_flags()`. -/
theorem saveRun_loadFlags_two_triples :
    ∃ dir, SaveRun "/var/lib/communicatord/flags" (fun _ => none)
        [(({ unit := "core-plugins", «section» := "attachment", name := "clamav-missing" } : Flag),
            ⟨0, by decide, "", "", true⟩),
          ({ unit := "core-plugins", «section» := "firewall", name := "down" }, ⟨1, by decide, "", "", true⟩)]
        dir ∧
      ∃ flags, loadFlagsFrom 100 "/var/lib/communicatord/flags" dir
        ["/var/lib/communicatord/flags/core-plugins_attachment_clamav-missing.flag",
          "/var/lib/communicatord/flags/core-plugins_firewall_down.flag"] [] = .ok flags := by
  obtain ⟨dir₁, dir₂, h₁, h₂⟩ : ∃ dir₁ dir₂,
      ({ unit := "core-plugins", «section» := "attachment", name := "clamav-missing" } : Flag).save
        "/var/lib/communicatord/flags" ⟨0, by decide, "", "", true⟩ (fun _ => none) = .ok (true, dir₁) ∧
      ({ unit := "core-plugins", «section» := "firewall", name := "down" } : Flag).save
        "/var/lib/communicatord/flags" ⟨1, by decide, "", "", true⟩ dir₁ = .ok (true, dir₂) :=
    ⟨_, _, by rfl, by rfl⟩
  have hrun := SaveRun.snoc (SaveRun.snoc SaveRun.nil h₁) h₂
  refine ⟨dir₂, hrun, saveRun_loadFlags hrun ?_ 100 _⟩
  simp only [List.mem_cons, List.mem_singleton, List.not_mem_nil, or_false]
  rintro _ (rfl | rfl)
  · exact save_other h₂ (show "/var/lib/communicatord/flags/core-plugins_attachment_clamav-missing.flag" ≠ _
      by decide) ▸ (save_exists h₁).2 rfl
  · exact (save_exists h₂).2 rfl

end Communicatord
