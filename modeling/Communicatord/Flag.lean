import Communicatord.Numeric
import Communicatord.ValidName
import Mathlib.Data.Finset.Basic
/-
The `flag` value object: its data, its two constructors' in-memory part, its
setters and `get_filename()`.

A flag is identified by the triple (unit, section, name), each checked and
lowercased by `valid_name` when the flag is created, and it is stored in the
file `<dir>/<unit>_<section>_<name>.flag`.

* `Constructed` — the flags a caller can hold: `flag(unit, section, name)`
  followed by any sequence of setter calls;
* `Constructed.inv` — the three names of such a flag stay in
  `[a-z][a-z0-9]*(-[a-z0-9]+)*`, and its priority in `[0, 100]`;
* `parseFlagFile_fileName` — splitting a flag file name at `_` and removing
  `.flag` gives the triple back, so file names of triples are injective
  (`getFilename_init`).

Design notes: `flags.h` is not under `src/`; the member initializers
(`Flag`'s defaults) are modelled from the spec and the source's comments.
`get_filename()` caches the name it builds in the `mutable f_filename`; with
the directory fixed the cached and the rebuilt names agree, so the model
rebuilds it and takes the directory as an argument.
-/

namespace Communicatord

/-- `flag::state_t`. -/
inductive State
  | up
  | down
  deriving DecidableEq, Repr

/-- `flag::tag_list_t`, a `std::set<std::string>`. -/
abbrev TagList := Finset String

/-- The data members of `flag`.  Modelled from the spec: the member
initializers of `flags.h` (not under `src/`): state UP, `line` 0, priority 5,
not manual, count 0, and `date`/`modified` unset, written `-1`. -/
structure Flag where
  state : State := .up
  unit : String := ""
  «section» : String := ""
  name : String := ""
  sourceFile : String := ""
  function : String := ""
  line : CInt := 0
  message : String := ""
  priority : CInt := 5
  manualDown : Bool := false
  date : Int := -1
  modified : Int := -1
  tags : TagList := ∅
  hostname : String := ""
  count : CInt := 0
  version : String := ""
  filename : String := ""
  deriving DecidableEq

namespace Flag

/-- `flag::flag(unit, section, name)`: a new flag, its names validated and
lowercased by `valid_name`. -/
def init (unit «section» name : String) : Except InvalidName Flag := do
  let unit ← validName unit
  let sec ← validName «section»
  let name ← validName name
  pure { unit, «section» := sec, name }

/-- `flag::set_state`. -/
def setState (f : Flag) (state : State) : Flag := { f with state }

/-- `flag::set_source_file`. -/
def setSourceFile (f : Flag) (sourceFile : String) : Flag := { f with sourceFile }

/-- `flag::set_function`. -/
def setFunction (f : Flag) (function : String) : Flag := { f with function }

/-- `flag::set_line`. -/
def setLine (f : Flag) (line : CInt) : Flag := { f with line }

/-- `flag::set_message`. -/
def setMessage (f : Flag) (message : String) : Flag := { f with message }

/-- `flag::set_priority`: clamped to `[0, 100]`. -/
def setPriority (f : Flag) (priority : CInt) : Flag :=
  { f with priority := if priority.val < 0 then 0 else if 100 < priority.val then 100 else priority }

/-- `flag::set_manual_down`. -/
def setManualDown (f : Flag) (manual : Bool) : Flag := { f with manualDown := manual }

/-- `flag::add_tag`: the tag is inserted as given. -/
def addTag (f : Flag) (tag : String) : Flag := { f with tags := insert tag f.tags }

/-- The name of the file of the triple in the directory `path`. -/
def fileName (path unit «section» name : String) : String :=
  path ++ "/" ++ unit ++ "_" ++ «section» ++ "_" ++ name ++ ".flag"

/-- `flag::get_filename()`, given what `get_path_to_flag_files()` returned
(empty when the directory is not there). -/
def getFilename (f : Flag) (path : String) : String :=
  if f.filename = "" then
    if path = "" then "" else fileName path f.unit f.section f.name
  else f.filename

end Flag

/-- A call of one of the setters, with its argument. -/
inductive Setter
  | setState (state : State)
  | setSourceFile (sourceFile : String)
  | setFunction (function : String)
  | setLine (line : CInt)
  | setMessage (message : String)
  | setPriority (priority : CInt)
  | setManualDown (manual : Bool)
  | addTag (tag : String)

/-- The effect of a setter call. -/
def Flag.apply (f : Flag) : Setter → Flag
  | .setState s => f.setState s
  | .setSourceFile s => f.setSourceFile s
  | .setFunction s => f.setFunction s
  | .setLine l => f.setLine l
  | .setMessage m => f.setMessage m
  | .setPriority p => f.setPriority p
  | .setManualDown m => f.setManualDown m
  | .addTag t => f.addTag t

/-- The flags a caller holds: made by `flag(unit, section, name)`, then
changed by setter calls. -/
inductive Constructed : Flag → Prop
  | init {u s n : String} {f : Flag} : Flag.init u s n = .ok f → Constructed f
  | apply {f : Flag} (call : Setter) : Constructed f → Constructed (f.apply call)

/-! ### Frame lemmas -/

/-- No setter touches the triple or the cached file name. -/
theorem Flag.apply_ident (f : Flag) (call : Setter) :
    (f.apply call).unit = f.unit ∧ (f.apply call).section = f.section ∧
      (f.apply call).name = f.name ∧ (f.apply call).filename = f.filename := by
  cases call <;> exact ⟨rfl, rfl, rfl, rfl⟩

theorem Flag.setPriority_range (f : Flag) (p : CInt) :
    0 ≤ (f.setPriority p).priority.val ∧ (f.setPriority p).priority.val ≤ 100 := by
  simp only [setPriority]
  split_ifs
  · simp
  · simp
  · omega

theorem Flag.init_ok {u s n : String} {f : Flag} (h : Flag.init u s n = .ok f) :
    validName u = .ok f.unit ∧ validName s = .ok f.section ∧ validName n = .ok f.name ∧
      f.filename = "" ∧ f.priority = 5 := by
  simp only [init, bind, Except.bind, pure, Except.pure] at h
  split at h <;> try cases h
  split at h <;> try cases h
  split at h <;> cases h
  simp_all

/-- A flag's names are normalised, its file name not yet cached, and its
priority in `[0, 100]`. -/
structure FlagInv (f : Flag) : Prop where
  unit : NameMatch Char.isLower f.unit.data
  «section» : NameMatch Char.isLower f.section.data
  name : NameMatch Char.isLower f.name.data
  filename : f.filename = ""
  priority : 0 ≤ f.priority.val ∧ f.priority.val ≤ 100

theorem Constructed.inv {f : Flag} (h : Constructed f) : FlagInv f := by
  induction h with
  | init h =>
    obtain ⟨hu, hs, hn, hf, hp⟩ := Flag.init_ok h
    exact ⟨validName_ok hu, validName_ok hs, validName_ok hn, hf, by simp [hp]⟩
  | apply call _ ih =>
    obtain ⟨hu, hs, hn, hf⟩ := Flag.apply_ident _ call
    refine ⟨hu.symm ▸ ih.unit, hs.symm ▸ ih.section, hn.symm ▸ ih.name, hf.symm ▸ ih.filename, ?_⟩
    cases call with
    | setPriority p => exact Flag.setPriority_range _ p
    | _ => exact ih.priority

/-- A new flag after `set_priority(150)` and `add_tag("antivirus")` keeps the
invariant, its priority clamped to 100. -/
theorem constructed_inv_set_priority :
    Constructed (((({ unit := "core-plugins", «section» := "attachment", name := "clamav-missing" } :
        Flag).apply (.setPriority 150)).apply (.addTag "antivirus"))) ∧
      FlagInv (((({ unit := "core-plugins", «section» := "attachment", name := "clamav-missing" } :
        Flag).apply (.setPriority 150)).apply (.addTag "antivirus"))) ∧
      (((({ unit := "core-plugins", «section» := "attachment", name := "clamav-missing" } :
        Flag).apply (.setPriority 150)).apply (.addTag "antivirus"))).priority.val = 100 :=
  have hinit : Flag.init "core-plugins" "attachment" "clamav-missing" =
      .ok { unit := "core-plugins", «section» := "attachment", name := "clamav-missing" } := rfl
  have hc := ((Constructed.init hinit).apply (.setPriority 150)).apply (.addTag "antivirus")
  ⟨hc, Constructed.inv hc, by decide⟩

/-- `add_tag()` inserts its argument without `valid_name()`: a flag a caller
holds can carry the empty tag, which is not a name. -/
theorem addTag_keeps_empty_tag :
    ∃ f, Constructed f ∧ "" ∈ f.tags ∧ ¬NameMatch Char.isLower "".data :=
  ⟨_, .apply (.addTag "") (.init (show Flag.init "core-plugins" "attachment" "clamav-missing" =
      .ok { unit := "core-plugins", «section» := "attachment", name := "clamav-missing" } from rfl)),
    by simp [Flag.apply, Flag.addTag], fun h => by cases h⟩

/-! ### File names -/

/-- Splitting the file part of a flag file name at `_` and removing the
`.flag` suffix. -/
def parseFlagFile (file : String) : Option (String × String × String) :=
  match file.data.splitOn '_' with
  | [unit, «section», rest] =>
    match rest.reverse with
    | 'g' :: 'a' :: 'l' :: 'f' :: '.' :: name => some (⟨unit⟩, ⟨«section»⟩, ⟨name.reverse⟩)
    | _ => none
  | _ => none

/-- A file name built from three names without `_` parses back to them. -/
theorem parseFlagFile_fileName {u s n : String} (hu : '_' ∉ u.data) (hs : '_' ∉ s.data)
    (hn : '_' ∉ n.data) : parseFlagFile (u ++ "_" ++ s ++ "_" ++ n ++ ".flag") = some (u, s, n) := by
  have hsep : ∀ {l : List Char}, '_' ∉ l → ∀ x ∈ l, ¬(x == '_') = true := fun h x hx hx' =>
    h (by rwa [beq_iff_eq.mp hx'] at hx)
  have hdata : (u ++ "_" ++ s ++ "_" ++ n ++ ".flag").data =
      u.data ++ '_' :: (s.data ++ '_' :: (n.data ++ ".flag".data)) := by simp
  have hsplit : (u ++ "_" ++ s ++ "_" ++ n ++ ".flag").data.splitOn '_' =
      [u.data, s.data, n.data ++ ".flag".data] := by
    rw [hdata, List.splitOn, List.splitOnP_first _ _ (hsep hu) '_' (by simp),
      List.splitOnP_first _ _ (hsep hs) '_' (by simp),
      List.splitOnP_eq_single _ _ (hsep (by simpa using hn))]
  have hrev : (n.data ++ ".flag".data).reverse = 'g' :: 'a' :: 'l' :: 'f' :: '.' :: n.data.reverse := by
    simp
  simp only [parseFlagFile, hsplit, hrev, List.reverse_reverse]

/-- Two triples of names without `_` share a file name only when they are equal. -/
theorem Flag.fileName_inj {path u s n u' s' n' : String} (hu : '_' ∉ u.data) (hs : '_' ∉ s.data)
    (hn : '_' ∉ n.data) (hu' : '_' ∉ u'.data) (hs' : '_' ∉ s'.data) (hn' : '_' ∉ n'.data)
    (h : Flag.fileName path u s n = Flag.fileName path u' s' n') : (u, s, n) = (u', s', n') := by
  have hfile : ∀ a b c : String,
      Flag.fileName path a b c = (path ++ "/") ++ (a ++ "_" ++ b ++ "_" ++ c ++ ".flag") :=
    fun a b c => by simp only [Flag.fileName, String.append_assoc]
  rw [hfile, hfile] at h
  have hcancel : u ++ "_" ++ s ++ "_" ++ n ++ ".flag" = u' ++ "_" ++ s' ++ "_" ++ n' ++ ".flag" :=
    String.ext (List.append_cancel_left (congrArg String.data h))
  have := congrArg parseFlagFile hcancel
  rwa [parseFlagFile_fileName hu hs hn, parseFlagFile_fileName hu' hs' hn', Option.some.injEq] at this

theorem Flag.getFilename_fresh {f : Flag} {path : String} (hf : f.filename = "") (hp : path ≠ "") :
    f.getFilename path = Flag.fileName path f.unit f.section f.name := by
  simp [getFilename, hf, hp]

/-- A flag made by `flag(unit, section, name)` is stored under its lowercased
triple, whose names hold no `_`, `/` or `.`. -/
theorem Flag.init_getFilename {u s n path : String} {f : Flag} (hf : Flag.init u s n = .ok f)
    (hpath : path ≠ "") :
    f.getFilename path = Flag.fileName path (asciiLower u) (asciiLower s) (asciiLower n) ∧
      ('_' ∉ (asciiLower u).data ∧ '/' ∉ (asciiLower u).data ∧ '.' ∉ (asciiLower u).data) ∧
      ('_' ∉ (asciiLower s).data ∧ '/' ∉ (asciiLower s).data ∧ '.' ∉ (asciiLower s).data) ∧
      ('_' ∉ (asciiLower n).data ∧ '/' ∉ (asciiLower n).data ∧ '.' ∉ (asciiLower n).data) := by
  obtain ⟨hu, hs, hn, hfn, -⟩ := Flag.init_ok hf
  rw [← validName_eq hu, ← validName_eq hs, ← validName_eq hn]
  exact ⟨Flag.getFilename_fresh hfn hpath, (validName_ok hu).separators_not_mem,
    (validName_ok hs).separators_not_mem, (validName_ok hn).separators_not_mem⟩

/-- File names of flags made from triples: the part after the directory is
`<a>_<b>_<c>.flag` for the lowercased triple, whose names hold no `_`, `/` or
`.`, so that it parses back to the triple; two triples share a file exactly
when they lowercase to the same triple. -/
theorem getFilename_init {u s n u' s' n' path : String} {f f' : Flag}
    (hf : Flag.init u s n = .ok f) (hf' : Flag.init u' s' n' = .ok f') (hpath : path ≠ "") :
    (f.getFilename path = f'.getFilename path ↔
      (asciiLower u, asciiLower s, asciiLower n) = (asciiLower u', asciiLower s', asciiLower n')) ∧
    ∃ file, f.getFilename path = path ++ "/" ++ file ∧
      file = asciiLower u ++ "_" ++ asciiLower s ++ "_" ++ asciiLower n ++ ".flag" ∧
      (∀ x ∈ [asciiLower u, asciiLower s, asciiLower n], '_' ∉ x.data ∧ '/' ∉ x.data ∧ '.' ∉ x.data) ∧
      parseFlagFile file = some (asciiLower u, asciiLower s, asciiLower n) := by
  obtain ⟨hfile, su, ss, sn⟩ := Flag.init_getFilename hf hpath
  obtain ⟨hfile', su', ss', sn'⟩ := Flag.init_getFilename hf' hpath
  rw [hfile, hfile']
  refine ⟨⟨Flag.fileName_inj su.1 ss.1 sn.1 su'.1 ss'.1 sn'.1,
      congrArg fun t : String × String × String => Flag.fileName path t.1 t.2.1 t.2.2⟩, _,
    by simp only [Flag.fileName, String.append_assoc], rfl, ?_, parseFlagFile_fileName su.1 ss.1 sn.1⟩
  simp only [List.mem_cons, List.mem_singleton, List.not_mem_nil, or_false]
  rintro x (rfl | rfl | rfl)
  exacts [su, ss, sn]

/-- Two spellings of one triple share their file. -/
theorem getFilename_init_core_plugins :
    Flag.init "Core-Plugins" "attachment" "clamav-missing" =
        .ok { unit := "core-plugins", «section» := "attachment", name := "clamav-missing" } ∧
      Flag.init "core-plugins" "Attachment" "clamav-missing" =
        .ok { unit := "core-plugins", «section» := "attachment", name := "clamav-missing" } ∧
      "/var/lib/communicatord/flags" ≠ "" ∧
      ((({ unit := "core-plugins", «section» := "attachment", name := "clamav-missing" } : Flag).getFilename
            "/var/lib/communicatord/flags" =
          ({ unit := "core-plugins", «section» := "attachment", name := "clamav-missing" } : Flag).getFilename
            "/var/lib/communicatord/flags" ↔
        (asciiLower "Core-Plugins", asciiLower "attachment", asciiLower "clamav-missing") =
          (asciiLower "core-plugins", asciiLower "Attachment", asciiLower "clamav-missing")) ∧
      ∃ file, ({ unit := "core-plugins", «section» := "attachment", name := "clamav-missing" } : Flag).getFilename
            "/var/lib/communicatord/flags" = "/var/lib/communicatord/flags" ++ "/" ++ file ∧
        file = asciiLower "Core-Plugins" ++ "_" ++ asciiLower "attachment" ++ "_" ++
          asciiLower "clamav-missing" ++ ".flag" ∧
        (∀ x ∈ [asciiLower "Core-Plugins", asciiLower "attachment", asciiLower "clamav-missing"],
          '_' ∉ x.data ∧ '/' ∉ x.data ∧ '.' ∉ x.data) ∧
        parseFlagFile file =
          some (asciiLower "Core-Plugins", asciiLower "attachment", asciiLower "clamav-missing")) :=
  ⟨rfl, rfl, by decide, getFilename_init rfl rfl (by decide)⟩

end Communicatord
