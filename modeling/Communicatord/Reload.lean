import Communicatord.Load
import Communicatord.SaveRun
import Communicatord.LoadFlags
/-
Reading flags back: what `flag(filename)` loads from a flag file after any
run of saves, and what saving a flag that was loaded does to its file.

The flags directory is a store written by `save()` and read by the loading
constructor.  Each file holds the fields of the last save of its triple, and
the count, date and modified time of the law of `SaveRun.lean`.  The saves are
those of flags stored in their triples' files (`TripleFlag`), in a directory
`path` that `get_path_to_flag_files()` resolved; as the code stands it never
does from the empty cache a process starts with (line 165), and only the
saves of flags loaded from their files, which do not ask for it, return.

* `saveRun_load` — after any run of successful saves, the file of a triple
  whose last save was DOWN does not load (it has no record), and the file of
  a triple whose last save was UP loads as that save's flag (`Flag.reloaded`):
  its names, provenance, message, priority, `manual_down` and tags through
  the codec, the hostname, version and clock of that save, the clock of the
  first UP save since the last DOWN one as `date` and their number as
  `count`, when the file was absent at the start or a DOWN save cleared it;
* `saveRun_loadFlags_eq` — the two together with `load_flags()`: after any
  run of saves into an empty directory, on every enumeration of its files,
  `load_flags()` returns for each of the first `FLAGS_LIMIT` files the flag of
  the last save of its triple, then the sentinel when there are more;
* `saveRun_save_ok` — in the resolved directory, on a directory that only
  saves wrote, `save()` of a flag stored in its triple's file returns, unless
  its triple has been raised `LONG_MAX` times since its last DOWN save: the
  `std::stol()` exception cannot occur;
* `load_save_load` — saving a flag that was loaded rewrites the file it was
  loaded from, and only that file, in place: it loads back as the same flag
  with `modified`, hostname and version of the save, the date it had when the
  file had one, and one more count, wrapped as an `int`;
* `addTag_splits_on_load` — `add_tag()` does not call `valid_name()`, and the
  round trip breaks on the tags it lets through: `add_tag("x,y")` loads back
  as two tags; with tags that `valid_name()` accepts it keeps every field.

Design notes: `lastSave` is the last save of a triple in a run, the state
this module reads the file against; it is proved one save at a time along
`SaveRun.snoc`, like the law.
-/

namespace Communicatord

/-! ### The last save of a triple -/

/-- The last save of the triple `t` in a run. -/
def lastSave (t : String × String × String) (run : List (Flag × SaveEnv)) :
    Option (Flag × SaveEnv) :=
  (run.filter fun p => p.1.triple = t).getLast?

theorem lastSave_append (t : String × String × String) (run : List (Flag × SaveEnv)) (f : Flag)
    (env : SaveEnv) :
    lastSave t (run ++ [(f, env)]) = if f.triple = t then some (f, env) else lastSave t run := by
  unfold lastSave
  split <;> simp_all [List.filter_append]

theorem savesOf_of_lastSave {t : String × String × String} {run : List (Flag × SaveEnv)} {f : Flag}
    {env : SaveEnv} (h : lastSave t run = some (f, env)) :
    ∃ ts, savesOf t run = ts ++ [(f.state, env.now)] := by
  obtain ⟨ys, hys⟩ := List.getLast?_eq_some_iff.1 h
  exact ⟨ys.map fun p => (p.1.state, p.2.now), by simp [savesOf, hys]⟩

theorem lastSave_isSome {t : String × String × String} {run : List (Flag × SaveEnv)}
    (h : savesOf t run ≠ []) : ∃ p, lastSave t run = some p :=
  Option.isSome_iff_exists.1 (List.getLast?_isSome.2 fun hnil => h (by simp [savesOf, hnil]))

theorem streakRecord_up (ts : List (State × Int)) (c : Int) :
    ∃ k d, streakRecord (upStreak (ts ++ [(.up, c)])) = some (k, d, c) := by
  rw [upStreak_append, if_pos rfl, streakRecord_append]
  cases streakRecord (upStreak ts) with
  | none => exact ⟨1, c, rfl⟩
  | some x => exact ⟨x.1 + 1, x.2.1, rfl⟩

theorem streakRecord_date {t : String × String × String} {run : List (Flag × SaveEnv)}
    {k : Nat} {d m : Int} (h : streakRecord (upStreak (savesOf t run)) = some (k, d, m)) :
    ∃ p ∈ run, p.2.now = d := by
  have hmem : d ∈ upStreak (savesOf t run) := by
    cases hs : upStreak (savesOf t run) with
    | nil => rw [hs] at h; cases h
    | cons c cs =>
      rw [hs] at h
      simp only [streakRecord, Option.some.injEq, Prod.mk.injEq] at h
      simp [h.2.1]
  have := (upStreak_sublist _).subset hmem
  simp only [savesOf, List.map_map, List.mem_map, List.mem_filter, Function.comp_apply] at this
  obtain ⟨p, ⟨hp, -⟩, hd⟩ := this
  exact ⟨p, hp, hd⟩

theorem tripleFile_ne_empty (path : String) (t : String × String × String) : tripleFile path t ≠ "" :=
  fun h => by simpa [tripleFile, Flag.fileName] using congrArg String.data h

/-! ### A run of saves, read back -/

section Run

variable {path : String} {dir dir' : FlagDir} {run : List (Flag × SaveEnv)}
  {t : String × String × String} {f : Flag} {env : SaveEnv}

theorem saveRun_fields (hrun : SaveRun path dir run dir') (hinv : ∀ p ∈ run, TripleFlag path p.1)
    (ht : NormalTriple t) (hlast : lastSave t run = some (f, env)) (hup : f.state = .up) :
    ∃ r, dir' (tripleFile path t) = some r ∧ (∀ kv ∈ savedFields f env true, r kv.1 = some kv.2) ∧
      ∃ cs c, r "count" = some cs ∧ readLong cs = .ok c := by
  induction hrun with
  | nil => cases hlast
  | @snoc run dir₁ dir₂ g e _ hsave ih =>
    have hg := hinv (g, e) (by simp)
    rw [lastSave_append] at hlast
    split at hlast
    · rename_i heq
      cases hlast
      rw [← heq, ← hg.file_eq]
      obtain ⟨-, -, ⟨-, file, hmerge, rfl⟩ | ⟨hdown, -⟩⟩ := save_true hsave
      · obtain ⟨count, hcount, hfc, hv, -⟩ := mergeRecord_ok hmerge
        obtain ⟨c, hc⟩ := nextCount_readLong hcount
        exact ⟨file, Function.update_same .., fun kv h => hv kv.1 kv.2 (savedFields_of_true _ _ _ h),
          count, c, hfc, hc⟩
      · rw [hup] at hdown
        cases hdown
    · rename_i hne
      rw [save_other_triple hg ht hne hsave]
      exact ih (fun p hp => hinv p (List.mem_append_left _ hp)) hlast

/-- What `flag(filename)` reads from the file of a triple after any run of
successful saves of flags stored in their triples' files: nothing when the triple's last
save was DOWN; when it was UP, the flag of that save with the hostname,
version and clock of its environment, and the date and count of the streak of
UP saves it ends, when the file was absent at the start or a DOWN save of the
run cleared it. -/
theorem saveRun_load (hrun : SaveRun path dir run dir') (hinv : ∀ p ∈ run, TripleFlag path p.1)
    (ht : NormalTriple t) (hlast : lastSave t run = some (f, env)) :
    (f.state = .down → Flag.load dir' (tripleFile path t) = .error (.invalidParameter
        ("a flag file is expected to include a unit, section, and name field, " ++
          "along with a message field. Other fields are optional."))) ∧
    (f.state = .up → (dir (tripleFile path t) = none ∨ State.down ∈ (savesOf t run).map Prod.fst) →
      ∃ k d, streakRecord (upStreak (savesOf t run)) = some (k, d, env.now) ∧
        Flag.load dir' (tripleFile path t) =
          .ok (f.reloaded env (tripleFile path t) d (CInt.ofLong k))) := by
  obtain ⟨ts, hts⟩ := savesOf_of_lastSave hlast
  have hexists := saveRun_exists hrun hinv ht (by simp [hts])
  rw [hts, List.getLast?_concat] at hexists
  refine ⟨fun hdown => ?_, fun hup hstart => ?_⟩
  · have hnone : dir' (tripleFile path t) = none := by simpa [hdown] using hexists
    simp [Flag.load, hnone, tripleFile_ne_empty, Record.empty, hasParameter, throw, throwThe,
      MonadExceptOf.throw, bind, Except.bind, pure, Except.pure]
  · obtain ⟨r, hr, hfields, cs, c, hcs, hc⟩ := saveRun_fields hrun hinv ht hlast hup
    obtain ⟨k, d, hkd⟩ := streakRecord_up ts env.now
    rw [← hup, ← hts] at hkd
    have hrep := saveRun_represents hrun hinv ht hstart
    rw [hr, hkd] at hrep
    obtain ⟨hk, hd, -⟩ := hrep
    rw [hcs, Option.some.injEq] at hk
    subst hk
    obtain ⟨p, hp, rfl⟩ := streakRecord_date hkd
    have hck := readLong_toString_ok (show readLong (toString (k : Int)) = .ok c from hc)
    subst hck
    exact ⟨k, p.2.now, hkd, load_savedFields (tripleFile_ne_empty path t) hr hfields hd
      (readLong_toString p.2.now_range.1 p.2.now_range.2) hcs hc⟩

/-- Two UP saves of a new flag, at the clocks 10 and 20: its file loads with
count 2, the first clock as `date` and the second as `modified`. -/
theorem saveRun_load_clamav_missing :
    ∃ dir, SaveRun "/var/lib/communicatord/flags" (fun _ => none)
        [(({ unit := "core-plugins", «section» := "attachment", name := "clamav-missing" } : Flag),
            ⟨10, by decide, "", "", true⟩),
          ({ unit := "core-plugins", «section» := "attachment", name := "clamav-missing" },
            ⟨20, by decide, "", "", true⟩)] dir ∧
      Flag.load dir (tripleFile "/var/lib/communicatord/flags" ("core-plugins", "attachment", "clamav-missing")) =
        .ok ((({ unit := "core-plugins", «section» := "attachment", name := "clamav-missing" } : Flag)).reloaded
          ⟨20, by decide, "", "", true⟩
          (tripleFile "/var/lib/communicatord/flags" ("core-plugins", "attachment", "clamav-missing"))
          10 (CInt.ofLong 2)) := by
  obtain ⟨dir₁, dir₂, h₁, h₂⟩ : ∃ dir₁ dir₂,
      ({ unit := "core-plugins", «section» := "attachment", name := "clamav-missing" } : Flag).save
        "/var/lib/communicatord/flags" ⟨10, by decide, "", "", true⟩ (fun _ => none) = .ok (true, dir₁) ∧
      ({ unit := "core-plugins", «section» := "attachment", name := "clamav-missing" } : Flag).save
        "/var/lib/communicatord/flags" ⟨20, by decide, "", "", true⟩ dir₁ = .ok (true, dir₂) :=
    ⟨_, _, by rfl, by rfl⟩
  have hrun := SaveRun.snoc (SaveRun.snoc SaveRun.nil h₁) h₂
  have hinv := flagInv_clamav_missing .up
  obtain ⟨k, d, hkd, hload⟩ :=
    (saveRun_load hrun (hrun.tripleFlag (by simp [hinv])) hinv.normalTriple (by rfl)).2 rfl (.inl rfl)
  change some (2, 10, 20) = _ at hkd
  simp only [Option.some.injEq, Prod.mk.injEq] at hkd
  obtain ⟨rfl, rfl, -⟩ := hkd
  exact ⟨dir₂, hrun, hload⟩

theorem saveRun_file (hrun : SaveRun path (fun _ => none) run dir') (hinv : ∀ p ∈ run, TripleFlag path p.1)
    {file : String} (hfile : (dir' file).isSome) :
    ∃ f env, (f, env) ∈ run ∧ file = tripleFile path f.triple ∧ lastSave f.triple run = some (f, env) ∧
      f.state = .up := by
  induction hrun with
  | nil => cases hfile
  | @snoc run dir₁ dir₂ g e _ hsave ih =>
    have hg := hinv (g, e) (by simp)
    by_cases hfg : file = g.getFilename path
    · subst hfg
      exact ⟨g, e, by simp, hg.file_eq, by rw [lastSave_append, if_pos rfl],
        (save_exists hsave).1 hfile⟩
    · obtain ⟨f, env, hmem, rfl, hlast, hup⟩ :=
        ih (fun p hp => hinv p (List.mem_append_left _ hp)) (save_other hsave hfg ▸ hfile)
      refine ⟨f, env, List.mem_append_left _ hmem, rfl, ?_, hup⟩
      rw [lastSave_append, if_neg fun h => hfg (by rw [hg.file_eq, h]), hlast]

/-- `load_flags()` after any run of saves of flags stored in their triples'
files into an empty directory, its directory resolved: on every enumeration of files of the
directory, it returns for each of the first `FLAGS_LIMIT` files the flag of the
last save of its triple, with the date and count of the streak of UP saves
that save ends, followed by the sentinel when more files were enumerated. -/
theorem saveRun_loadFlags_eq (hrun : SaveRun path (fun _ => none) run dir')
    (hinv : ∀ p ∈ run, TripleFlag path p.1) {files : List String} (hfiles : ∀ file ∈ files, (dir' file).isSome)
    (flagsLimit : Nat) (loadPath : String) :
    ∃ gs sentinel, tooManyFlags loadPath = .ok sentinel ∧
      loadFlagsFrom flagsLimit loadPath dir' files [] =
        .ok (gs ++ if flagsLimit < files.length then [sentinel] else []) ∧
      List.Forall₂ (fun file g => ∃ f env k d, file = tripleFile path f.triple ∧
          lastSave f.triple run = some (f, env) ∧ f.state = .up ∧
          streakRecord (upStreak (savesOf f.triple run)) = some (k, d, env.now) ∧
          g = f.reloaded env file d (CInt.ofLong k))
        (files.take flagsLimit) gs := by
  have hall : ∀ file ∈ files.take flagsLimit, ∃ f env k d, file = tripleFile path f.triple ∧
      lastSave f.triple run = some (f, env) ∧ f.state = .up ∧
      streakRecord (upStreak (savesOf f.triple run)) = some (k, d, env.now) ∧
      Flag.load dir' file = .ok (f.reloaded env file d (CInt.ofLong k)) := by
    intro file hmem
    obtain ⟨f, env, hf, rfl, hlast, hup⟩ :=
      saveRun_file hrun hinv (hfiles file (List.mem_of_mem_take hmem))
    obtain ⟨k, d, hkd, hload⟩ :=
      (saveRun_load hrun hinv (hinv _ hf).normal hlast).2 hup (.inl rfl)
    exact ⟨f, env, k, d, rfl, hlast, hup, hkd, hload⟩
  obtain ⟨gs, hgs⟩ := mapM_ok fun file hmem => by
    obtain ⟨f, env, k, d, -, -, -, -, hload⟩ := hall file hmem
    exact ⟨_, hload⟩
  obtain ⟨sentinel, hs, -⟩ := tooManyFlags_spec loadPath
  refine ⟨gs, sentinel, hs, loadFlagsFrom_of_mapM hgs hs,
    ((List.forall₂_and_left _ _).2 ⟨hall, mapM_eq_ok_iff.1 hgs⟩).imp ?_⟩
  rintro file g ⟨⟨f, env, k, d, hfile, hlast, hup, hkd, hload⟩, hg⟩
  rw [hload, Except.ok.injEq] at hg
  exact ⟨f, env, k, d, hfile, hlast, hup, hkd, hg.symm⟩


/-- Two UP saves of a new flag: `load_flags()` over its file returns one flag. -/
theorem saveRun_loadFlags_eq_clamav_missing :
    ∃ dir, SaveRun "/var/lib/communicatord/flags" (fun _ => none)
        [(({ unit := "core-plugins", «section» := "attachment", name := "clamav-missing" } : Flag),
            ⟨10, by decide, "", "", true⟩),
          ({ unit := "core-plugins", «section» := "attachment", name := "clamav-missing" },
            ⟨20, by decide, "", "", true⟩)] dir ∧
      ∃ flags, loadFlagsFrom 100 "/var/lib/communicatord/flags" dir
          [tripleFile "/var/lib/communicatord/flags" ("core-plugins", "attachment", "clamav-missing")] [] =
        .ok flags ∧ flags.length = 1 := by
  obtain ⟨dir₁, dir₂, h₁, h₂⟩ : ∃ dir₁ dir₂,
      ({ unit := "core-plugins", «section» := "attachment", name := "clamav-missing" } : Flag).save
        "/var/lib/communicatord/flags" ⟨10, by decide, "", "", true⟩ (fun _ => none) = .ok (true, dir₁) ∧
      ({ unit := "core-plugins", «section» := "attachment", name := "clamav-missing" } : Flag).save
        "/var/lib/communicatord/flags" ⟨20, by decide, "", "", true⟩ dir₁ = .ok (true, dir₂) :=
    ⟨_, _, by rfl, by rfl⟩
  have hrun := SaveRun.snoc (SaveRun.snoc SaveRun.nil h₁) h₂
  have hinv := flagInv_clamav_missing .up
  have hfiles : ∀ file ∈ [tripleFile "/var/lib/communicatord/flags"
      ("core-plugins", "attachment", "clamav-missing")], (dir₂ file).isSome := by
    simp only [List.mem_singleton, forall_eq]
    exact (save_exists h₂).2 rfl
  obtain ⟨gs, sentinel, -, hloop, hrel⟩ :=
    saveRun_loadFlags_eq hrun (hrun.tripleFlag (by simp [hinv])) hfiles 100 "/var/lib/communicatord/flags"
  exact ⟨dir₂, hrun, _, hloop, by simpa using hrel.length_eq.symm⟩

/-- In the resolved directory `path`, on a directory that only saves wrote,
`save()` of a flag stored in its triple's file (one built by
`flag(unit, section, name)`, or one loaded from that file, whose save does not
ask for the directory) returns, unless its triple has been raised `LONG_MAX`
times since its last DOWN save: the `std::stol()` exception is unreachable
there, and the count overflows only at that count. -/
theorem saveRun_save_ok (hrun : SaveRun path (fun _ => none) run dir') (hinv : ∀ p ∈ run, TripleFlag path p.1)
    (hf : TripleFlag path f) (env : SaveEnv) :
    (∃ result, f.save path env dir' = .ok result) ∨
      (f.state = .up ∧ ∃ k d m, streakRecord (upStreak (savesOf f.triple run)) = some (k, d, m) ∧
        (k : Int) = longMax) := by
  cases hsave : f.save path env dir' with
  | ok result => exact .inl ⟨result, rfl⟩
  | error e =>
  right
  have hfile := hf.file_eq
  have hfn : f.getFilename path ≠ "" := hfile ▸ tripleFile_ne_empty path f.triple
  cases hs : f.state with
  | down => rw [save_down hfn hs] at hsave; cases hsave
  | up =>
  refine ⟨rfl, ?_⟩
  have hnext : nextCount (dir' (tripleFile path f.triple)) = .error e := by
    rw [save_up hfn hs, mergeRecord_eq, hfile] at hsave
    cases hn : nextCount (dir' (tripleFile path f.triple)) <;> rw [hn] at hsave <;> cases hsave
    rfl
  have ht := hf.normal
  have hsome : savesOf f.triple run ≠ [] := fun hnil => by
    rw [saveRun_frame hrun hinv ht hnil] at hnext
    cases hnext
  obtain ⟨⟨g, e'⟩, hlast⟩ := lastSave_isSome hsome
  obtain ⟨ts, hts⟩ := savesOf_of_lastSave hlast
  cases hd : dir' (tripleFile path f.triple) with
  | none => rw [hd] at hnext; cases hnext
  | some r =>
  have hup : g.state = .up := by
    simpa [hts] using (saveRun_exists hrun hinv ht hsome).1 (by simp [hd])
  obtain ⟨r', hr', -, cs, c, hcs, hc⟩ := saveRun_fields hrun hinv ht hlast hup
  obtain ⟨k, d, m, hkdm, hcount, -⟩ := represents_some (hd ▸ saveRun_represents hrun hinv ht (.inl rfl))
  obtain rfl : r' = r := Option.some.inj (hr'.symm.trans hd)
  obtain rfl : cs = toString (k : Int) := Option.some.inj (hcs.symm.trans hcount)
  obtain rfl := readLong_toString_ok hc
  have hk := readLong_ok.1 hc
  rw [hd] at hnext
  simp only [nextCount, Option.some_bind, hcount] at hnext
  refine ⟨k, d, m, hkdm, ?_⟩
  rcases incrementCount_error_iff.1 hnext with ⟨_, hs', -⟩ | ⟨hs', -⟩ <;>
    rw [show toString k = toString (k : Int) from rfl, hk] at hs' <;> cases hs'
  rfl

/-- The flag loaded from the file of a triple saved once saves again. -/
theorem saveRun_save_ok_reloaded :
    ∃ dir, SaveRun "/var/lib/communicatord/flags" (fun _ => none)
        [(({ unit := "core-plugins", «section» := "attachment", name := "clamav-missing" } : Flag),
          ⟨10, by decide, "", "", true⟩)] dir ∧
      ((∃ result, (({ unit := "core-plugins", «section» := "attachment", name := "clamav-missing" } :
            Flag).reloaded ⟨10, by decide, "", "", true⟩
            (tripleFile "/var/lib/communicatord/flags" ("core-plugins", "attachment", "clamav-missing"))
            10 (CInt.ofLong 1)).save "/var/lib/communicatord/flags" ⟨20, by decide, "", "", true⟩ dir =
          .ok result) ∨
        ((({ unit := "core-plugins", «section» := "attachment", name := "clamav-missing" } : Flag).reloaded
            ⟨10, by decide, "", "", true⟩
            (tripleFile "/var/lib/communicatord/flags" ("core-plugins", "attachment", "clamav-missing"))
            10 (CInt.ofLong 1)).state = .up ∧
          ∃ k d m, streakRecord (upStreak (savesOf ("core-plugins", "attachment", "clamav-missing")
            [(({ unit := "core-plugins", «section» := "attachment", name := "clamav-missing" } : Flag),
              ⟨10, by decide, "", "", true⟩)])) = some (k, d, m) ∧ (k : Int) = longMax)) := by
  obtain ⟨dir, hsave⟩ : ∃ dir,
      ({ unit := "core-plugins", «section» := "attachment", name := "clamav-missing" } : Flag).save
        "/var/lib/communicatord/flags" ⟨10, by decide, "", "", true⟩ (fun _ => none) = .ok (true, dir) :=
    ⟨_, by rfl⟩
  have hrun := SaveRun.snoc SaveRun.nil hsave
  have hinv := flagInv_clamav_missing .up
  have hg : TripleFlag "/var/lib/communicatord/flags"
      ((({ unit := "core-plugins", «section» := "attachment", name := "clamav-missing" } : Flag).reloaded
        ⟨10, by decide, "", "", true⟩
        (tripleFile "/var/lib/communicatord/flags" ("core-plugins", "attachment", "clamav-missing"))
        10 (CInt.ofLong 1))) :=
    ⟨by simp [Flag.getFilename, Flag.reloaded, tripleFile_ne_empty]; rfl, hinv.normalTriple⟩
  exact ⟨dir, hrun, saveRun_save_ok hrun (hrun.tripleFlag (by simp [hinv])) hg _⟩

end Run

/-! ### Saving a flag that was loaded -/

/-- The round trip of `save()` and `flag(filename)` breaks on a tag that
`valid_name()` rejects and `add_tag()` lets through.  `add_tag("x,y")` on a
new flag: as the code stands its save never returns; once line 165 resolves
the default directory, it saves and loads back with the two tags `x` and
`y`.  With tags that `valid_name()` accepts, as `add_tag()` would ensure if
it checked them, the round trip keeps every field and the tags.  A `date`
that another writer left in the file and that is not a number breaks it
whatever the tags: `save()` keeps it and the load throws. -/
theorem addTag_splits_on_load :
    (∃ f : Flag, Constructed f ∧ f.state = .up ∧ f.tags = {"x,y"} ∧
      validName "x,y" = .error ⟨"name cannot include characters other than a-z, 0-9, and dashes (-)"⟩ ∧
      (∀ fs fuel env dir, f.saveResolved fs fuel "" env dir = none) ∧
      (getPathToFlagFilesFixed Record.empty (fun _ => some true) "").1 = "/var/lib/communicatord/flags" ∧
      ∃ dir', f.save "/var/lib/communicatord/flags" ⟨0, by decide, "", "", true⟩ (fun _ => none) =
          .ok (true, dir') ∧
        ∃ g, Flag.load dir' (f.getFilename "/var/lib/communicatord/flags") = .ok g ∧ g.tags = {"x", "y"}) ∧
    (∀ f : Flag, Constructed f → f.state = .up → (∀ t ∈ f.tags, validName t = .ok t) →
      ∀ path env (dir dir' : FlagDir), f.save path env dir = .ok (true, dir') →
        (∀ d, (dir (f.getFilename path)).bind (· "date") = some d → ∃ v, stol d = .ok v) →
        ∃ g, Flag.load dir' (f.getFilename path) = .ok g ∧
          g.unit = f.unit ∧ g.section = f.section ∧ g.name = f.name ∧ g.sourceFile = f.sourceFile ∧
          g.function = f.function ∧ g.line = f.line ∧ g.message = f.message ∧
          g.priority = f.priority ∧ g.manualDown = f.manualDown ∧ g.tags = f.tags) ∧
    ∃ f : Flag, Constructed f ∧ f.state = .up ∧
      ∃ dir', f.save "/var/lib/communicatord/flags" ⟨0, by decide, "", "", true⟩
          (fun _ => some (setParameter Record.empty "date" "yesterday")) = .ok (true, dir') ∧
        Flag.load dir' (f.getFilename "/var/lib/communicatord/flags") = .error (.stol .invalidArgument) := by
  have hinit : Flag.init "core-plugins" "attachment" "clamav-missing" =
      .ok { unit := "core-plugins", «section» := "attachment", name := "clamav-missing" } := rfl
  refine ⟨?split, fun f _ hup htags path env dir dir' hsave hdate => ?valid,
    ⟨_, .init hinit, rfl, _, by rfl, by rfl⟩⟩
  case split =>
    let f := ({ unit := "core-plugins", «section» := "attachment", name := "clamav-missing" } : Flag).addTag "x,y"
    obtain ⟨dir', hsave⟩ : ∃ dir', f.save "/var/lib/communicatord/flags" ⟨0, by decide, "", "", true⟩
        (fun _ => none) = .ok (true, dir') := ⟨_, by rfl⟩
    obtain ⟨g, hload, -, -, -, -, -, -, -, -, -, htags⟩ :=
      load_save_fields (show f.state = .up from rfl) hsave fun d hd => by simp at hd
    refine ⟨f, .apply (.addTag "x,y") (.init hinit), rfl, by decide, rfl,
      fun fs fuel env dir => by simp [Flag.saveResolved, f, Flag.addTag, getPathToFlagFiles_empty], rfl,
      dir', hsave, g, hload, ?_⟩
    rw [htags]
    simp [f, Flag.addTag, Finset.sort_singleton, joinStrings]
    decide
  case valid =>
    obtain ⟨g, hload, hu, hs, hn, hsrc, hfun, hl, hm, hp, hmd, htok⟩ := load_save hup hsave hdate
    exact ⟨g, hload, hu, hs, hn, hsrc, hfun, hl, hm, hp, hmd,
      htok fun t ht => (validName_ok (htags t ht)).token⟩

end Communicatord
