import Communicatord.Store
/-
Runs of `flag::save()`: what any sequence of saves leaves in a flag's record.

Each successful `save()` is one step on the flags directory, taken at the
clock reading of its `SaveEnv`.  The record of one triple follows an abstract
machine that sees only the saves of that triple (`raiseStep`): DOWN clears
it, UP raises it with one more count, the date kept and modified set to the
clock.

* `save_represents` — a successful save refines one step of that machine on
  the record of its triple (`Represents` relates the record to the abstract
  state), and `save_other_triple` — it leaves every other triple's record;
* `upStreak` / `streakRecord` — the machine's state in closed form: the UP
  saves since the last DOWN save give the count, the first of them the date
  and the last one the modified time (`streakRecord_append`);
* `saveRun_law` — over any run of successful saves of flags stored in their
  triples' files (`TripleFlag`: built by `flag(unit, section, name)` once the
  directory is resolved, or loaded from that file), of any triples and in any
  order: a triple's record is left alone by
  the saves of other triples, exists iff the triple's last save was UP, and
  holds the closed form, with `date ≤ modified` when the clock never goes
  back, when it was absent at the start or a DOWN save cleared it.

Design notes: a run is built at its end (`SaveRun.snoc`), the order in which
the law is proved.  The directory `path` is the one
`get_path_to_flag_files()` resolved, the same for the whole run; a save that
returned `true` resolved it.
-/

namespace Communicatord

/-- A flag's triple `(unit, section, name)`. -/
def Flag.triple (f : Flag) : String × String × String := (f.unit, f.section, f.name)

/-- The file `get_filename()` builds for the triple `t`. -/
def tripleFile (path : String) (t : String × String × String) : String :=
  Flag.fileName path t.1 t.2.1 t.2.2

/-- A triple of names as `flag(unit, section, name)` leaves them. -/
structure NormalTriple (t : String × String × String) : Prop where
  unit : NameMatch Char.isLower t.1.data
  «section» : NameMatch Char.isLower t.2.1.data
  name : NameMatch Char.isLower t.2.2.data

theorem FlagInv.normalTriple {f : Flag} (h : FlagInv f) : NormalTriple f.triple :=
  ⟨h.unit, h.section, h.name⟩

/-- A flag that `save()` stores in the file of its own triple under `path`, a
triple of normalised names: one built by `flag(unit, section, name)` once the
directory is resolved (`FlagInv.tripleFlag`), or one loaded from the file of
its triple. -/
structure TripleFlag (path : String) (f : Flag) : Prop where
  file_eq : f.getFilename path = tripleFile path f.triple
  normal : NormalTriple f.triple

theorem FlagInv.tripleFlag {f : Flag} (h : FlagInv f) {path : String} (hp : path ≠ "") :
    TripleFlag path f :=
  ⟨Flag.getFilename_fresh h.filename hp, h.normalTriple⟩

/-- Successful saves one after the other, from the directory `dir`. -/
inductive SaveRun (path : String) (dir : FlagDir) : List (Flag × SaveEnv) → FlagDir → Prop
  | nil : SaveRun path dir [] dir
  | snoc {run : List (Flag × SaveEnv)} {dir₁ dir₂ : FlagDir} {f : Flag} {env : SaveEnv} :
      SaveRun path dir run dir₁ → f.save path env dir₁ = .ok (true, dir₂) →
      SaveRun path dir (run ++ [(f, env)]) dir₂

/-- The saves of the triple `t` in a run: the state and the clock of each, in order. -/
def savesOf (t : String × String × String) (run : List (Flag × SaveEnv)) : List (State × Int) :=
  (run.filter fun p => p.1.triple = t).map fun p => (p.1.state, p.2.now)

theorem savesOf_append (t : String × String × String) (run : List (Flag × SaveEnv)) (f : Flag)
    (env : SaveEnv) :
    savesOf t (run ++ [(f, env)]) = savesOf t run ++ if f.triple = t then [(f.state, env.now)] else [] := by
  unfold savesOf
  split <;> simp_all [List.filter_append]

/-! ### The record of one triple, abstractly -/

/-- What the law tracks of a raised flag's record: `count`, `date`, `modified`. -/
abbrev Raised := Nat × Int × Int

/-- One save of the triple: DOWN clears the record; UP counts one more save,
keeps the date and sets modified to the clock. -/
def raiseStep (r : Option Raised) (x : State × Int) : Option Raised :=
  match x.1, r with
  | .down, _ => none
  | .up, none => some (1, x.2, x.2)
  | .up, some (k, d, _) => some (k + 1, d, x.2)

/-- The clocks of the UP saves since the last DOWN save, of all the UP saves
when there is none. -/
def upStreak (ts : List (State × Int)) : List Int :=
  ts.foldl (fun acc x => if x.1 = .up then acc ++ [x.2] else []) []

/-- The record a streak of UP saves leaves: their number, the first clock and
the last clock. -/
def streakRecord : List Int → Option Raised
  | [] => none
  | c :: cs => some (cs.length + 1, c, (c :: cs).getLast (List.cons_ne_nil c cs))

theorem upStreak_append (ts : List (State × Int)) (x : State × Int) :
    upStreak (ts ++ [x]) = if x.1 = .up then upStreak ts ++ [x.2] else [] := by
  simp [upStreak, List.foldl_append]

/-- The closed form follows the machine: an UP save extends the streak. -/
theorem streakRecord_append (cs : List Int) (c : Int) :
    streakRecord (cs ++ [c]) = raiseStep (streakRecord cs) (.up, c) := by
  cases cs with
  | nil => rfl
  | cons c' cs => simp [streakRecord, raiseStep]

theorem upStreak_sublist (ts : List (State × Int)) : List.Sublist (upStreak ts) (ts.map Prod.snd) := by
  suffices h : ∀ acc l, List.Sublist acc l →
      List.Sublist (ts.foldl (fun acc x => if x.1 = .up then acc ++ [x.2] else []) acc)
        (l ++ ts.map Prod.snd) from by simpa using h [] [] (List.Sublist.refl [])
  induction ts with
  | nil => simp
  | cons x ts ih =>
    intro acc l hacc
    have hstep : List.Sublist (if x.1 = .up then acc ++ [x.2] else []) (l ++ [x.2]) := by
      split
      · exact hacc.append (List.Sublist.refl _)
      · exact List.nil_sublist _
    simpa using ih _ _ hstep

theorem streakRecord_le {cs : List Int} (hcs : cs.Pairwise (· ≤ ·)) {k : Nat} {d m : Int}
    (h : streakRecord cs = some (k, d, m)) : d ≤ m := by
  cases cs with
  | nil => cases h
  | cons c cs =>
    simp only [streakRecord, Option.some.injEq, Prod.mk.injEq] at h
    rw [← h.2.1, ← h.2.2]
    rcases List.mem_cons.1 (List.getLast_mem (List.cons_ne_nil c cs)) with h | h
    · exact le_of_eq h.symm
    · exact List.rel_of_pairwise_cons hcs h

/-! ### A save is one step of the machine -/

/-- A record as the abstract state says: no file for `none`; for a raised
flag, `count`, `date` and `modified` as `std::to_string` writes them. -/
def Represents : Option Record → Option Raised → Prop
  | none, none => True
  | some r, some (k, d, m) =>
    r "count" = some (toString k) ∧ r "date" = some (toString d) ∧ r "modified" = some (toString m)
  | _, _ => False

theorem represents_some {r : Record} {a : Option Raised} (h : Represents (some r) a) :
    ∃ k d m, a = some (k, d, m) ∧ r "count" = some (toString k) ∧ r "date" = some (toString d) ∧
      r "modified" = some (toString m) := by
  rcases a with _ | ⟨k, d, m⟩
  exacts [h.elim, ⟨k, d, m, rfl, h⟩]

theorem incrementCount_toString {k : Nat} {s : String} (h : incrementCount (toString k) = .ok s) :
    s = toString (k + 1) := by
  obtain ⟨c, hs, -, rfl⟩ := incrementCount_ok_iff.1 h
  rw [show toString k = toString (k : Int) from rfl, stol_toString_eq] at hs
  split at hs
  · cases hs
  · cases hs
    rfl

section Step

variable {path : String} {f : Flag} {env : SaveEnv} {dir dir' : FlagDir}

/-- A successful save refines one step of the machine on its file's record. -/
theorem save_represents (hsave : f.save path env dir = .ok (true, dir')) {a : Option Raised}
    (ha : Represents (dir (f.getFilename path)) a) :
    Represents (dir' (f.getFilename path)) (raiseStep a (f.state, env.now)) := by
  obtain ⟨-, -, ⟨hup, file, hmerge, rfl⟩ | ⟨hdown, rfl⟩⟩ := save_true hsave
  · obtain ⟨count, hcount, hfc, hv, hold⟩ := mergeRecord_ok hmerge
    rw [Function.update_same, hup]
    generalize dir (f.getFilename path) = old at ha hcount hv hold
    have hmod : file "modified" = some (toString env.now) := hv _ _ (by cases old.bind (· "date") <;>
      simp [savedFields])
    cases old with
    | none =>
      cases a with
      | some _ => cases ha
      | none =>
        cases hcount
        exact ⟨hfc, hv _ _ (by simp [savedFields]), hmod⟩
    | some r =>
      cases a with
      | none => cases ha
      | some x =>
        obtain ⟨k, d, m⟩ := x
        obtain ⟨hk, hd, -⟩ := ha
        simp only [nextCount, Option.some_bind, hk] at hcount
        refine ⟨hfc.trans (congrArg some (incrementCount_toString hcount)), ?_, hmod⟩
        rw [hold _ (by decide) (by simp [savedFields, hd]), Option.getD_some, hd]
  · rw [Function.update_same, hdown]
    trivial

theorem save_exists (hsave : f.save path env dir = .ok (true, dir')) :
    (dir' (f.getFilename path)).isSome ↔ f.state = .up := by
  obtain ⟨-, -, ⟨hup, file, -, rfl⟩ | ⟨hdown, rfl⟩⟩ := save_true hsave <;> simp [*]

/-- A save of a flag of another triple leaves the record of `t` alone. -/
theorem save_other_triple (hinv : TripleFlag path f) {t : String × String × String} (ht : NormalTriple t)
    (hne : f.triple ≠ t) (hsave : f.save path env dir = .ok (true, dir')) :
    dir' (tripleFile path t) = dir (tripleFile path t) := by
  refine save_other hsave fun h => hne ?_
  have ht' := hinv.normal
  rw [hinv.file_eq] at h
  have := Flag.fileName_inj ht.unit.separators_not_mem.1 ht.section.separators_not_mem.1
    ht.name.separators_not_mem.1 ht'.unit.separators_not_mem.1 ht'.section.separators_not_mem.1
    ht'.name.separators_not_mem.1 h
  exact (by simpa using this : t = f.triple).symm

end Step

/-! ### Runs -/

section Run

variable {path : String} {dir dir' : FlagDir} {run : List (Flag × SaveEnv)}
  {t : String × String × String}

theorem SaveRun.tripleFlag (hrun : SaveRun path dir run dir') (hinv : ∀ p ∈ run, FlagInv p.1) :
    ∀ p ∈ run, TripleFlag path p.1 := by
  induction hrun with
  | nil => simp
  | @snoc run dir₁ dir₂ f env _ hsave ih =>
    intro p hp
    rcases List.mem_append.1 hp with hp | hp
    · exact ih (fun q hq => hinv q (List.mem_append_left _ hq)) p hp
    · rw [List.mem_singleton.1 hp]
      have hf : FlagInv f := hinv (f, env) (by simp)
      exact hf.tripleFlag fun hpath => (save_true hsave).1 (by simp [Flag.getFilename, hf.filename, hpath])

theorem saveRun_frame (hrun : SaveRun path dir run dir') (hinv : ∀ p ∈ run, TripleFlag path p.1)
    (ht : NormalTriple t) (hnone : savesOf t run = []) :
    dir' (tripleFile path t) = dir (tripleFile path t) := by
  induction hrun with
  | nil => rfl
  | @snoc run dir₁ dir₂ f env _ hsave ih =>
    have hf := hinv (f, env) (by simp)
    rw [savesOf_append] at hnone
    split at hnone
    · simp at hnone
    · rw [save_other_triple hf ht ‹_› hsave,
        ih (fun p hp => hinv p (List.mem_append_left _ hp)) (by simpa using hnone)]

theorem saveRun_exists (hrun : SaveRun path dir run dir') (hinv : ∀ p ∈ run, TripleFlag path p.1)
    (ht : NormalTriple t) (hsome : savesOf t run ≠ []) :
    (dir' (tripleFile path t)).isSome ↔ (savesOf t run).getLast?.map Prod.fst = some .up := by
  induction hrun with
  | nil => exact absurd rfl hsome
  | @snoc run dir₁ dir₂ f env _ hsave ih =>
    have hf := hinv (f, env) (by simp)
    rw [savesOf_append] at hsome ⊢
    split
    · rename_i heq
      rw [← heq, ← hf.file_eq, save_exists hsave]
      simp
    · rename_i hne
      rw [save_other_triple hf ht hne hsave, if_neg hne, List.append_nil] at *
      exact ih (fun p hp => hinv p (List.mem_append_left _ hp)) hsome

theorem saveRun_represents (hrun : SaveRun path dir run dir') (hinv : ∀ p ∈ run, TripleFlag path p.1)
    (ht : NormalTriple t)
    (hstart : dir (tripleFile path t) = none ∨ State.down ∈ (savesOf t run).map Prod.fst) :
    Represents (dir' (tripleFile path t)) (streakRecord (upStreak (savesOf t run))) := by
  induction hrun with
  | nil =>
    rcases hstart with h | h
    · rw [h]; trivial
    · cases h
  | @snoc run dir₁ dir₂ f env _ hsave ih =>
    have hf := hinv (f, env) (by simp)
    have ih' := fun h => ih (fun p hp => hinv p (List.mem_append_left _ hp)) h
    rw [savesOf_append] at hstart ⊢
    split
    · rename_i heq
      subst heq
      have hfile := hf.file_eq
      rw [upStreak_append, ← hfile]
      cases hs : f.state with
      | down =>
        have hnone : dir₂ (f.getFilename path) = none :=
          Option.not_isSome_iff_eq_none.1 fun h => by simpa [hs] using (save_exists hsave).1 h
        simp [hnone, streakRecord, Represents]
      | up =>
        have hprev := ih' (by simpa [hs] using hstart)
        rw [← hfile] at hprev
        have := save_represents hsave hprev
        rw [hs, ← streakRecord_append] at this
        simpa using this
    · rename_i hne
      rw [save_other_triple hf ht hne hsave, if_neg hne, List.append_nil] at *
      exact ih' hstart

/-- The law of a flag's record over any run of successful saves of flags that
save to their triples' files, of any triples and in any order: saves of other triples
leave it alone; it exists iff the triple's last save was UP; and when it was
absent at the start or a DOWN save cleared it, it holds the number of UP saves
since the last DOWN one, the clock of the first as `date` and of the last as
`modified`, with `date ≤ modified` when the clock never goes back. -/
theorem saveRun_law (hrun : SaveRun path dir run dir') (hinv : ∀ p ∈ run, TripleFlag path p.1)
    (hclock : (run.map fun p => p.2.now).Chain' (· ≤ ·)) (ht : NormalTriple t) :
    (savesOf t run = [] → dir' (tripleFile path t) = dir (tripleFile path t)) ∧
      (savesOf t run ≠ [] →
        ((dir' (tripleFile path t)).isSome ↔ (savesOf t run).getLast?.map Prod.fst = some .up)) ∧
      (dir (tripleFile path t) = none ∨ State.down ∈ (savesOf t run).map Prod.fst →
        ∀ r, dir' (tripleFile path t) = some r →
          ∃ k d m, streakRecord (upStreak (savesOf t run)) = some (k, d, m) ∧
            r "count" = some (toString k) ∧ r "date" = some (toString d) ∧
            r "modified" = some (toString m) ∧ d ≤ m) := by
  refine ⟨saveRun_frame hrun hinv ht, saveRun_exists hrun hinv ht, fun hstart r hr => ?_⟩
  obtain ⟨k, d, m, hs, hk, hd, hm⟩ := represents_some (hr ▸ saveRun_represents hrun hinv ht hstart)
  refine ⟨k, d, m, hs, hk, hd, hm, streakRecord_le ?_ hs⟩
  have hclocks : List.Sublist ((savesOf t run).map Prod.snd) (run.map fun p => p.2.now) := by
    simp only [savesOf, List.map_map]
    exact (List.filter_sublist run).map _
  exact (List.chain'_iff_pairwise.1 hclock).sublist ((upStreak_sublist _).trans hclocks)

end Run

theorem flagInv_clamav_missing (s : State) :
    FlagInv ({ unit := "core-plugins", «section» := "attachment", name := "clamav-missing", state := s } :
      Flag) :=
  ⟨validName_ok (show validName "core-plugins" = .ok "core-plugins" from rfl),
    validName_ok (show validName "attachment" = .ok "attachment" from rfl),
    validName_ok (show validName "clamav-missing" = .ok "clamav-missing" from rfl), rfl, by simp⟩

/-- A triple raised at 10, cleared at 20 and raised again at 30: its record
holds the last streak alone, count 1 with date and modified 30. -/
theorem saveRun_law_up_down_up :
    ∃ dir, SaveRun "/var/lib/communicatord/flags" (fun _ => none)
        [(({ unit := "core-plugins", «section» := "attachment", name := "clamav-missing" } : Flag),
            ⟨10, by decide, "", "", true⟩),
          ({ unit := "core-plugins", «section» := "attachment", name := "clamav-missing", state := .down },
            ⟨20, by decide, "", "", true⟩),
          ({ unit := "core-plugins", «section» := "attachment", name := "clamav-missing" },
            ⟨30, by decide, "", "", true⟩)] dir ∧
      ∃ r, dir (tripleFile "/var/lib/communicatord/flags" ("core-plugins", "attachment", "clamav-missing")) =
          some r ∧ r "count" = some "1" ∧ r "date" = some "30" ∧ r "modified" = some "30" := by
  obtain ⟨d₁, d₂, d₃, h₁, h₂, h₃⟩ : ∃ d₁ d₂ d₃,
      ({ unit := "core-plugins", «section» := "attachment", name := "clamav-missing" } : Flag).save
        "/var/lib/communicatord/flags" ⟨10, by decide, "", "", true⟩ (fun _ => none) = .ok (true, d₁) ∧
      ({ unit := "core-plugins", «section» := "attachment", name := "clamav-missing", state := .down } :
        Flag).save "/var/lib/communicatord/flags" ⟨20, by decide, "", "", true⟩ d₁ = .ok (true, d₂) ∧
      ({ unit := "core-plugins", «section» := "attachment", name := "clamav-missing" } : Flag).save
        "/var/lib/communicatord/flags" ⟨30, by decide, "", "", true⟩ d₂ = .ok (true, d₃) :=
    ⟨_, _, _, by rfl, by rfl, by rfl⟩
  have hrun := SaveRun.snoc (SaveRun.snoc (SaveRun.snoc SaveRun.nil h₁) h₂) h₃
  obtain ⟨r, hr⟩ := Option.isSome_iff_exists.1 ((save_exists h₃).2 rfl)
  have hinv := hrun.tripleFlag fun p hp => by
    simp only [List.nil_append, List.cons_append, List.singleton_append, List.mem_cons,
      List.mem_singleton, List.not_mem_nil, or_false] at hp
    rcases hp with rfl | rfl | rfl <;> exact flagInv_clamav_missing _
  obtain ⟨k, d, m, hkdm, hk, hd, hm, -⟩ := (saveRun_law hrun hinv (by simp)
    (flagInv_clamav_missing .up).normalTriple).2.2 (.inr (by decide)) r hr
  change some (1, 30, 30) = _ at hkdm
  simp only [Option.some.injEq, Prod.mk.injEq] at hkdm
  obtain ⟨rfl, rfl, rfl⟩ := hkdm
  exact ⟨d₃, hrun, r, hr, hk, hd, hm⟩

end Communicatord
