import Communicatord.Store
/-
Loading a flag from its file, and the save/load round trip.

`flag::flag(filename)` reads the record of the file: `unit`, `section`, `name`
and `message` are required, every other field is optional and read with
`std::stol`, `== "yes"` or `snapdev::tokenize_string`; nothing is validated.

* `readField` — one optional field, the family of reads of the constructor;
* `load_ok` — what a load that returns read: the flag has the file's name,
  state UP, tags that are tokens of the tag codec, and the record's `date`
  and `count`;
* `load_savedFields` — a record that holds the fields `save()` writes for a
  flag loads as that flag, as the codec gives it back (`Flag.reloaded`);
* `load_save` — a flag saved with state UP loads back from its file with the
  same names, provenance, message, priority and `manual_down`, and the same
  tags when each tag is a token of the tag codec, as every name that
  `valid_name()` accepts is (`NameMatch.token`); the only assumption is that
  a `date` the file already had parses.

Design notes: the tags of the file are inserted into the empty set of the new
object, `f_tags.insert(begin, end)`.
-/

namespace Communicatord

/-- The exceptions of `flag::flag(filename)`. -/
inductive LoadError
  /-- `invalid_parameter`, with its message. -/
  | invalidParameter (what : String)
  /-- What `std::stol` threw on a numeric field. -/
  | stol (e : StolError)
  deriving DecidableEq, Repr

/-- An optional field of the record: `decode` applied to its value when the
record has it, `default` otherwise. -/
def readField {α : Type} (file : Record) (name : String) (decode : String → Except LoadError α)
    (default : α) : Except LoadError α :=
  if hasParameter file name then decode (getParameter file name) else pure default

/-- `std::stol` on the value of a field. -/
def readLong (value : String) : Except LoadError Int := (stol value).mapError .stol

/-- The characters `tokenize_string` trims from each tag. -/
def tagTrim : List Char := [' ', '\n', '\r', '\t']

/-- `flag::flag(filename)`: the flag saved in the file `filename`. -/
def Flag.load (dir : FlagDir) (filename : String) : Except LoadError Flag := do
  if filename = "" then
    throw (.invalidParameter
      "the filename must be defined (i.e. not empty) when using the flag constructor with a filename")
  let file := (dir filename).getD Record.empty
  if !(hasParameter file "unit" && hasParameter file "section" && hasParameter file "name" &&
      hasParameter file "message") then
    throw (.invalidParameter ("a flag file is expected to include a unit, section, and name field, " ++
      "along with a message field. Other fields are optional."))
  let f : Flag := { filename }
  let sourceFile ← readField file "source_file" pure f.sourceFile
  let function ← readField file "function" pure f.function
  let line ← readField file "line" (fun v => CInt.ofLong <$> readLong v) f.line
  let priority ← readField file "priority" (fun v => CInt.ofLong <$> readLong v) f.priority
  let manualDown ← readField file "manual_down" (fun v => pure (v == "yes")) f.manualDown
  let date ← readField file "date" readLong f.date
  let modified ← readField file "modified" readLong f.modified
  let tags ← readField file "tags"
    (fun v => pure (f.tags ∪ (tokenizeString v [','] true tagTrim).toFinset)) f.tags
  let hostname ← readField file "hostname" pure f.hostname
  let count ← readField file "count" (fun v => CInt.ofLong <$> readLong v) f.count
  let version ← readField file "version" pure f.version
  pure { f with
    unit := getParameter file "unit", «section» := getParameter file "section",
    name := getParameter file "name", sourceFile := sourceFile, function := function, line := line,
    message := getParameter file "message", priority := priority, manualDown := manualDown,
    date := date, modified := modified, tags := tags, hostname := hostname, count := count,
    version := version }

/-! ### Reading fields -/

theorem readField_some {α : Type} {file : Record} {name v : String}
    {decode : String → Except LoadError α} {default : α} (h : file name = some v) :
    readField file name decode default = decode v := by
  simp [readField, hasParameter, getParameter, h]

theorem readLong_toString {v : Int} (h₁ : longMin ≤ v) (h₂ : v ≤ longMax) :
    readLong (toString v) = .ok v := by
  simp [readLong, stol_toString h₁ h₂, Except.mapError]

theorem readLong_ok {s : String} {v : Int} : readLong s = .ok v ↔ stol s = .ok v := by
  unfold readLong
  cases stol s <;> simp [Except.mapError]

/-- What `std::stol` reads from `std::to_string(v)` is `v`. -/
theorem readLong_toString_ok {v c : Int} (h : readLong (toString v) = .ok c) : c = v := by
  simp only [readLong, stol_toString_eq] at h
  split at h <;> simp [Except.mapError] at h
  exact h.symm

/-- The count that `save()` writes reads back as a number. -/
theorem nextCount_readLong {old : Option Record} {count : String} (h : nextCount old = .ok count) :
    ∃ n, readLong count = .ok n := by
  unfold nextCount at h
  split at h
  · obtain ⟨c, hs, hc, rfl⟩ := incrementCount_ok_iff.1 h
    have := stol_ok_range hs
    exact ⟨_, readLong_toString (by omega) (by omega)⟩
  · cases h
    exact ⟨1, rfl⟩

/-! ### What a load that returns read -/

theorem Except.bind_eq_ok {ε α β : Type} {x : Except ε α} {f : α → Except ε β} {b : β} :
    x >>= f = .ok b ↔ ∃ a, x = .ok a ∧ f a = .ok b := by
  cases x <;> simp [bind, Except.bind]

/-- A load reads only the record of its own file. -/
theorem Flag.load_congr {dir dir' : FlagDir} {file : String} (h : dir file = dir' file) :
    Flag.load dir file = Flag.load dir' file := by
  unfold Flag.load
  rw [h]

/-- What a load that returns read: a file named by a non-empty string, with a
record; the flag it made has that name, state UP, tags that are tokens of the
tag codec, and the `date` and `count` read from the record, when it has them. -/
theorem load_ok {dir : FlagDir} {file : String} {g : Flag} (h : Flag.load dir file = .ok g) :
    file ≠ "" ∧ g.filename = file ∧ g.state = .up ∧ (∀ t ∈ g.tags, Token [','] tagTrim t) ∧
      ∃ r, dir file = some r ∧ readField r "date" readLong (-1) = .ok g.date ∧
        readField r "count" (fun v => CInt.ofLong <$> readLong v) 0 = .ok g.count := by
  unfold Flag.load at h
  by_cases h1 : file = ""
  · simp [h1, throw, throwThe, MonadExceptOf.throw, bind, Except.bind] at h
  simp only [if_neg h1, pure_bind] at h
  split at h
  · simp [throw, throwThe, MonadExceptOf.throw, bind, Except.bind] at h
  rename_i hhas
  simp only [pure_bind, Except.bind_eq_ok] at h
  obtain ⟨_, -, _, -, _, -, _, -, _, -, date, hdate, _, -, tags, htags, _, -, count, hcount, _, -, hg⟩ :=
    h
  cases hg
  refine ⟨h1, rfl, rfl, fun t ht => ?_, ?_⟩
  · unfold readField at htags
    split at htags <;> cases htags
    · simp only [Finset.empty_union, List.mem_toFinset] at ht
      exact token_of_mem_tokenizeString ht
    · cases ht
  · cases hr : dir file with
    | none => simp [hr, Record.empty, hasParameter] at hhas
    | some r =>
      rw [hr, Option.getD_some] at hdate hcount
      exact ⟨r, rfl, hdate, hcount⟩

/-- A file that loads has a numeric `date`, if it has one. -/
theorem load_date {dir : FlagDir} {file : String} {g : Flag} (h : Flag.load dir file = .ok g)
    {d : String} (hd : (dir file).bind (· "date") = some d) : ∃ v, stol d = .ok v := by
  obtain ⟨-, -, -, -, r, hr, hdate, -⟩ := load_ok h
  rw [hr, Option.some_bind] at hd
  rw [readField_some hd] at hdate
  exact ⟨g.date, readLong_ok.1 hdate⟩

/-! ### Reading back what `save()` wrote -/

/-- The flag that `flag(filename)` reads from the file `file` when its record
holds the fields `save()` wrote for `f` in `env`, with `date` and `count` as
read: state UP, the names, provenance, message, priority and `manual_down` of
`f`, its tags through the codec, and `modified`, hostname and version from
`env`. -/
def Flag.reloaded (f : Flag) (env : SaveEnv) (file : String) (date : Int) (count : CInt) : Flag :=
  { filename := file, unit := f.unit, «section» := f.section, name := f.name,
    sourceFile := f.sourceFile, function := f.function, line := f.line, message := f.message,
    priority := f.priority, manualDown := f.manualDown, date, modified := env.now,
    tags := (tokenizeString (joinStrings (f.tags.sort (· ≤ ·)) ",") [','] true tagTrim).toFinset,
    hostname := env.hostname, count, version := env.version }

/-- A record that holds the fields `save()` writes for `f`, and a `date` and a
`count` that read as numbers, loads as `f.reloaded`. -/
theorem load_savedFields {dir : FlagDir} {file : String} {r : Record} (hfile : file ≠ "")
    (hr : dir file = some r) {f : Flag} {env : SaveEnv}
    (hfields : ∀ kv ∈ savedFields f env true, r kv.1 = some kv.2) {ds cs : String} {d c : Int}
    (hd : r "date" = some ds) (hvd : readLong ds = .ok d) (hc : r "count" = some cs)
    (hvc : readLong cs = .ok c) :
    Flag.load dir file = .ok (f.reloaded env file d (CInt.ofLong c)) := by
  simp only [savedFields, if_true, List.append_nil, List.cons_append, List.nil_append,
    List.forall_mem_cons, List.not_mem_nil, IsEmpty.forall_iff, implies_true, and_true] at hfields
  obtain ⟨hunit, hsec, hname, hsrc, hfun, hline, hmsg, hprio, hmanual, hmod, htags, hhost, hver⟩ :=
    hfields
  have hl := readLong_toString f.line.long_range.1 f.line.long_range.2
  have hp := readLong_toString f.priority.long_range.1 f.priority.long_range.2
  have hm := readLong_toString env.now_range.1 env.now_range.2
  simp only [Flag.load, hfile, if_false, hr, Option.getD_some, hasParameter,
    hunit, hsec, hname, hmsg, Option.isSome_some, Bool.and_self, Bool.not_true, Bool.false_eq_true,
    readField_some hsrc, readField_some hfun, readField_some hline, readField_some hprio,
    readField_some hmanual, readField_some hd, readField_some hmod, readField_some htags,
    readField_some hhost, readField_some hc, readField_some hver, hl, hp, hm, hvd, hvc,
    bind, Except.bind, pure, Except.pure, Functor.map, Except.map, CInt.ofLong_val]
  simp only [getParameter, hunit, hsec, hname, hmsg, Option.getD_some, Flag.reloaded,
    Finset.empty_union, Except.ok.injEq]
  cases f.manualDown <;> rfl

/-! ### Round trip -/

/-- The merged record holds a `date` that reads as a number: the old one, when
that is a number, or the clock. -/
theorem mergeRecord_date {f : Flag} {env : SaveEnv} {old : Option Record} {file : Record}
    (h : f.mergeRecord env old = .ok file)
    (hdate : ∀ d, old.bind (· "date") = some d → ∃ v, stol d = .ok v) :
    ∃ d v, file "date" = some d ∧ readLong d = .ok v := by
  obtain ⟨-, -, -, hv, hold⟩ := mergeRecord_ok h
  cases hdd : old.bind (· "date") with
  | none =>
    exact ⟨_, _, hv "date" (toString env.now) (by simp [savedFields, hdd]),
      readLong_toString env.now_range.1 env.now_range.2⟩
  | some d =>
    obtain ⟨v, hv⟩ := hdate d hdd
    obtain ⟨r, hr, hrd⟩ := Option.bind_eq_some.1 hdd
    refine ⟨d, v, ?_, by simp [readLong, hv, Except.mapError]⟩
    rw [hold "date" (by decide) (by simp [savedFields, hdd]), hr, Option.getD_some, hrd]

/-- What `flag(filename)` loads from the file that `save()` has just written
for a flag with state UP: its fields, and the tags as the codec decodes them.
The only assumption is that a `date` the file already had is a number. -/
theorem load_save_fields {f : Flag} (hup : f.state = .up) {path : String} {env : SaveEnv}
    {dir dir' : FlagDir} (hsave : f.save path env dir = .ok (true, dir'))
    (hdate : ∀ d, (dir (f.getFilename path)).bind (· "date") = some d → ∃ v, stol d = .ok v) :
    ∃ g, Flag.load dir' (f.getFilename path) = .ok g ∧
      g.unit = f.unit ∧ g.section = f.section ∧ g.name = f.name ∧ g.sourceFile = f.sourceFile ∧
      g.function = f.function ∧ g.line = f.line ∧ g.message = f.message ∧
      g.priority = f.priority ∧ g.manualDown = f.manualDown ∧
      g.tags = (tokenizeString (joinStrings (f.tags.sort (· ≤ ·)) ",") [','] true tagTrim).toFinset := by
  obtain ⟨hfn, -, ⟨-, file, hmerge, rfl⟩ | ⟨hdown, -⟩⟩ := save_true hsave
  swap
  · rw [hup] at hdown; cases hdown
  obtain ⟨count, hcount, hfc, hv, -⟩ := mergeRecord_ok hmerge
  obtain ⟨d, vd, hd, hvd⟩ := mergeRecord_date hmerge hdate
  obtain ⟨vc, hvc⟩ := nextCount_readLong hcount
  exact ⟨_, load_savedFields hfn (Function.update_same ..)
    (fun kv h => hv kv.1 kv.2 (savedFields_of_true f env _ h)) hd hvd hfc hvc,
    rfl, rfl, rfl, rfl, rfl, rfl, rfl, rfl, rfl, rfl⟩

/-- A flag saved with state UP loads back from its file with the same names,
provenance, message, priority and `manual_down`, and with the same tags when
each tag is a token of the tag codec; the only assumption is that a `date`
the file already had is a number. -/
theorem load_save {f : Flag} (hup : f.state = .up) {path : String} {env : SaveEnv}
    {dir dir' : FlagDir} (hsave : f.save path env dir = .ok (true, dir'))
    (hdate : ∀ d, (dir (f.getFilename path)).bind (· "date") = some d → ∃ v, stol d = .ok v) :
    ∃ g, Flag.load dir' (f.getFilename path) = .ok g ∧
      g.unit = f.unit ∧ g.section = f.section ∧ g.name = f.name ∧ g.sourceFile = f.sourceFile ∧
      g.function = f.function ∧ g.line = f.line ∧ g.message = f.message ∧
      g.priority = f.priority ∧ g.manualDown = f.manualDown ∧
      ((∀ t ∈ f.tags, Token [','] tagTrim t) → g.tags = f.tags) := by
  obtain ⟨g, hload, hu, hs, hn, hsrc, hfun, hl, hm, hp, hmd, htags⟩ := load_save_fields hup hsave hdate
  refine ⟨g, hload, hu, hs, hn, hsrc, hfun, hl, hm, hp, hmd, fun htok => ?_⟩
  have hjoin := tokenizeString_joinStrings ',' tagTrim fun t ht =>
    htok t ((Finset.mem_sort (· ≤ ·)).1 ht)
  rw [htags, show ("," : String) = ⟨[',']⟩ from rfl, hjoin, Finset.sort_toFinset]

/-- A name that `valid_name()` accepts is a token of the tag codec: it is not
empty and holds only `a-z`, `0-9` and `-`. -/
theorem NameMatch.token {t : String} (h : NameMatch Char.isLower t.data) : Token [','] tagTrim t := by
  have hbad : ∀ b ∈ ',' :: tagTrim, ¬((b.isLower || b.isDigit) = true ∨ b = '-') := by decide
  have hmem : ∀ c ∈ t.data, c ∉ ',' :: tagTrim := fun c hc hb => hbad c hb (h.mem c hc)
  refine ⟨fun he => ?_, fun c hc h' => hmem c hc (List.mem_cons.2 (.inl (List.mem_singleton.1 h'))),
    fun c hc h' => hmem c (List.mem_of_mem_head? hc) (List.mem_cons_of_mem _ h'),
    fun c hc h' => hmem c (List.mem_of_mem_getLast? hc) (List.mem_cons_of_mem _ h')⟩
  rw [he] at h
  cases h

end Communicatord
