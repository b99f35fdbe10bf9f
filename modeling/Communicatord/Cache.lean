import Communicatord.Numeric
import Communicatord.Tokenize
/-
The message cache of the communicator daemon, `scd::cache`.

The daemon keeps the messages it cannot forward yet in a list of entries,
each with its timeout.  `cache_message` appends one, unless the message says
`cache=no`; `remove_old_messages` drops the entries whose timeout passed;
`process_messages(callback)` offers each entry to the callback and drops the
ones it accepts and the ones whose timeout passed.  Both loops erase while
they iterate.

* `cacheMessage_ttl_unchecked` — the range check of the TTL reads the
  default TTL, never the value, so every integer `ttl` is taken;
* `cacheEntry_joinCacheItems` — the `cache` parameter round trip: items
  `name[=value]` joined with `;` read back as a map in which the last item of
  a name wins, and the TTL is the last `ttl` value that `convert_string`
  accepts, 60 otherwise;
* `removeOldMessages_eq` / `processMessages_eq` — the two loops are filters:
  the first keeps the entries not timed out; the second calls the callback
  once on each entry, in order, in any monad, and keeps the entries it
  declined that are not timed out;
* `cacheRun_eq` — over any sequence of the three calls, the cache is its
  first entries that no call removed, followed by the entries the calls
  cached, in the order of the calls, that no later call removed;
* `cacheRunM_eq` — with `process_messages()` callbacks in any monad, a run is
  the answers of its calls, each given the cache the calls before it left,
  followed by the pure run on those answers; whatever the callbacks answer,
  the cache stays a sublist of its first entries and the ones cached
  (`answeredRun_sublist`).

Design notes: an `ed::message` is modelled by its parameters, the only part
the cache reads.  `time_t` and `std::int64_t` values are integers and
`now + ttl` is computed exactly, so that a sum past `INT64_MAX` (signed
overflow in the source) shows as one.  `advgetopt` is outside this
repository: `convert_string` is modelled from what it is documented to
accept.  In `cacheRun` a callback is a function of the message; `cacheRunM`
takes callbacks in any monad, which may answer differently for equal
messages.
-/

namespace Communicatord

/-- An `ed::message`, by its parameters (`has_parameter`, `get_parameter`). -/
structure Message where
  parameters : String → Option String

/-- `message_cache`: a cached message and the time after which it expires. -/
structure MessageCache where
  timeoutTimestamp : Int
  message : Message

/-- `cache::f_message_cache`, a `std::list` of entries. -/
abbrev Cache := List MessageCache

/-! ### `cache_message` -/

/-- `advgetopt::validator_integer::convert_string(value, result)`: an optional
sign followed by decimal digits and nothing else, of a value that fits
`std::int64_t`. -/
def convertString (value : String) : Option Int :=
  let (negative, digits) := splitSign value.data
  if digits = [] ∨ !digits.all Char.isDigit then none
  else
    let v : Int := if negative then -(digitsValue digits : Int) else digitsValue digits
    if v < longMin ∨ longMax < v then none else some v

/-- One item `<name>[=<value>]` of the `cache` parameter entered in `params`:
an item without `=` is `true`, an item without a name is logged and
ignored. -/
def addCacheParameter (params : String → Option String) (p : String) : String → Option String :=
  match p.data.span (· ≠ '=') with
  | (_, []) => Function.update params p (some "true")
  | ([], _ :: _) => params
  | (name, _ :: value) => Function.update params ⟨name⟩ (some ⟨value⟩)

/-- The TTL `cache_message` gives a message, from its cache parameters. -/
def cacheTtl (params : String → Option String) : Int :=
  let ttl : Int := 60
  match params "ttl" with
  | none => ttl
  | some value =>
    match convertString value with
    | none => ttl
    | some v => if ttl < 10 ∨ ttl > 86400 then ttl else v

/-- The entry `cache_message(msg)` appends at time `now`; `none` when the
message's `cache` parameter is `no`. -/
def cacheEntry (now : Int) (msg : Message) : Option MessageCache :=
  let cacheValue := (msg.parameters "cache").getD ""
  if cacheValue = "no" then none
  else
    let params := (tokenizeString cacheValue [';'] true []).foldl addCacheParameter fun _ => none
    some ⟨now + cacheTtl params, msg⟩

/-- `cache::cache_message(msg)` at time `now`. -/
def cacheMessage (now : Int) (msg : Message) (cache : Cache) : Cache :=
  match cacheEntry now msg with
  | none => cache
  | some e => cache ++ [e]

/-- A `ttl` of 5 is kept: the entry expires 5 seconds after it was cached,
below the range of 10 to 86400 the source checks; and a `ttl` of `INT64_MAX`
takes the timeout past `INT64_MAX`. -/
theorem cacheMessage_ttl_unchecked (now : Int) (cache : Cache) :
    cacheMessage now ⟨Function.update (fun _ => none) "cache" (some "ttl=5")⟩ cache =
        cache ++ [⟨now + 5, ⟨Function.update (fun _ => none) "cache" (some "ttl=5")⟩⟩] ∧
      cacheMessage 1 ⟨Function.update (fun _ => none) "cache" (some "ttl=9223372036854775807")⟩ [] =
        [⟨longMax + 1, ⟨Function.update (fun _ => none) "cache" (some "ttl=9223372036854775807")⟩⟩] := by
  constructor <;> rfl

/-! ### The `cache` parameter -/

/-- One item of a `cache` parameter as a sender writes it: `name` or
`name=value`. -/
def cacheItem (item : String × Option String) : String :=
  match item.2 with
  | none => item.1
  | some value => item.1 ++ "=" ++ value

/-- A `cache` parameter written as items separated by `;`. -/
def joinCacheItems (items : List (String × Option String)) : String :=
  joinStrings (items.map cacheItem) ";"

/-- An item that `cache_message` reads back: a name that is not empty and holds
no `=` or `;`, and a value without `;`. -/
structure CacheItem (item : String × Option String) : Prop where
  name_ne : item.1 ≠ ""
  eq_not_mem : '=' ∉ item.1.data
  semi_not_mem_name : ';' ∉ item.1.data
  semi_not_mem_value : ∀ v ∈ item.2, ';' ∉ v.data

theorem addCacheParameter_cacheItem {item : String × Option String} (h : CacheItem item)
    (params : String → Option String) :
    addCacheParameter params (cacheItem item) = Function.update params item.1 (some (item.2.getD "true")) := by
  obtain ⟨⟨n⟩, v⟩ := item
  have hn : ∀ c ∈ n, decide (c ≠ '=') = true := fun c hc => by
    simpa using fun he : c = '=' => h.eq_not_mem (he ▸ hc)
  obtain ⟨c, cs, rfl⟩ : ∃ c cs, n = c :: cs :=
    List.exists_cons_of_ne_nil fun hn => h.name_ne (by rw [hn])
  cases v with
  | none =>
    simp only [cacheItem, addCacheParameter, List.span_eq_take_drop,
      List.takeWhile_eq_self_iff.2 hn, List.dropWhile_eq_nil_iff.2 hn]
    rfl
  | some w =>
    have hdata : (String.mk (c :: cs) ++ "=" ++ w).data = (c :: cs) ++ '=' :: w.data := by simp
    simp only [cacheItem, addCacheParameter, hdata, List.span_eq_take_drop,
      List.takeWhile_append_of_pos hn, List.dropWhile_append_of_pos hn,
      List.takeWhile_cons, List.dropWhile_cons, ne_eq, not_true_eq_false, decide_False,
      Bool.false_eq_true, if_false, List.append_nil]
    rfl

theorem foldl_addCacheParameter {items : List (String × Option String)} (h : ∀ i ∈ items, CacheItem i)
    (params : String → Option String) :
    (items.map cacheItem).foldl addCacheParameter params =
      fun name => ((items.reverse.find? (·.1 = name)).map fun i => i.2.getD "true").or (params name) := by
  induction items generalizing params with
  | nil => rfl
  | cons i items ih =>
    rw [List.map_cons, List.foldl_cons, addCacheParameter_cacheItem (h i (List.mem_cons_self i items)),
      ih (fun j hj => h j (List.mem_cons_of_mem i hj))]
    funext name
    rw [List.reverse_cons, List.find?_append, Option.map_or', Option.or_assoc]
    congr 1
    by_cases hi : i.1 = name
    · subst hi
      simp
    · simp [hi, Function.update_noteq (Ne.symm hi)]

theorem tokenizeString_joinCacheItems {items : List (String × Option String)}
    (h : ∀ i ∈ items, CacheItem i) :
    tokenizeString (joinCacheItems items) [';'] true [] = items.map cacheItem := by
  refine tokenizeString_joinStrings ';' [] fun t ht => ?_
  obtain ⟨⟨n, v⟩, hi, rfl⟩ := List.mem_map.1 ht
  have hi := h _ hi
  refine ⟨?_, ?_, by simp, by simp⟩
  · cases v with
    | none => exact hi.name_ne
    | some w => exact fun he => hi.name_ne (by simpa [cacheItem] using congrArg String.data he)
  · have hn : ';' ∉ n.data := hi.semi_not_mem_name
    cases v with
    | none => exact fun c hc he => hn (by simpa [List.mem_singleton.1 he] using hc)
    | some w =>
      have hw : ';' ∉ w.data := hi.semi_not_mem_value w rfl
      intro c hc he
      rw [List.mem_singleton.1 he] at hc
      simp [cacheItem, hn, hw] at hc

theorem convertString_toString {v : Int} (hlo : longMin ≤ v) (hhi : v ≤ longMax) :
    convertString (toString v) = some v := by
  have hrange : ¬(v < longMin ∨ longMax < v) := by omega
  rcases v with m | m
  · obtain ⟨hne, hd, hv⟩ := toDigits_spec m
    obtain ⟨c, cs, hcs⟩ := List.exists_cons_of_ne_nil hne
    have hsplit : splitSign (Nat.toDigits 10 m) = (false, Nat.toDigits 10 m) := by
      obtain ⟨-, hm, hp⟩ := isSpace_of_isDigit (hd c (hcs ▸ List.mem_cons_self c cs))
      rw [hcs]
      unfold splitSign
      split <;> simp_all
    show convertString ⟨Nat.toDigits 10 m⟩ = _
    simp only [convertString, hsplit, hne, List.all_eq_true.2 hd, hv, Bool.not_true, Bool.false_eq_true,
      or_self, if_false, Int.ofNat_eq_coe] at hrange ⊢
    exact if_neg hrange
  · obtain ⟨hne, hd, hv⟩ := toDigits_spec (m + 1)
    show convertString ⟨['-'] ++ Nat.toDigits 10 (m + 1)⟩ = _
    simp only [convertString, show splitSign (['-'] ++ Nat.toDigits 10 (m + 1)) =
      (true, Nat.toDigits 10 (m + 1)) from rfl, hne, List.all_eq_true.2 hd, hv, Bool.not_true,
      Bool.false_eq_true, or_self, if_false, if_true, Int.negSucc_coe] at hrange ⊢
    exact if_neg hrange

/-- `cache_message` reads a `cache` parameter written as `name[=value]` items
separated by `;`: each name maps to the value of its last item (`true` for an
item without one), and the message expires `ttl` seconds after it is cached,
`ttl` being the value of the last `ttl` item when `convert_string` accepts it
and 60 otherwise; a `ttl` written by `std::to_string` is taken as it is,
whatever its sign or size. -/
theorem cacheEntry_joinCacheItems (now : Int) {msg : Message} {items : List (String × Option String)}
    (hitems : ∀ i ∈ items, CacheItem i) (hcache : msg.parameters "cache" = some (joinCacheItems items))
    (hno : joinCacheItems items ≠ "no") :
    (tokenizeString (joinCacheItems items) [';'] true []).foldl addCacheParameter (fun _ => none) =
        (fun name => (items.reverse.find? (·.1 = name)).map fun i => i.2.getD "true") ∧
      cacheEntry now msg = some ⟨now + ((items.reverse.find? (·.1 = "ttl")).bind fun i =>
        i.2.bind convertString).getD 60, msg⟩ ∧
      ∀ v, longMin ≤ v → v ≤ longMax →
        items.reverse.find? (·.1 = "ttl") = some ("ttl", some (toString v)) →
          cacheEntry now msg = some ⟨now + v, msg⟩ := by
  have hparams : (tokenizeString (joinCacheItems items) [';'] true []).foldl addCacheParameter
      (fun _ => none) = fun name => (items.reverse.find? (·.1 = name)).map fun i => i.2.getD "true" := by
    rw [tokenizeString_joinCacheItems hitems, foldl_addCacheParameter hitems]
    funext name
    cases items.reverse.find? (·.1 = name) <;> rfl
  have hentry : cacheEntry now msg = some ⟨now + ((items.reverse.find? (·.1 = "ttl")).bind fun i =>
      i.2.bind convertString).getD 60, msg⟩ := by
    simp only [cacheEntry, hcache, Option.getD_some, if_neg hno, hparams]
    congr 3
    unfold cacheTtl
    dsimp only
    cases items.reverse.find? (·.1 = "ttl") with
    | none => rfl
    | some i =>
      obtain ⟨n, _ | w⟩ := i
      · rfl
      · simp only [Option.map_some', Option.getD_some, Option.some_bind]
        cases convertString w <;> rfl
  refine ⟨hparams, hentry, fun v hlo hhi hlast => ?_⟩
  rw [hentry, hlast]
  simp [convertString_toString hlo hhi]

/-- `ttl=5;reply;ttl=30` on a message cached at 100: the last `ttl` counts, and
`reply` reads `true`. -/
theorem cacheEntry_last_ttl :
    cacheEntry 100 ⟨Function.update (fun _ => none) "cache" (some "ttl=5;reply;ttl=30")⟩ =
        some ⟨130, ⟨Function.update (fun _ => none) "cache" (some "ttl=5;reply;ttl=30")⟩⟩ ∧
      (tokenizeString "ttl=5;reply;ttl=30" [';'] true []).foldl addCacheParameter (fun _ => none)
        "reply" = some "true" := by
  have hitems : ∀ i ∈ [("ttl", some "5"), ("reply", none), ("ttl", some "30")], CacheItem i := by
    simp only [List.mem_cons, List.mem_singleton, List.not_mem_nil, or_false]
    rintro i (rfl | rfl | rfl) <;> exact ⟨by decide, by decide, by decide, by decide⟩
  obtain ⟨hparams, hentry, -⟩ := @cacheEntry_joinCacheItems 100
    ⟨Function.update (fun _ => none) "cache" (some "ttl=5;reply;ttl=30")⟩ _ hitems (by decide) (by decide)
  exact ⟨hentry.trans rfl, congrFun hparams "reply"⟩

/-! ### The two loops -/

/-- The loop of `remove_old_messages()`: the entries before the iterator are
`kept`, the iterator stands on the head of `rest`. -/
def removeOldLoop (now : Int) : Cache → Cache → Cache
  | kept, [] => kept
  | kept, e :: rest =>
    if now > e.timeoutTimestamp then removeOldLoop now kept rest
    else removeOldLoop now (kept ++ [e]) rest

/-- `cache::remove_old_messages()` at time `now`. -/
def removeOldMessages (now : Int) (cache : Cache) : Cache := removeOldLoop now [] cache

/-- The loop of `process_messages(callback)`, as `removeOldLoop`. -/
def processLoop {m : Type → Type} [Monad m] (now : Int) (callback : Message → m Bool) :
    Cache → Cache → m Cache
  | kept, [] => pure kept
  | kept, e :: rest => do
    if (← callback e.message) || decide (now > e.timeoutTimestamp) then
      processLoop now callback kept rest
    else processLoop now callback (kept ++ [e]) rest

/-- `cache::process_messages(callback)` at time `now`. -/
def processMessages {m : Type → Type} [Monad m] (now : Int) (callback : Message → m Bool)
    (cache : Cache) : m Cache :=
  processLoop now callback [] cache

/-- The entries `process_messages` keeps, given the callback's answers in
order: those it declined that are not timed out. -/
def keepDeclined (now : Int) (cache : Cache) (answers : List Bool) : Cache :=
  ((cache.zip answers).filter fun p => !(p.2 || decide (now > p.1.timeoutTimestamp))).map Prod.fst

theorem removeOldLoop_eq (now : Int) (kept rest : Cache) :
    removeOldLoop now kept rest = kept ++ rest.filter fun e => !decide (now > e.timeoutTimestamp) := by
  induction rest generalizing kept with
  | nil => simp [removeOldLoop]
  | cons e rest ih =>
    by_cases h : now > e.timeoutTimestamp <;> simp [removeOldLoop, h, ih]

/-- `remove_old_messages()` removes exactly the entries whose timeout passed,
and keeps the others in order. -/
theorem removeOldMessages_eq (now : Int) (cache : Cache) :
    removeOldMessages now cache = cache.filter fun e => !decide (now > e.timeoutTimestamp) := by
  simp [removeOldMessages, removeOldLoop_eq]

section Process

variable {m : Type → Type} [Monad m] [LawfulMonad m]

theorem processLoop_eq (now : Int) (callback : Message → m Bool) (kept rest : Cache) :
    processLoop now callback kept rest =
      (fun answers => kept ++ keepDeclined now rest answers) <$> rest.mapM (callback ·.message) := by
  induction rest generalizing kept with
  | nil =>
    rw [List.mapM_nil, map_pure]
    simp [processLoop, keepDeclined]
  | cons e rest ih =>
    rw [List.mapM_cons]
    simp only [processLoop, ih, map_bind, bind_pure_comp, Functor.map_map]
    refine congrArg (callback e.message >>= ·) (funext fun b => ?_)
    cases b <;> by_cases ht : now > e.timeoutTimestamp <;>
      simp [ht, keepDeclined, List.zip_cons_cons, List.filter_cons, Function.comp_def]

/-- `process_messages(callback)` calls the callback once on each entry, in
order, and keeps the entries it declined that are not timed out. -/
theorem processMessages_eq (now : Int) (callback : Message → m Bool) (cache : Cache) :
    processMessages now callback cache =
      keepDeclined now cache <$> cache.mapM (callback ·.message) := by
  simp [processMessages, processLoop_eq]

end Process

theorem mapM_log (answer : Message → Bool) (cache : Cache) (log : List Message) :
    (cache.mapM (fun e => (modifyGet fun log => (answer e.message, log ++ [e.message]) :
      StateM (List Message) Bool))).run log =
        (cache.map (answer ·.message), log ++ cache.map (·.message)) := by
  induction cache generalizing log with
  | nil => rw [List.mapM_nil]; simp [StateT.run, pure, StateT.pure]
  | cons e cache ih =>
    rw [List.mapM_cons]
    simp only [StateT.run_bind, ih]
    simp [StateT.run, modifyGet, MonadStateOf.modifyGet, StateT.modifyGet, pure, StateT.pure]

/-- The callback is offered each entry exactly once, in order: a callback that
logs the messages it is offered logs the messages of the cache. -/
theorem processMessages_offers (now : Int) (answer : Message → Bool) (cache : Cache)
    (log : List Message) :
    ((processMessages now (fun msg => (modifyGet fun log => (answer msg, log ++ [msg]) :
      StateM (List Message) Bool)) cache).run log).2 = log ++ cache.map (·.message) := by
  rw [processMessages_eq, StateT.run_map, mapM_log]
  rfl

theorem keepDeclined_map (now : Int) (callback : Message → Bool) (cache : Cache) :
    keepDeclined now cache (cache.map (callback ·.message)) =
      cache.filter fun e => !(callback e.message || decide (now > e.timeoutTimestamp)) := by
  induction cache with
  | nil => rfl
  | cons e cache ih =>
    simp only [keepDeclined] at ih ⊢
    cases hc : callback e.message <;> by_cases ht : now > e.timeoutTimestamp <;>
      simp_all [List.filter_cons]

/-! ### Runs -/

/-- A call on the cache: the clock reading it takes, its argument. -/
inductive CacheOp
  | cacheMessage (now : Int) (msg : Message)
  | removeOldMessages (now : Int)
  | processMessages (now : Int) (callback : Message → Bool)

/-- The cache after the call. -/
def CacheOp.apply : CacheOp → Cache → Cache
  | .cacheMessage now msg, cache => Communicatord.cacheMessage now msg cache
  | .removeOldMessages now, cache => Communicatord.removeOldMessages now cache
  | .processMessages now callback, cache =>
    Id.run (Communicatord.processMessages now (fun msg => pure (callback msg)) cache)

/-- Whether the call drops the entry `e` when `e` is in the cache. -/
def CacheOp.removes : CacheOp → MessageCache → Bool
  | .cacheMessage .., _ => false
  | .removeOldMessages now, e => decide (now > e.timeoutTimestamp)
  | .processMessages now callback, e => callback e.message || decide (now > e.timeoutTimestamp)

/-- The entry the call appends. -/
def CacheOp.added : CacheOp → Option MessageCache
  | .cacheMessage now msg => cacheEntry now msg
  | _ => none

/-- The calls one after the other. -/
def cacheRun (ops : List CacheOp) (cache : Cache) : Cache :=
  ops.foldl (fun cache op => op.apply cache) cache

/-- The entries the calls cached, in the order of the calls, that no later
call removed. -/
def survivors : List CacheOp → Cache
  | [] => []
  | op :: ops => (op.added.toList.filter fun e => ops.all fun o => !o.removes e) ++ survivors ops

theorem CacheOp.apply_eq (op : CacheOp) (cache : Cache) :
    op.apply cache = cache.filter (fun e => !op.removes e) ++ op.added.toList := by
  cases op with
  | cacheMessage now msg =>
    simp only [apply, Communicatord.cacheMessage, removes, added, Bool.not_false, List.filter_true]
    cases cacheEntry now msg <;> simp
  | removeOldMessages now => simp [apply, removeOldMessages_eq, removes, added]
  | processMessages now callback =>
    simp only [apply, removes, added, Option.toList_none, List.append_nil]
    rw [processMessages_eq, List.mapM_id]
    exact keepDeclined_map now callback cache

/-- Over any sequence of calls, the cache is the entries it started with that
no call removed, then the entries the calls cached, in the order of the
calls, that no later call removed: no entry is skipped, duplicated or
reordered, and each one leaves only by a call that removes it. -/
theorem cacheRun_eq (ops : List CacheOp) (cache : Cache) :
    cacheRun ops cache = cache.filter (fun e => ops.all fun o => !o.removes e) ++ survivors ops := by
  induction ops generalizing cache with
  | nil => simp [cacheRun, survivors]
  | cons op ops ih =>
    rw [cacheRun, List.foldl_cons, ← cacheRun, ih, CacheOp.apply_eq, List.filter_append,
      List.filter_filter, survivors, List.append_assoc]
    simp only [List.all_cons, Bool.and_comm]

/-! ### Runs with callbacks in a monad -/

/-- A call on the cache whose `process_messages()` callback runs in `m`. -/
inductive CacheCall (m : Type → Type)
  | cacheMessage (now : Int) (msg : Message)
  | removeOldMessages (now : Int)
  | processMessages (now : Int) (callback : Message → m Bool)

/-- A call with the answers its callback gave, one per entry, in order. -/
inductive AnsweredOp
  | cacheMessage (now : Int) (msg : Message)
  | removeOldMessages (now : Int)
  | processMessages (now : Int) (answers : List Bool)

/-- The cache after an answered call. -/
def AnsweredOp.apply : AnsweredOp → Cache → Cache
  | .cacheMessage now msg, cache => Communicatord.cacheMessage now msg cache
  | .removeOldMessages now, cache => Communicatord.removeOldMessages now cache
  | .processMessages now answers, cache => keepDeclined now cache answers

/-- The entry an answered call appends. -/
def AnsweredOp.added : AnsweredOp → Option MessageCache
  | .cacheMessage now msg => cacheEntry now msg
  | _ => none

/-- The one effect of a call: its callback's answers on the entries. -/
def CacheCall.answer {m : Type → Type} [Monad m] : CacheCall m → Cache → m AnsweredOp
  | .cacheMessage now msg, _ => pure (.cacheMessage now msg)
  | .removeOldMessages now, _ => pure (.removeOldMessages now)
  | .processMessages now callback, cache =>
    AnsweredOp.processMessages now <$> cache.mapM (callback ·.message)

/-- The call on the cache. -/
def CacheCall.run {m : Type → Type} [Monad m] : CacheCall m → Cache → m Cache
  | .cacheMessage now msg, cache => pure (Communicatord.cacheMessage now msg cache)
  | .removeOldMessages now, cache => pure (Communicatord.removeOldMessages now cache)
  | .processMessages now callback, cache => Communicatord.processMessages now callback cache

/-- The calls one after the other. -/
def cacheRunM {m : Type → Type} [Monad m] (calls : List (CacheCall m)) (cache : Cache) : m Cache :=
  calls.foldlM (fun cache call => call.run cache) cache

/-- The answers of the calls, each given the cache the calls before it left. -/
def answersOf {m : Type → Type} [Monad m] : List (CacheCall m) → Cache → m (List AnsweredOp)
  | [], _ => pure []
  | call :: calls, cache => do
    let op ← call.answer cache
    (op :: ·) <$> answersOf calls (op.apply cache)

/-- The answered calls one after the other. -/
def answeredRun (ops : List AnsweredOp) (cache : Cache) : Cache :=
  ops.foldl (fun cache op => op.apply cache) cache

section Monadic

variable {m : Type → Type} [Monad m] [LawfulMonad m]

theorem CacheCall.run_eq (call : CacheCall m) (cache : Cache) :
    call.run cache = (·.apply cache) <$> call.answer cache := by
  cases call with
  | processMessages now callback =>
    rw [run, answer, processMessages_eq, Functor.map_map]
    rfl
  | _ => simp [run, answer, AnsweredOp.apply]

/-- A run with callbacks in any monad: the answers of its calls, then the
pure run on them. -/
theorem cacheRunM_eq (calls : List (CacheCall m)) (cache : Cache) :
    cacheRunM calls cache = (answeredRun · cache) <$> answersOf calls cache := by
  induction calls generalizing cache with
  | nil => simp [cacheRunM, answersOf, answeredRun]
  | cons call calls ih =>
    simp only [cacheRunM, List.foldlM_cons, answersOf, CacheCall.run_eq, bind_map_left, map_bind,
      Functor.map_map] at ih ⊢
    exact congrArg (call.answer cache >>= ·) (funext fun op => ih (op.apply cache))

end Monadic

theorem keepDeclined_sublist (now : Int) (cache : Cache) (answers : List Bool) :
    (keepDeclined now cache answers).Sublist cache := by
  induction cache generalizing answers with
  | nil => simp [keepDeclined]
  | cons e cache ih =>
    cases answers with
    | nil => simp [keepDeclined]
    | cons b answers =>
      have := ih answers
      simp only [keepDeclined, List.zip_cons_cons, List.filter_cons] at this ⊢
      split
      · exact this.cons₂ e
      · exact this.cons e

theorem AnsweredOp.apply_sublist (op : AnsweredOp) (cache : Cache) :
    (op.apply cache).Sublist (cache ++ op.added.toList) := by
  cases op with
  | cacheMessage now msg =>
    simp only [apply, Communicatord.cacheMessage, added]
    cases cacheEntry now msg <;> simp
  | removeOldMessages now => simp [apply, added, removeOldMessages_eq, List.filter_sublist]
  | processMessages now answers =>
    simpa [apply, added] using keepDeclined_sublist now cache answers

/-- Whatever the callbacks answer, a run neither invents, duplicates nor
reorders entries: the cache is a sublist of its first entries followed by the
ones the calls cached, in order. -/
theorem answeredRun_sublist (ops : List AnsweredOp) (cache : Cache) :
    (answeredRun ops cache).Sublist (cache ++ ops.filterMap AnsweredOp.added) := by
  induction ops generalizing cache with
  | nil => simp [answeredRun]
  | cons op ops ih =>
    have := (ih (op.apply cache)).trans ((op.apply_sublist cache).append_right _)
    cases h : op.added <;> simpa [answeredRun, List.filterMap_cons, h] using this

/-- With callbacks that are functions of the message, in `Id`, the run is
`cacheRun`. -/
theorem cacheRunM_pure (ops : List CacheOp) (cache : Cache) :
    cacheRunM (m := Id) (ops.map fun
      | .cacheMessage now msg => .cacheMessage now msg
      | .removeOldMessages now => .removeOldMessages now
      | .processMessages now callback => .processMessages now fun msg => pure (callback msg)) cache =
      cacheRun ops cache := by
  induction ops generalizing cache with
  | nil => rfl
  | cons op ops ih => cases op <;> exact ih _

/-- The message cache over any sequence of `cache_message`,
`remove_old_messages` and `process_messages` calls: its entries are those it
started with and those the calls cached, in order, less the ones a call
removed; `remove_old_messages` removes exactly the timed-out entries;
`process_messages` offers each entry to the callback once, in order, in any
monad, and removes exactly those it accepted and those timed out. -/
theorem messageCache_spec :
    (∀ ops cache, cacheRun ops cache =
      cache.filter (fun e => ops.all fun o => !o.removes e) ++ survivors ops) ∧
    (∀ now cache, removeOldMessages now cache =
      cache.filter fun e => !decide (now > e.timeoutTimestamp)) ∧
    ∀ {m : Type → Type} [Monad m] [LawfulMonad m] (now : Int) (callback : Message → m Bool)
      (cache : Cache), processMessages now callback cache =
        keepDeclined now cache <$> cache.mapM (callback ·.message) :=
  ⟨cacheRun_eq, removeOldMessages_eq, fun now callback cache => processMessages_eq now callback cache⟩

end Communicatord
