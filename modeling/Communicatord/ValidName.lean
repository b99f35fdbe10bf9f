import Mathlib.Tactic.IntervalCases
import Mathlib.Data.List.Basic
/-
Names of units, sections, flags and tags.

`flag::valid_name` checks a name in one left-to-right pass, with the state
`first` and `last_char`, and lowercases it in place.  This file proves that
the pass accepts exactly the regular expression the source documents:

* `NameMatch` — the expression `[L][L0-9]*(-[L0-9]+)*` over a letter class
  `L`, as a grammar: `NameMatch Char.isAlpha` is `[A-Za-z][A-Za-z0-9]*(-[A-Za-z0-9]+)*`
  and `NameMatch Char.isLower` its lowercase form;
* `validName_spec` — `valid_name` returns the ASCII-lowercase form of every
  string of the language and throws `invalid_name` on every other string;
* `validName_ok` — what it returns matches `[a-z][a-z0-9]*(-[a-z0-9]+)*`, so it
  holds no `_`, `/` or `.`.

Design notes: a byte `b` of a `std::string` is the character `Char.ofNat b`.
Bytes `≥ 0x80` are negative as a signed `char` and above `'z'` unsigned; both
reach the last branch of the `switch`, so the model needs no signedness.  The
loop body is `checkChar`, the loop `scanName`; the scanner is proved against
the grammar through `scanName_accepts`, whose state is the last character.
-/

namespace Communicatord

/-- The exception `invalid_name`, with its message. -/
structure InvalidName where
  what : String
  deriving DecidableEq, Repr

/-- One turn of the loop of `flag::valid_name`: the `switch` on the character
`c`, giving the character written back or the exception. -/
def checkChar (first : Bool) (lastChar c : Char) : Except InvalidName Char :=
  if c = '-' then
    if first then .error ⟨"unit, section, name, tags cannot start with a dash (-)"⟩
    else if lastChar = '-' then
      .error ⟨"unit, section, name, tags cannot have two dashes (--) in a row"⟩
    else .ok c
  else if c.isDigit then
    if first then .error ⟨"unit, section, name, tags cannot start with a digit (-)"⟩ else .ok c
  else if c.isUpper then .ok (Char.ofNat (c.toNat ||| 0x20))
  else if c < 'a' ∨ 'z' < c then
    .error ⟨"name cannot include characters other than a-z, 0-9, and dashes (-)"⟩
  else .ok c

/-- The loop of `flag::valid_name` over the remaining characters: the
rewritten characters and the final `last_char`. -/
def scanName (first : Bool) (lastChar : Char) : List Char → Except InvalidName (List Char × Char)
  | [] => .ok ([], lastChar)
  | c :: rest => do
    let c ← checkChar first lastChar c
    let (out, last) ← scanName false c rest
    pure (c :: out, last)

/-- `flag::valid_name(name)`: the name lowercased, or `invalid_name`. -/
def validName (name : String) : Except InvalidName String :=
  if name = "" then .error ⟨"unit, section, name, tags cannot be empty"⟩
  else do
    let (out, lastChar) ← scanName true '\x00' name.data
    if lastChar = '-' then .error ⟨"unit, section, name, tags cannot end with a dash (-)"⟩
    else pure ⟨out⟩

/-- ASCII lowercase: `A`–`Z` become `a`–`z`, every other character is kept. -/
def asciiLower (s : String) : String := ⟨s.data.map Char.toLower⟩

/-! ### The regular expression -/

section Grammar

variable (letter : Char → Bool)

/-- `[L0-9]*(-[L0-9]+)*` for the letter class `L`. -/
inductive NameTail : List Char → Prop
  | nil : NameTail []
  | alnum {c : Char} {s : List Char} : (letter c || c.isDigit) → NameTail s → NameTail (c :: s)
  | dash {c : Char} {s : List Char} :
      (letter c || c.isDigit) → NameTail s → NameTail ('-' :: c :: s)

/-- `[L][L0-9]*(-[L0-9]+)*` for the letter class `L`. -/
inductive NameMatch : List Char → Prop
  | mk {c : Char} {s : List Char} : letter c → NameTail letter s → NameMatch (c :: s)

variable {letter}

theorem nameTail_cons {c : Char} {s : List Char} (hc : letter c || c.isDigit) :
    NameTail letter (c :: s) ↔ NameTail letter s := by
  refine ⟨fun h => ?_, .alnum hc⟩
  cases h with
  | alnum _ h => exact h
  | dash hd h => exact .alnum hd h

theorem nameTail_dash {s : List Char} (hdash : ¬(letter '-' || Char.isDigit '-')) :
    NameTail letter ('-' :: s) ↔ ∃ c s', s = c :: s' ∧ (letter c || c.isDigit) ∧ NameTail letter s' := by
  constructor
  · rintro (_ | ⟨hc, _⟩ | ⟨hc, h⟩)
    · exact absurd hc hdash
    · exact ⟨_, _, rfl, hc, h⟩
  · rintro ⟨c, s', rfl, hc, h⟩
    exact .dash hc h

theorem not_nameTail_cons {c : Char} {s : List Char} (hc : ¬(letter c || c.isDigit)) (hd : c ≠ '-') :
    ¬NameTail letter (c :: s) := by
  rintro (_ | ⟨h, _⟩ | _)
  exacts [hc h, hd rfl]

/-- Every character of a name is a letter, a digit or `-`. -/
theorem NameTail.mem {s : List Char} (h : NameTail letter s) :
    ∀ c ∈ s, (letter c || c.isDigit) ∨ c = '-' := by
  induction h with
  | nil => simp
  | alnum hc _ ih => exact List.forall_mem_cons.2 ⟨.inl hc, ih⟩
  | dash hc _ ih => exact List.forall_mem_cons.2 ⟨.inr rfl, List.forall_mem_cons.2 ⟨.inl hc, ih⟩⟩

theorem NameMatch.mem {s : List Char} (h : NameMatch letter s) :
    ∀ c ∈ s, (letter c || c.isDigit) ∨ c = '-' := by
  obtain ⟨hc, ht⟩ := h
  exact List.forall_mem_cons.2 ⟨.inl (by simp [hc]), ht.mem⟩

/-- Mapping the characters keeps a name in the grammar when it maps letters
and digits of one class into the other and keeps `-`. -/
theorem NameTail.map {letter' : Char → Bool} {f : Char → Char}
    (hf : ∀ c, (letter c || c.isDigit) → (letter' (f c) || (f c).isDigit)) (hdash : f '-' = '-')
    {s : List Char} (h : NameTail letter s) : NameTail letter' (s.map f) := by
  induction h with
  | nil => exact .nil
  | alnum hc _ ih => exact .alnum (hf _ hc) ih
  | dash hc _ ih => simpa [hdash] using NameTail.dash (hf _ hc) ih

end Grammar

/-! ### Characters -/

theorem isUpper_iff (c : Char) : c.isUpper ↔ 65 ≤ c.toNat ∧ c.toNat ≤ 90 := by
  simp [Char.isUpper, UInt32.le_def, Char.toNat, BitVec.le_def, UInt32.toNat]

theorem isLower_iff (c : Char) : c.isLower ↔ 97 ≤ c.toNat ∧ c.toNat ≤ 122 := by
  simp [Char.isLower, UInt32.le_def, Char.toNat, BitVec.le_def, UInt32.toNat]

theorem isDigit_iff (c : Char) : c.isDigit ↔ 48 ≤ c.toNat ∧ c.toNat ≤ 57 := by
  simp [Char.isDigit, UInt32.le_def, Char.toNat, BitVec.le_def, UInt32.toNat]

theorem lt_a_iff (c : Char) : c < 'a' ↔ c.toNat < 97 := by
  simp [Char.lt_def, UInt32.lt_def, Char.toNat, BitVec.lt_def, UInt32.toNat]

theorem z_lt_iff (c : Char) : 'z' < c ↔ 122 < c.toNat := by
  simp [Char.lt_def, UInt32.lt_def, Char.toNat, BitVec.lt_def, UInt32.toNat]

theorem eq_dash_iff (c : Char) : c = '-' ↔ c.toNat = 45 :=
  ⟨fun h => h ▸ rfl, fun h => by rw [← Char.ofNat_toNat c, h]⟩

/-- `c |= 0x20` on an uppercase letter is its lowercase letter. -/
theorem lor_upper {c : Char} (h : c.isUpper) :
    Char.ofNat (c.toNat ||| 0x20) = c.toLower ∧ c.toLower.isLower := by
  obtain ⟨h₁, h₂⟩ := (isUpper_iff c).1 h
  rw [← Char.ofNat_toNat c]
  generalize c.toNat = n at h₁ h₂
  interval_cases n <;> decide

theorem toLower_of_not_isUpper {c : Char} (h : ¬c.isUpper) : c.toLower = c := by
  rw [isUpper_iff] at h
  simp only [Char.toLower, ge_iff_le]
  rw [if_neg h]

theorem toLower_alnum {c : Char} (h : c.isAlpha || c.isDigit) :
    c.toLower.isLower || c.toLower.isDigit := by
  by_cases hu : c.isUpper
  · simp [(lor_upper hu).2]
  · rw [toLower_of_not_isUpper hu]
    simpa [Char.isAlpha, hu] using h

theorem toLower_alpha_or_digit {c : Char} (h : c.isAlpha || c.isDigit) :
    c.toLower.isAlpha || c.toLower.isDigit := by
  have := toLower_alnum h
  simp only [Bool.or_eq_true, Char.isAlpha] at this ⊢
  tauto

/-! ### The scanner -/

/-- The characters the scanner lets through: a letter first; after that a
letter, a digit, or a `-` that does not follow a `-`. -/
def Allowed : Bool → Char → Char → Prop
  | true, _, c => c.isAlpha
  | false, lastChar, c => (c.isAlpha || c.isDigit) ∨ (c = '-' ∧ lastChar ≠ '-')

theorem checkChar_upper {first : Bool} {lastChar c : Char} (hu : c.isUpper) :
    checkChar first lastChar c = .ok c.toLower := by
  have : c ≠ '-' ∧ ¬c.isDigit := by
    rw [isUpper_iff] at hu; rw [Ne, eq_dash_iff, isDigit_iff]; omega
  simp [checkChar, this, hu, (lor_upper hu).1]

theorem checkChar_lower {first : Bool} {lastChar c : Char} (hl : c.isLower) :
    checkChar first lastChar c = .ok c.toLower := by
  have : c ≠ '-' ∧ ¬c.isDigit ∧ ¬c.isUpper ∧ ¬(c < 'a' ∨ 'z' < c) := by
    rw [isLower_iff] at hl; rw [Ne, eq_dash_iff, isDigit_iff, isUpper_iff, lt_a_iff, z_lt_iff]; omega
  simp [checkChar, this, toLower_of_not_isUpper this.2.2.1]

theorem checkChar_digit {first : Bool} {lastChar c : Char} (hd : c.isDigit) :
    checkChar first lastChar c =
      if first then .error ⟨"unit, section, name, tags cannot start with a digit (-)"⟩
      else .ok c.toLower := by
  have : c ≠ '-' ∧ ¬c.isUpper := by
    rw [isDigit_iff] at hd; rw [Ne, eq_dash_iff, isUpper_iff]; omega
  simp [checkChar, this, hd, toLower_of_not_isUpper this.2]

theorem checkChar_other {first : Bool} {lastChar c : Char} (hc : ¬(c.isAlpha || c.isDigit))
    (hd : c ≠ '-') : ∃ e, checkChar first lastChar c = .error e := by
  simp only [Char.isAlpha, Bool.or_eq_true, not_or] at hc
  have : c < 'a' ∨ 'z' < c := by
    have := hc.1.2; rw [isLower_iff] at this; rw [lt_a_iff, z_lt_iff]; omega
  simp [checkChar, hd, hc, this]

theorem checkChar_allowed {first : Bool} {lastChar c : Char} (h : Allowed first lastChar c) :
    checkChar first lastChar c = .ok c.toLower := by
  have hdash : Char.toLower '-' = '-' := by decide
  cases first <;> simp only [Allowed, Char.isAlpha, Bool.or_eq_true] at h
  · rcases h with ((hu | hl) | hd) | ⟨rfl, hl⟩
    · exact checkChar_upper hu
    · exact checkChar_lower hl
    · simp [checkChar_digit hd]
    · simp [checkChar, hl, hdash]
  · rcases h with hu | hl
    exacts [checkChar_upper hu, checkChar_lower hl]

theorem checkChar_not_allowed {first : Bool} {lastChar c : Char} (h : ¬Allowed first lastChar c) :
    ∃ e, checkChar first lastChar c = .error e := by
  by_cases hd : c = '-'
  · subst hd
    cases first
    · have : lastChar = '-' := by
        by_contra hl
        exact h (.inr ⟨rfl, hl⟩)
      simp [checkChar, this]
    · simp [checkChar]
  by_cases hc : c.isAlpha || c.isDigit
  · cases first
    · exact absurd (.inl hc) h
    · have hg : c.isDigit := by
        simp only [Allowed] at h
        simpa [h] using hc
      simp [checkChar_digit hg]
  · exact checkChar_other hc hd

theorem scanName_cons_ok {first : Bool} {lastChar c c' : Char} {rest : List Char}
    (h : checkChar first lastChar c = .ok c') :
    scanName first lastChar (c :: rest) =
      (scanName false c' rest).map fun r => (c' :: r.1, r.2) := by
  simp only [scanName, h, bind, Except.bind]
  cases scanName false c' rest <;> rfl

theorem scanName_cons_error {first : Bool} {lastChar c : Char} {rest : List Char} {e : InvalidName}
    (h : checkChar first lastChar c = .error e) :
    scanName first lastChar (c :: rest) = .error e := by
  simp only [scanName, h, bind, Except.bind]

/-- What `scanName` writes back is the input, lowercased. -/
theorem scanName_out {first : Bool} {lastChar : Char} {cs out : List Char} {last : Char}
    (h : scanName first lastChar cs = .ok (out, last)) : out = cs.map Char.toLower := by
  induction cs generalizing first lastChar out last with
  | nil => cases h; rfl
  | cons c rest ih =>
    by_cases ha : Allowed first lastChar c
    · rw [scanName_cons_ok (checkChar_allowed ha)] at h
      cases hr : scanName false c.toLower rest with
      | error e => simp [hr, Except.map] at h
      | ok r =>
        obtain ⟨o, l⟩ := r
        simp only [hr, Except.map, Except.ok.injEq, Prod.mk.injEq] at h
        rw [← h.1, ih hr, List.map_cons]
    · obtain ⟨e, he⟩ := checkChar_not_allowed ha
      rw [scanName_cons_error he] at h
      cases h

/-- The scanner past the first character accepts `cs`: it returns, and the
final `last_char` is not `-`. -/
def ScanAccepts (lastChar : Char) (cs : List Char) : Prop :=
  ∃ out last, scanName false lastChar cs = .ok (out, last) ∧ last ≠ '-'

/-- A scan that returned accepts exactly when its last character is not `-`. -/
theorem scanAccepts_of_ok {lastChar last : Char} {cs out : List Char}
    (h : scanName false lastChar cs = .ok (out, last)) : ScanAccepts lastChar cs ↔ last ≠ '-' :=
  ⟨fun ⟨_, _, h', hl⟩ => by rw [h] at h'; cases h'; exact hl, fun hl => ⟨_, _, h, hl⟩⟩

theorem scanAccepts_cons {lastChar c : Char} {rest : List Char} :
    ScanAccepts lastChar (c :: rest) ↔ Allowed false lastChar c ∧ ScanAccepts c.toLower rest := by
  by_cases ha : Allowed false lastChar c
  · simp only [ScanAccepts, scanName_cons_ok (checkChar_allowed ha), ha, true_and]
    constructor
    · rintro ⟨out, last, h, hl⟩
      cases hr : scanName false c.toLower rest with
      | error e => simp [hr, Except.map] at h
      | ok r =>
        simp only [hr, Except.map, Except.ok.injEq, Prod.mk.injEq] at h
        exact ⟨r.1, r.2, rfl, h.2 ▸ hl⟩
    · rintro ⟨out, last, h, hl⟩
      exact ⟨c.toLower :: out, last, by simp [h, Except.map], hl⟩
  · obtain ⟨e, he⟩ := checkChar_not_allowed ha
    simp [ScanAccepts, scanName_cons_error he, ha]

/-- The scanner, in the state reached after the character `lastChar`, accepts
exactly the tails that the grammar accepts after `lastChar`. -/
theorem scanName_accepts (cs : List Char) (lastChar : Char)
    (hl : (lastChar.isAlpha || lastChar.isDigit) ∨ lastChar = '-') :
    ScanAccepts lastChar cs ↔ NameTail Char.isAlpha (lastChar :: cs) := by
  have hdash : ¬(Char.isAlpha '-' || Char.isDigit '-') := by decide
  induction cs generalizing lastChar with
  | nil =>
    have hnil := scanAccepts_of_ok (rfl : scanName false lastChar [] = .ok ([], lastChar))
    rcases hl with hl | rfl
    · have : lastChar ≠ '-' := by rintro rfl; exact hdash hl
      simpa [hnil, this, nameTail_cons hl] using NameTail.nil
    · simp [hnil, nameTail_dash hdash]
  | cons c rest ih =>
    rw [scanAccepts_cons]
    by_cases ha : Allowed false lastChar c
    · simp only [ha, true_and]
      simp only [Allowed] at ha
      rcases ha with hc | ⟨rfl, hne⟩
      · have hlow := toLower_alpha_or_digit hc
        refine (ih c.toLower (.inl hlow)).trans ?_
        rw [nameTail_cons hlow]
        rcases hl with hl | rfl
        · rw [nameTail_cons hl, nameTail_cons hc]
        · rw [nameTail_dash hdash]
          exact ⟨fun h => ⟨c, rest, rfl, hc, h⟩, fun ⟨_, _, he, _, h⟩ => by cases he; exact h⟩
      · have hl' : lastChar.isAlpha || lastChar.isDigit := hl.resolve_right hne
        exact (ih '-' (.inr rfl)).trans (nameTail_cons hl').symm
    · simp only [ha, false_and, false_iff]
      simp only [Allowed, not_or, not_and, not_not] at ha
      rcases hl with hl | rfl
      · have hc : c ≠ '-' := fun h => by
          have := ha.2 h; subst this; exact hdash hl
        rw [nameTail_cons hl]
        exact not_nameTail_cons ha.1 hc
      · rw [nameTail_dash hdash]
        rintro ⟨_, _, he, hc, _⟩
        cases he
        exact ha.1 hc

/-! ### `valid_name` -/

/-- `valid_name` returns exactly on the strings of
`[A-Za-z][A-Za-z0-9]*(-[A-Za-z0-9]+)*`, and what it returns is their
ASCII-lowercase form. -/
theorem validName_ok_iff (s t : String) :
    validName s = .ok t ↔ NameMatch Char.isAlpha s.data ∧ t = asciiLower s := by
  obtain ⟨_ | ⟨c, rest⟩⟩ := s
  · exact ⟨fun h => (by cases h), fun ⟨h, _⟩ => (by cases h)⟩
  have hne : String.mk (c :: rest) ≠ "" := fun h => nomatch congrArg String.data h
  by_cases ha : c.isAlpha
  · have hlow : c.toLower.isAlpha || c.toLower.isDigit := toLower_alpha_or_digit (by simp [ha])
    have hmatch : NameMatch Char.isAlpha (c :: rest) ↔ ScanAccepts c.toLower rest := by
      rw [scanName_accepts rest c.toLower (.inl hlow), nameTail_cons hlow]
      exact ⟨fun ⟨_, h⟩ => h, fun h => ⟨ha, h⟩⟩
    rw [hmatch]
    have hscan : scanName true '\x00' (c :: rest) = _ :=
      scanName_cons_ok (checkChar_allowed (show Allowed true '\x00' c from ha))
    simp only [validName, if_neg hne, hscan]
    cases hr : scanName false c.toLower rest with
    | error e =>
      have : ¬ScanAccepts c.toLower rest := fun ⟨_, _, h, _⟩ => by rw [hr] at h; cases h
      simp [this, Except.map, bind, Except.bind]
    | ok r =>
      obtain ⟨out, last⟩ := r
      obtain rfl := scanName_out hr
      rw [scanAccepts_of_ok hr]
      by_cases hl : last = '-'
      · simp [hl, Except.map, bind, Except.bind]
      · simp [hl, Except.map, bind, Except.bind, asciiLower, pure, Except.pure, eq_comm]
  · obtain ⟨e, he⟩ := checkChar_not_allowed (show ¬Allowed true '\x00' c from ha)
    simp only [validName, if_neg hne, scanName_cons_error he]
    exact ⟨fun h => (by cases h), fun ⟨⟨h, _⟩, _⟩ => absurd h ha⟩

/-- `valid_name` returns the ASCII-lowercase form of every string of
`[A-Za-z][A-Za-z0-9]*(-[A-Za-z0-9]+)*` and throws `invalid_name` on every
other string. -/
theorem validName_spec (s : String) :
    (NameMatch Char.isAlpha s.data → validName s = .ok (asciiLower s)) ∧
      (¬NameMatch Char.isAlpha s.data → ∃ e, validName s = .error e) := by
  refine ⟨fun h => (validName_ok_iff s _).2 ⟨h, rfl⟩, fun h => ?_⟩
  cases hv : validName s with
  | error e => exact ⟨e, rfl⟩
  | ok t => exact absurd ((validName_ok_iff s t).1 hv).1 h

theorem toLower_isLower {c : Char} (h : c.isAlpha) : c.toLower.isLower := by
  by_cases hu : c.isUpper
  · exact (lor_upper hu).2
  · rw [toLower_of_not_isUpper hu]
    simpa [Char.isAlpha, hu] using h

theorem NameMatch.map {letter letter' : Char → Bool} {f : Char → Char}
    (hl : ∀ c, letter c → letter' (f c))
    (hf : ∀ c, (letter c || c.isDigit) → (letter' (f c) || (f c).isDigit)) (hdash : f '-' = '-')
    {s : List Char} (h : NameMatch letter s) : NameMatch letter' (s.map f) := by
  obtain ⟨hc, ht⟩ := h
  exact ⟨hl _ hc, ht.map hf hdash⟩

/-- What `valid_name` returns is the ASCII-lowercase form of its input. -/
theorem validName_eq {s t : String} (h : validName s = .ok t) : t = asciiLower s :=
  ((validName_ok_iff s t).1 h).2

/-- What `valid_name` returns matches `[a-z][a-z0-9]*(-[a-z0-9]+)*`. -/
theorem validName_ok {s t : String} (h : validName s = .ok t) : NameMatch Char.isLower t.data := by
  obtain ⟨hm, rfl⟩ := (validName_ok_iff s t).1 h
  exact hm.map (fun _ => toLower_isLower) (fun _ => toLower_alnum) (by decide)

/-- A name of `[a-z][a-z0-9]*(-[a-z0-9]+)*` is its own normal form. -/
theorem validName_of_lower {t : String} (h : NameMatch Char.isLower t.data) : validName t = .ok t := by
  have hweak : NameMatch Char.isAlpha (t.data.map id) :=
    h.map (fun c hc => by simp [Char.isAlpha, hc]) (fun c hc => by
      simp only [Bool.or_eq_true, Char.isAlpha] at hc ⊢; tauto) rfl
  rw [List.map_id] at hweak
  refine (validName_ok_iff t t).2 ⟨hweak, (String.ext ?_).symm⟩
  show t.data.map Char.toLower = t.data
  conv_rhs => rw [← List.map_id t.data]
  refine List.map_congr_left fun c hc => toLower_of_not_isUpper ?_
  rcases h.mem c hc with hc | rfl
  · simp only [Bool.or_eq_true, isLower_iff, isDigit_iff, isUpper_iff] at hc ⊢
    omega
  · decide

/-- `valid_name` is idempotent: it returns what it returned unchanged. -/
theorem validName_idem {s t : String} (h : validName s = .ok t) : validName t = .ok t :=
  validName_of_lower (validName_ok h)

/-- The normal form of `Core-Plugins` is its own normal form. -/
theorem validName_idem_core_plugins :
    validName "Core-Plugins" = .ok "core-plugins" ∧ validName "core-plugins" = .ok "core-plugins" :=
  ⟨rfl, validName_idem (show validName "Core-Plugins" = .ok "core-plugins" from rfl)⟩

/-- A name holds no `_`, `/` or `.`. -/
theorem NameMatch.separators_not_mem {s : List Char} (h : NameMatch Char.isLower s) :
    '_' ∉ s ∧ '/' ∉ s ∧ '.' ∉ s := by
  refine ⟨fun hc => ?_, fun hc => ?_, fun hc => ?_⟩ <;>
    rcases h.mem _ hc with h | h <;> revert h <;> decide

end Communicatord
