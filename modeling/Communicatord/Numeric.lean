import Mathlib.Tactic.IntervalCases
import Mathlib.Data.List.Basic
import Mathlib.Data.Nat.Digits
/-
C++ scalars and the decimal text that flag files store them as.

A flag file holds every number as text: `save()` writes it with
`std::to_string` and the loading constructor reads it back with `std::stol`,
then assigns the `long` to an `int` field (`line`, `priority`, `count`).

* `stol` — `std::stol(str)` in base 10: C-locale white space is skipped, an
  optional sign and the longest run of digits are read; no digit throws
  `std::invalid_argument`, a value outside `long` throws `std::out_of_range`;
* `stol_toString_eq` — reading back what `std::to_string` wrote gives the
  value for every `long` (`stol_toString`), and `std::out_of_range` past it;
* `CInt` — a C++ `int`, carrying its range; `CInt.ofLong` is the assignment of
  a `long` to it, and `CInt.ofLong_val` says it keeps every `int`.

Design notes: `long` is 64 bits (LP64) and `std::to_string` of an integer
prints it as `toString` does.  The narrowing `long → int` is modular (it is
implementation-defined before C++20 and modular since); signed arithmetic
overflow is undefined, and the modules that can reach it make it a failure.
-/

namespace Communicatord

/-- Smallest `long`. -/
def longMin : Int := -2 ^ 63

/-- Largest `long`. -/
def longMax : Int := 2 ^ 63 - 1

/-- The exceptions `std::stol` throws. -/
inductive StolError
  /-- `std::invalid_argument`: no conversion could be performed. -/
  | invalidArgument
  /-- `std::out_of_range`: the value does not fit a `long`. -/
  | outOfRange
  deriving DecidableEq, Repr

/-- `isspace` in the C locale. -/
def isSpace (c : Char) : Bool :=
  c = ' ' || c = '\t' || c = '\n' || c = '\x0b' || c = '\x0c' || c = '\r'

/-- Value of a run of decimal digits, most significant first. -/
def digitsValue (ds : List Char) : Nat :=
  ds.foldl (fun acc d => 10 * acc + (d.toNat - '0'.toNat)) 0

/-- The sign `strtol` accepts in front of the digits (`true` for `-`), and
what follows it. -/
def splitSign : List Char → Bool × List Char
  | '-' :: rest => (true, rest)
  | '+' :: rest => (false, rest)
  | rest => (false, rest)

/-- `std::stol(str)`, base 10. -/
def stol (str : String) : Except StolError Int :=
  let (negative, body) := splitSign (str.data.dropWhile isSpace)
  let digits := body.takeWhile Char.isDigit
  if digits = [] then .error .invalidArgument
  else
    let value : Int := if negative then -(digitsValue digits : Int) else digitsValue digits
    if value < longMin ∨ longMax < value then .error .outOfRange else .ok value

/-! ### Decimal digits of `Nat.toDigits` -/

theorem digitChar_spec {d : Nat} (h : d < 10) :
    (Nat.digitChar d).isDigit = true ∧ (Nat.digitChar d).toNat - '0'.toNat = d := by
  interval_cases d <;> decide

private theorem toDigitsCore_append (fuel n : Nat) (ds : List Char) (h : n < fuel) :
    Nat.toDigitsCore 10 fuel n ds = Nat.toDigitsCore 10 fuel n [] ++ ds := by
  induction fuel generalizing n ds with
  | zero => omega
  | succ fuel ih =>
    simp only [Nat.toDigitsCore]
    split
    · rfl
    · rw [ih _ _ (by omega), ih _ [_] (by omega), List.append_assoc, List.singleton_append]

private theorem toDigitsCore_fuel (n f₁ f₂ : Nat) (ds : List Char) (h₁ : n < f₁) (h₂ : n < f₂) :
    Nat.toDigitsCore 10 f₁ n ds = Nat.toDigitsCore 10 f₂ n ds := by
  induction f₁ generalizing f₂ n ds with
  | zero => omega
  | succ f₁ ih =>
    obtain ⟨f₂, rfl⟩ : ∃ f, f₂ = f + 1 := ⟨f₂ - 1, by omega⟩
    simp only [Nat.toDigitsCore]
    split
    · rfl
    · exact ih _ _ _ (by omega) (by omega)

/-- The last digit of `Nat.toDigits 10 n` is `n % 10`, after the digits of `n / 10`. -/
theorem toDigits_ten (n : Nat) :
    Nat.toDigits 10 n =
      if n < 10 then [Nat.digitChar n] else Nat.toDigits 10 (n / 10) ++ [Nat.digitChar (n % 10)] := by
  rw [Nat.toDigits, Nat.toDigitsCore]
  split
  · rw [if_pos (by omega), Nat.mod_eq_of_lt (by omega)]
  · rw [if_neg (by omega), Nat.toDigits, toDigitsCore_append _ _ _ (by omega),
      toDigitsCore_fuel (n / 10) n (n / 10 + 1) [] (by omega) (by omega)]

theorem digitsValue_append_digit (ds : List Char) (c : Char) :
    digitsValue (ds ++ [c]) = 10 * digitsValue ds + (c.toNat - '0'.toNat) := by
  simp [digitsValue, List.foldl_append]

/-- `Nat.toDigits 10 n` is a nonempty run of digits whose value is `n`. -/
theorem toDigits_spec (n : Nat) :
    Nat.toDigits 10 n ≠ [] ∧ (∀ c ∈ Nat.toDigits 10 n, c.isDigit) ∧
      digitsValue (Nat.toDigits 10 n) = n := by
  induction n using Nat.strongRecOn with
  | ind n ih =>
    rw [toDigits_ten]
    split
    · obtain ⟨hd, hv⟩ := digitChar_spec (by omega : n < 10)
      refine ⟨by simp, by simpa using hd, ?_⟩
      simpa [digitsValue] using hv
    · obtain ⟨-, hall, hv⟩ := ih (n / 10) (by omega)
      obtain ⟨hd, hdv⟩ := digitChar_spec (Nat.mod_lt n (by omega : 10 > 0))
      refine ⟨by simp, ?_, ?_⟩
      · simp only [List.mem_append, List.mem_singleton]
        rintro c (hc | rfl)
        exacts [hall c hc, hd]
      · rw [digitsValue_append_digit, hv, hdv]
        omega

/-! ### Round trip -/

/-- `stol` reads the digits that follow the white space and the sign. -/
private theorem stol_of_split (str : String) {negative : Bool} {ds : List Char}
    (hsplit : splitSign (str.data.dropWhile isSpace) = (negative, ds)) (hne : ds ≠ [])
    (hd : ∀ c ∈ ds, c.isDigit) :
    stol str = if (if negative then -(digitsValue ds : Int) else digitsValue ds) < longMin ∨
        longMax < (if negative then -(digitsValue ds : Int) else digitsValue ds) then .error .outOfRange
      else .ok (if negative then -(digitsValue ds : Int) else digitsValue ds) := by
  simp only [stol, hsplit, List.takeWhile_eq_self_iff.mpr hd, if_neg hne]

/-- A digit is neither white space nor a sign. -/
theorem isSpace_of_isDigit {c : Char} (hc : c.isDigit) :
    isSpace c = false ∧ c ≠ '-' ∧ c ≠ '+' := by
  simp only [isSpace, Bool.or_eq_false_iff, decide_eq_false_iff_not]
  refine ⟨⟨⟨⟨⟨⟨?_, ?_⟩, ?_⟩, ?_⟩, ?_⟩, ?_⟩, ?_, ?_⟩ <;> rintro rfl <;> exact absurd hc (by decide)

/-- A nonempty run of digits is not touched by the white space and sign scan. -/
theorem splitSign_digits {ds : List Char} (hne : ds ≠ []) (hd : ∀ c ∈ ds, c.isDigit) :
    splitSign (ds.dropWhile isSpace) = (false, ds) := by
  obtain ⟨c, cs, rfl⟩ := List.exists_cons_of_ne_nil hne
  obtain ⟨hsp, hm, hp⟩ := isSpace_of_isDigit (hd c (List.mem_cons_self c cs))
  rw [List.dropWhile_cons_of_neg (by simp [hsp])]
  unfold splitSign
  split <;> simp_all

/-- What `std::stol` returns is a `long`. -/
theorem stol_ok_range {str : String} {v : Int} (h : stol str = .ok v) : longMin ≤ v ∧ v ≤ longMax := by
  simp only [stol] at h
  split_ifs at h <;> cases h <;> omega

/-- `std::stol` on what `std::to_string` wrote: the value when it is a `long`,
`std::out_of_range` otherwise. -/
theorem stol_toString_eq (v : Int) :
    stol (toString v) = if v < longMin ∨ longMax < v then .error .outOfRange else .ok v := by
  rcases v with m | m
  · obtain ⟨hne, hd, hv⟩ := toDigits_spec m
    have := stol_of_split ⟨Nat.toDigits 10 m⟩ (splitSign_digits hne hd) hne hd
    simpa only [hv, Bool.false_eq_true, ite_false, Int.ofNat_eq_coe] using this
  · obtain ⟨hne, hd, hv⟩ := toDigits_spec (m + 1)
    have hsplit : splitSign ((['-'] ++ Nat.toDigits 10 (m + 1)).dropWhile isSpace) =
        (true, Nat.toDigits 10 (m + 1)) := rfl
    have := stol_of_split ⟨['-'] ++ Nat.toDigits 10 (m + 1)⟩ hsplit hne hd
    simpa only [hv, ite_true, Int.negSucc_coe] using this

/-- Reading back what `std::to_string` wrote gives the value, for every `long`. -/
theorem stol_toString {v : Int} (hlo : longMin ≤ v) (hhi : v ≤ longMax) :
    stol (toString v) = .ok v := by
  rw [stol_toString_eq, if_neg (by omega)]

/-! ### C++ `int` -/

/-- A C++ `int`: 32-bit two's complement, its range carried with the value. -/
structure CInt where
  val : Int
  le_val : -2 ^ 31 ≤ val
  val_lt : val < 2 ^ 31
  deriving DecidableEq

/-- Assignment of a `long` to an `int`: the value modulo `2^32`, in range. -/
def CInt.ofLong (v : Int) : CInt :=
  ⟨v.bmod (2 ^ 32), by have := @Int.le_bmod v (2 ^ 32) (by norm_num); omega,
    by have := @Int.bmod_lt v (2 ^ 32) (by norm_num); omega⟩

/-- An `int` literal: the `long` it is, assigned to an `int`. -/
instance : OfNat CInt n := ⟨CInt.ofLong n⟩

@[simp] theorem CInt.val_ofNat {n : Nat} (h : n < 2 ^ 31) : (no_index (OfNat.ofNat n : CInt)).val = n := by
  show (CInt.ofLong n).val = n
  simp only [CInt.ofLong, Int.bmod]
  split <;> omega

@[simp] theorem CInt.ofLong_val (c : CInt) : CInt.ofLong c.val = c := by
  obtain ⟨v, h₁, h₂⟩ := c
  simp only [CInt.ofLong, CInt.mk.injEq, Int.bmod]
  split <;> omega

theorem CInt.long_range (c : CInt) : longMin ≤ c.val ∧ c.val ≤ longMax := by
  have := c.le_val; have := c.val_lt
  constructor <;> simp only [longMin, longMax] <;> omega

end Communicatord
