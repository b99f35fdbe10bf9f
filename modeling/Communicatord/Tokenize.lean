import Mathlib.Data.List.Basic
/-
The `snapdev` string helpers that the flag and cache codecs go through.

`save()` writes the tag set as `snapdev::join_strings(tags, ",")`; the loading
constructor reads it back with `snapdev::tokenize_string`, which splits at
`,`, trims blanks and drops empty pieces.  `cache_message` splits its `cache`
parameter at `;` with the same function.

* `tokenizeString_joinStrings` — tokenizing joined tokens gives them back when
  no token is empty, holds the delimiter, or starts or ends with a trimmed
  character (`Token`);
* `token_of_mem_tokenizeString` — every piece that `tokenize_string` keeps
  when it drops the empty ones is such a token.

Design notes: `snapdev` is a library outside this repository; its two
functions are modelled from what they are documented to do.
-/

namespace Communicatord

/-- Drop the characters of `trim` at both ends. -/
def trimChars (trim : List Char) (s : List Char) : List Char :=
  ((s.dropWhile (· ∈ trim)).reverse.dropWhile (· ∈ trim)).reverse

/-- `snapdev::tokenize_string(tokens, str, delimiters, remove_empty, trim_string)`:
the pieces of `str` between delimiters, trimmed, without the empty ones when
`remove_empty`. -/
def tokenizeString (str : String) (delimiters : List Char) (removeEmpty : Bool)
    (trimString : List Char) : List String :=
  let pieces := (str.data.splitOnP (· ∈ delimiters)).map fun p => String.mk (trimChars trimString p)
  if removeEmpty then pieces.filter (· ≠ "") else pieces

/-- `snapdev::join_strings(tokens, separator)`: the tokens, in order, with the
separator between two neighbours. -/
def joinStrings (tokens : List String) (separator : String) : String :=
  match tokens with
  | [] => ""
  | [t] => t
  | t :: ts => t ++ separator ++ joinStrings ts separator

/-- A token that `tokenize_string` keeps as it is: non-empty, without a
delimiter, and neither starting nor ending with a trimmed character. -/
structure Token (delimiters trim : List Char) (t : String) : Prop where
  ne_empty : t ≠ ""
  no_delimiter : ∀ c ∈ t.data, c ∉ delimiters
  head_not_trim : ∀ c ∈ t.data.head?, c ∉ trim
  last_not_trim : ∀ c ∈ t.data.getLast?, c ∉ trim

theorem trimChars_of_ends {trim s : List Char} (hh : ∀ c ∈ s.head?, c ∉ trim)
    (hl : ∀ c ∈ s.getLast?, c ∉ trim) : trimChars trim s = s := by
  cases s with
  | nil => rfl
  | cons c cs =>
    have hc : c ∉ trim := hh c rfl
    obtain ⟨last, init, heq⟩ : ∃ last init, (c :: cs).reverse = last :: init :=
      List.exists_cons_of_ne_nil (by simp)
    have hlast : last ∉ trim := hl last (by
      rw [List.getLast?_eq_head?_reverse, heq]; rfl)
    rw [trimChars, List.dropWhile_cons_of_neg (by simpa using hc), heq,
      List.dropWhile_cons_of_neg (by simpa using hlast), ← heq, List.reverse_reverse]

/-- Splitting joined tokens at the separator gives the tokens back. -/
theorem splitOnP_joinStrings (d : Char) {ts : List String} (hne : ts ≠ [])
    (hd : ∀ t ∈ ts, ∀ c ∈ t.data, c ∉ [d]) :
    (joinStrings ts ⟨[d]⟩).data.splitOnP (· ∈ [d]) = ts.map String.data := by
  induction ts with
  | nil => exact absurd rfl hne
  | cons t ts ih =>
    have ht : ∀ c ∈ t.data, ¬decide (c ∈ [d]) := by
      simpa using hd t (List.mem_cons_self t ts)
    cases ts with
    | nil => exact List.splitOnP_eq_single _ _ ht
    | cons t' ts =>
      have hrest := ih (List.cons_ne_nil t' ts) fun u hu => hd u (List.mem_cons_of_mem t hu)
      have hjoin : (joinStrings (t :: t' :: ts) ⟨[d]⟩).data =
          t.data ++ d :: (joinStrings (t' :: ts) ⟨[d]⟩).data := by simp [joinStrings]
      rw [hjoin, List.splitOnP_first _ _ ht d (by simp), hrest]
      rfl

/-- Tokenizing joined tokens gives them back. -/
theorem tokenizeString_joinStrings (d : Char) (trim : List Char) {ts : List String}
    (hts : ∀ t ∈ ts, Token [d] trim t) :
    tokenizeString (joinStrings ts ⟨[d]⟩) [d] true trim = ts := by
  by_cases hne : ts = []
  · subst hne; rfl
  · simp only [tokenizeString, if_true]
    have hmap : ts.map ((fun p => String.mk (trimChars trim p)) ∘ String.data) = ts := by
      conv_rhs => rw [← List.map_id ts]
      refine List.map_congr_left fun t ht => ?_
      simp only [Function.comp_apply, id_eq,
        trimChars_of_ends (hts t ht).head_not_trim (hts t ht).last_not_trim]
    rw [splitOnP_joinStrings d hne fun t ht => (hts t ht).no_delimiter, List.map_map, hmap,
      List.filter_eq_self]
    exact fun t ht => by simpa using (hts t ht).ne_empty

/-- No piece of `splitOnP p` holds an element satisfying `p`. -/
theorem not_of_mem_splitOnP {α : Type} {p : α → Bool} {l piece : List α}
    (hp : piece ∈ l.splitOnP p) : ∀ x ∈ piece, ¬p x := by
  induction l generalizing piece with
  | nil =>
    rw [List.splitOnP_nil, List.mem_singleton] at hp
    subst hp
    simp
  | cons a l ih =>
    rw [List.splitOnP_cons] at hp
    split at hp
    · rcases List.mem_cons.1 hp with rfl | hp
      exacts [by simp, ih hp]
    · rename_i ha
      obtain ⟨q, qs, hq⟩ := List.exists_cons_of_ne_nil (List.splitOnP_ne_nil p l)
      rw [hq, List.modifyHead_cons] at hp
      rcases List.mem_cons.1 hp with rfl | hp
      · rintro x (_ | ⟨_, hx⟩)
        exacts [ha, ih (hq ▸ List.mem_cons_self q qs) x hx]
      · exact ih (hq ▸ List.mem_cons_of_mem q hp)

theorem trimChars_subset (trim s : List Char) : trimChars trim s ⊆ s := fun _ hc =>
  List.dropWhile_subset _ (List.mem_reverse.1 (List.dropWhile_subset _ (List.mem_reverse.1 hc)))

/-- Trimming leaves no trimmed character at either end. -/
theorem trimChars_head (trim s : List Char) : ∀ c ∈ (trimChars trim s).head?, c ∉ trim := by
  intro c hc
  rw [trimChars, List.head?_reverse] at hc
  have hne : (s.dropWhile (· ∈ trim)).reverse.dropWhile (· ∈ trim) ≠ [] := by
    rintro h; rw [h] at hc; cases hc
  have hsuf := List.dropWhile_suffix (l := (s.dropWhile (· ∈ trim)).reverse) (· ∈ trim)
  rw [List.getLast?_eq_getLast _ hne, Option.mem_def, Option.some.injEq, hsuf.getLast hne,
    List.getLast_reverse] at hc
  subst hc
  simpa using List.head_dropWhile_not (· ∈ trim) s _

theorem trimChars_getLast (trim s : List Char) : ∀ c ∈ (trimChars trim s).getLast?, c ∉ trim := by
  intro c hc
  rw [trimChars, List.getLast?_reverse] at hc
  have hne : (s.dropWhile (· ∈ trim)).reverse.dropWhile (· ∈ trim) ≠ [] := by
    rintro h; rw [h] at hc; cases hc
  rw [List.head?_eq_head hne, Option.mem_def, Option.some.injEq] at hc
  subst hc
  simpa using List.head_dropWhile_not (· ∈ trim) _ hne

/-- Every piece `tokenize_string` keeps, empty pieces removed, is a `Token`:
tokenizing what it returned, joined, gives it back. -/
theorem token_of_mem_tokenizeString {s : String} {delimiters trim : List Char} {t : String}
    (ht : t ∈ tokenizeString s delimiters true trim) : Token delimiters trim t := by
  simp only [tokenizeString, if_true, List.mem_filter, List.mem_map, decide_eq_true_eq] at ht
  obtain ⟨⟨p, hp, rfl⟩, hne⟩ := ht
  exact ⟨hne, fun c hc => by simpa using not_of_mem_splitOnP hp c (trimChars_subset trim p hc),
    trimChars_head trim p, trimChars_getLast trim p⟩

end Communicatord
