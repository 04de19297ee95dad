import Mathlib.Data.List.DropRight
import Rowbind.Template.Token

/-!
# How a text divides into tokens

The steps of `tokens` as equations, one for each kind of token, and the law that lets a text be cut:
a character that **stands alone** is one literal token wherever it stands, so the tokens of a text
around it are the tokens of the two parts with the character between them
(`tokens_append_cons`). Parentheses and commas stand alone, which is what makes a group of values a
piece of its template's reading as well as of its text.

The cut is made by the reader's own steps: a run of blanks ends before such a character, two colons
do not straddle it, and no name or ordinal goes on over it (`occurrence?_append_cons`).
-/

namespace Rowbind

open Text

/-! ## Names and ordinals -/

/-- A name may go on with whatever it may begin with. -/
theorem continuesName_of_beginsName {c : Char} (h : beginsName c = true) :
    continuesName c = true := by
  simp only [beginsName, Bool.or_eq_true] at h
  simp only [continuesName, isAlphanumeric, Bool.or_eq_true]
  rcases h with h | h
  · exact .inl (.inl (.inl h))
  · exact .inl (.inr h)

/-- An ASCII digit goes on a name. -/
theorem continuesName_of_isDigit {c : Char} (h : c.isDigit = true) : continuesName c = true := by
  have hascii : c.toNat < 0x80 := by
    simp only [Char.isDigit, Bool.and_eq_true, decide_eq_true_eq, UInt32.le_iff_toNat_le] at h
    exact Nat.lt_of_le_of_lt h.2 (by decide)
  simp only [continuesName, isAlphanumeric, isNumeric, if_pos hascii, h, Bool.or_true,
    Bool.true_or]

/-- A run that ends before a character is not changed by what follows the character. -/
theorem takeWhile_append_cons {p : Char → Bool} {c : Char} (hc : p c = false)
    (pre post : List Char) : (pre ++ c :: post).takeWhile p = pre.takeWhile p := by
  induction pre with
  | nil => rw [List.nil_append, List.takeWhile_cons_of_neg (by rw [hc]; exact Bool.false_ne_true),
      List.takeWhile_nil]
  | cons a pre ih =>
    rw [List.cons_append, List.takeWhile_cons, List.takeWhile_cons, ih]

/-- What follows a run that ends before a character. -/
theorem dropWhile_append_cons {p : Char → Bool} {c : Char} (hc : p c = false)
    (pre post : List Char) : (pre ++ c :: post).dropWhile p = pre.dropWhile p ++ c :: post := by
  induction pre with
  | nil => rw [List.nil_append, List.dropWhile_cons_of_neg (by rw [hc]; exact Bool.false_ne_true),
      List.dropWhile_nil, List.nil_append]
  | cons a pre ih =>
    rw [List.cons_append, List.dropWhile_cons, List.dropWhile_cons, ih]
    split <;> rfl

/-- A run is dropped up to the character that ends it. -/
theorem dropWhile_run {p : Char → Bool} {run rest : List Char} (hrun : ∀ c ∈ run, p c = true)
    (hrest : rest.head?.any p = false) : (run ++ rest).dropWhile p = rest := by
  rw [List.dropWhile_append_of_pos hrun]
  cases rest with
  | nil => rfl
  | cons a rest => exact List.dropWhile_cons_of_neg (Bool.eq_false_iff.mp hrest)

/-- What follows a run does not go on it. -/
theorem head?_dropWhile_any (p : Char → Bool) (cs : List Char) :
    (cs.dropWhile p).head?.any p = false := by
  cases hhead : (cs.dropWhile p).head? with
  | none => rfl
  | some c =>
    have := List.head?_dropWhile_not p cs
    rw [hhead] at this
    simpa using this

/-- A name ends before a character that goes on no name. -/
theorem nameAt_append_cons {c : Char} (hc : continuesName c = false) (pre post : List Char) :
    nameAt (pre ++ c :: post) = nameAt pre := by
  have hb : beginsName c = false :=
    Bool.eq_false_iff.mpr fun h => Bool.eq_false_iff.mp hc (continuesName_of_beginsName h)
  have hhead : (pre ++ c :: post).head?.any beginsName = pre.head?.any beginsName := by
    cases pre with
    | nil => exact hb
    | cons a pre => rfl
  unfold nameAt
  rw [takeWhile_append_cons hc, hhead]

/-- An ordinal ends before a character that goes on no name. -/
theorem digitsAt_append_cons {c : Char} (hc : continuesName c = false) (pre post : List Char) :
    digitsAt (pre ++ c :: post) = digitsAt pre :=
  takeWhile_append_cons (Bool.eq_false_iff.mpr fun h =>
    Bool.eq_false_iff.mp hc (continuesName_of_isDigit h)) pre post

/-- The dots at a run's end are dropped as any trailing characters are. -/
theorem dropTrailingDots_eq (cs : List Char) : dropTrailingDots cs = cs.rdropWhile (· == '.') := rfl

/-- A name is the beginning of its text. -/
theorem nameAt_begins (cs : List Char) : nameAt cs <+: cs := by
  unfold nameAt
  split
  · rw [dropTrailingDots_eq]
    exact (List.rdropWhile_prefix _ _).trans (List.takeWhile_prefix _)
  · exact List.nil_prefix

/-! ## Occurrences -/

/-- A sign with a name after it takes both. -/
theorem signed?_eq_some {sign name : List Char} {o : Occurrence} (h : signed? sign name = some o) :
    name ≠ [] ∧ o = ⟨sign ++ name, name⟩ := by
  unfold signed? at h
  split at h
  · cases h
  · rename_i hn
    refine ⟨fun hnil => hn ?_, (Option.some.inj h).symm⟩
    rw [hnil]
    rfl

/-- The signs that placeholders begin with. -/
def signs : List Char := ['?', ':', '$', '@']

/-- No placeholder begins without a sign. -/
theorem occurrence?_of_not_sign {c : Char} (h : c ∉ signs) (reading : Convention)
    (cs : List Char) : occurrence? reading (c :: cs) = none := by
  unfold occurrence?
  split
  · rename_i heq; exact absurd ((List.cons.inj heq).1 ▸ by decide) h
  · rename_i heq; exact absurd ((List.cons.inj heq).1 ▸ by decide) h
  · rename_i heq; exact absurd ((List.cons.inj heq).1 ▸ by decide) h
  · rename_i heq; exact absurd ((List.cons.inj heq).1 ▸ by decide) h
  · rfl

/-- A sign is no blank. -/
theorem not_blank_of_mem_signs {c : Char} (h : c ∈ signs) : isBlank c = false := by
  simp only [signs, List.mem_cons, List.not_mem_nil, or_false] at h
  rcases h with rfl | rfl | rfl | rfl <;> decide

/-- A placeholder begins with a sign. -/
theorem mem_signs_of_occurrence? {reading : Convention} {c : Char} {cs : List Char}
    {o : Occurrence} (h : occurrence? reading (c :: cs) = some o) : c ∈ signs := by
  by_contra hc
  rw [occurrence?_of_not_sign hc] at h
  cases h

/-- An occurrence is the beginning of its text, and takes at least its sign. -/
theorem occurrence?_written {reading : Convention} {cs : List Char} {o : Occurrence}
    (h : occurrence? reading cs = some o) : o.written <+: cs ∧ o.written ≠ [] := by
  unfold occurrence? at h
  split at h
  · split at h
    · cases h
      exact ⟨⟨_, rfl⟩, List.cons_ne_nil _ _⟩
    · cases h
  · split at h
    · obtain ⟨_, rfl⟩ := signed?_eq_some h
      exact ⟨(List.cons_prefix_cons).mpr ⟨rfl, nameAt_begins _⟩, List.cons_ne_nil _ _⟩
    · cases h
  · split at h
    · obtain ⟨_, rfl⟩ := signed?_eq_some h
      exact ⟨(List.cons_prefix_cons).mpr ⟨rfl, List.takeWhile_prefix _⟩, List.cons_ne_nil _ _⟩
    · cases h
  · split at h
    · obtain ⟨_, rfl⟩ := signed?_eq_some h
      refine ⟨(List.cons_prefix_cons).mpr ⟨rfl, ?_⟩, List.cons_ne_nil _ _⟩
      exact (List.cons_prefix_cons).mpr ⟨rfl, List.takeWhile_prefix _⟩
    · cases h
  · cases h

/-- No more characters follow an occurrence's first one than its text has. -/
theorem length_written_le {reading : Convention} {c : Char} {cs : List Char} {o : Occurrence}
    (h : occurrence? reading (c :: cs) = some o) : o.written.length - 1 ≤ cs.length := by
  have := (occurrence?_written h).1.length_le
  rw [List.length_cons] at this
  omega

/-! ## Characters that stand alone -/

/-- **Whether a character stands alone**: it is no blank, begins no placeholder and goes on no
name. -/
def standsAlone (c : Char) : Bool :=
  !isBlank c && !continuesName c && !signs.contains c

theorem standsAlone_open : standsAlone '(' = true := by decide

theorem standsAlone_close : standsAlone ')' = true := by decide

theorem standsAlone_comma : standsAlone ',' = true := by decide

section StandsAlone

variable {c : Char} (h : standsAlone c = true)
include h

theorem standsAlone.not_blank : isBlank c = false := by
  simp only [standsAlone, Bool.and_eq_true, Bool.not_eq_true'] at h
  exact h.1.1

theorem standsAlone.not_continues : continuesName c = false := by
  simp only [standsAlone, Bool.and_eq_true, Bool.not_eq_true'] at h
  exact h.1.2

theorem standsAlone.not_sign : c ∉ signs := by
  simp only [standsAlone, Bool.and_eq_true, Bool.not_eq_true', List.contains_eq_mem,
    decide_eq_false_iff_not] at h
  exact h.2

/-- A character that stands alone is no colon. -/
theorem standsAlone.ne_colon : c ≠ ':' := by
  rintro rfl
  exact standsAlone.not_sign h (by decide)

/-- A character that stands alone is not the letter of an ordinal's sign. -/
theorem standsAlone.not_letter : ¬ (c = 'p' ∨ c = 'P') := by
  rintro (rfl | rfl) <;> exact absurd h (by decide)

/-- **No occurrence reaches over a character that stands alone.** -/
theorem occurrence?_append_cons (reading : Convention) (a : Char) (pre post : List Char) :
    occurrence? reading (a :: (pre ++ c :: post)) = occurrence? reading (a :: pre) := by
  have hname := nameAt_append_cons (standsAlone.not_continues h) pre post
  have hdigits := fun pre => digitsAt_append_cons (standsAlone.not_continues h) pre post
  by_cases ha : a ∈ signs
  · simp only [signs, List.mem_cons, List.not_mem_nil, or_false] at ha
    rcases ha with rfl | rfl | rfl | rfl
    · rfl
    · simp only [occurrence?, hname]
    · simp only [occurrence?, hdigits]
    · cases pre with
      | nil => simp [occurrence?, standsAlone.not_letter h]
      | cons p pre => simp only [List.cons_append, occurrence?, hdigits]
  · rw [occurrence?_of_not_sign ha, occurrence?_of_not_sign ha]

end StandsAlone

namespace Template

/-! ## The steps of a reading -/

section Steps

variable (reading : Convention) {c : Char} {cs : List Char}

theorem tokens_nil : tokens reading [] = [] := by
  unfold tokens
  rfl

/-- A run of blanks is one space. -/
theorem tokens_blank (h : isBlank c = true) :
    tokens reading (c :: cs) = .literal ' ' :: tokens reading (cs.dropWhile isBlank) := by
  rw [tokens, if_pos h]

/-- Two colons are one. -/
theorem tokens_escape (h : reading.readsColon = true) :
    tokens reading (':' :: ':' :: cs) = .literal ':' :: tokens reading cs := by
  rw [tokens, if_neg (by decide), if_pos (by rw [h]; rfl)]
  rfl

/-- Whether a text begins with two colons that stand for one. -/
def escapes (reading : Convention) (cs : List Char) : Bool :=
  reading.readsColon && cs.head? == some ':' && (cs.drop 1).head? == some ':'

/-- A text does not begin with two colons when it begins with another character. -/
theorem escapes_of_ne (h : c ≠ ':') (cs : List Char) : escapes reading (c :: cs) = false := by
  have hne : (some c == some ':') = false := by simpa using h
  simp only [escapes, List.head?_cons, hne, Bool.and_false, Bool.false_and]

/-- A text that begins with two colons. -/
theorem eq_colons_of_escapes {reading : Convention} {cs : List Char}
    (h : escapes reading cs = true) :
    reading.readsColon = true ∧ ∃ rest, cs = ':' :: ':' :: rest := by
  match cs, h with
  | [], h => simp [escapes] at h
  | [c], h => simp [escapes] at h
  | c :: c' :: rest, h =>
    simp only [escapes, Bool.and_eq_true, beq_iff_eq, List.head?_cons, List.drop_one,
      List.tail_cons, Option.some.injEq] at h
    obtain ⟨⟨hreads, rfl⟩, rfl⟩ := h
    exact ⟨hreads, rest, rfl⟩

/-- A placeholder is read as its occurrence. -/
theorem tokens_occurrence {o : Occurrence} (hb : isBlank c = false)
    (he : escapes reading (c :: cs) = false) (ho : occurrence? reading (c :: cs) = some o) :
    tokens reading (c :: cs) =
      .placeholder o :: tokens reading (cs.drop (o.written.length - 1)) := by
  rw [tokens, if_neg (by rw [hb]; exact Bool.false_ne_true), if_neg, ho]
  rw [Bool.not_eq_true]
  exact he

/-- Any other character is read as itself. -/
theorem tokens_literal (hb : isBlank c = false) (he : escapes reading (c :: cs) = false)
    (ho : occurrence? reading (c :: cs) = none) :
    tokens reading (c :: cs) = .literal c :: tokens reading cs := by
  rw [tokens, if_neg (by rw [hb]; exact Bool.false_ne_true), if_neg, ho]
  rw [Bool.not_eq_true]
  exact he

/-- A character that stands alone is read as itself. -/
theorem tokens_standsAlone (h : standsAlone c = true) :
    tokens reading (c :: cs) = .literal c :: tokens reading cs := by
  exact tokens_literal reading (standsAlone.not_blank h)
    (escapes_of_ne reading (standsAlone.ne_colon h) cs)
    (occurrence?_of_not_sign (standsAlone.not_sign h) reading cs)

end Steps

/-! ## The occurrences of a text -/

section Occurrences

variable (reading : Convention)

/-- Blanks have no occurrences. -/
theorem occurrences_dropWhile (cs : List Char) :
    occurrences (tokens reading (cs.dropWhile isBlank)) = occurrences (tokens reading cs) := by
  cases cs with
  | nil => rfl
  | cons c cs =>
    by_cases hb : isBlank c = true
    · rw [List.dropWhile_cons_of_pos hb, tokens_blank _ hb]
      rfl
    · rw [List.dropWhile_cons_of_neg hb]

/-- A character that begins no occurrence is passed over. -/
theorem occurrences_literal {c : Char} {cs : List Char} (he : escapes reading (c :: cs) = false)
    (ho : occurrence? reading (c :: cs) = none) :
    occurrences (tokens reading (c :: cs)) = occurrences (tokens reading cs) := by
  by_cases hb : isBlank c = true
  · rw [← occurrences_dropWhile reading (c :: cs), List.dropWhile_cons_of_pos hb,
      occurrences_dropWhile]
  · rw [tokens_literal _ (Bool.not_eq_true _ ▸ hb) he ho]
    rfl

/-- A character that is no sign is passed over. -/
theorem occurrences_of_not_sign {c : Char} (h : c ∉ signs) (cs : List Char) :
    occurrences (tokens reading (c :: cs)) = occurrences (tokens reading cs) := by
  refine occurrences_literal reading (escapes_of_ne _ ?_ cs) (occurrence?_of_not_sign h _ cs)
  rintro rfl
  exact h (by decide)

/-- A run without signs is passed over. -/
theorem occurrences_append_of_not_sign {run : List Char} (h : ∀ c ∈ run, c ∉ signs)
    (cs : List Char) :
    occurrences (tokens reading (run ++ cs)) = occurrences (tokens reading cs) := by
  induction run with
  | nil => rfl
  | cons c run ih =>
    rw [List.cons_append, occurrences_of_not_sign reading (h c List.mem_cons_self),
      ih fun a ha => h a (List.mem_cons_of_mem _ ha)]

end Occurrences

/-! ## Dividing a text -/

/-- Two colons do not straddle a character that stands alone. -/
theorem escapes_append_cons {c : Char} (h : standsAlone c = true) {reading : Convention} {a : Char}
    {pre : List Char} (he : escapes reading (a :: pre) = false) (post : List Char) :
    escapes reading (a :: (pre ++ c :: post)) = false := by
  cases pre with
  | nil => simpa [escapes] using fun _ _ => standsAlone.ne_colon h
  | cons p pre => exact he

/-- **A text divides at a character that stands alone.** The induction follows the reading of the
text before it: each step takes the same characters with the rest behind them as without. -/
theorem tokens_append_cons {c : Char} (h : standsAlone c = true) (reading : Convention)
    (pre post : List Char) :
    tokens reading (pre ++ c :: post) =
      tokens reading pre ++ .literal c :: tokens reading post := by
  induction pre using tokens.induct reading with
  | case1 => rw [List.nil_append, tokens_nil, List.nil_append, tokens_standsAlone reading h]
  | case2 a pre hb ih =>
    rw [List.cons_append, tokens_blank reading hb, tokens_blank reading hb,
      dropWhile_append_cons (standsAlone.not_blank h), ih, List.cons_append]
  | case3 a pre hb he ih =>
    have he : escapes reading (a :: pre) = true := he
    obtain ⟨hr, rest, heq⟩ := eq_colons_of_escapes he
    obtain ⟨rfl, rfl⟩ := List.cons.inj heq
    rw [List.cons_append, List.cons_append, tokens_escape reading hr, tokens_escape reading hr,
      List.cons_append]
    exact congrArg _ ih
  | case4 a pre hb he o ho ih =>
    have hb : isBlank a = false := Bool.not_eq_true _ ▸ hb
    have hlen := length_written_le ho
    have ho' := (occurrence?_append_cons h reading a pre post).trans ho
    rw [List.cons_append, tokens_occurrence reading hb (Bool.not_eq_true _ ▸ he) ho,
      tokens_occurrence reading hb (escapes_append_cons h (Bool.not_eq_true _ ▸ he) post) ho',
      List.cons_append, List.drop_append_of_le_length hlen, ih]
  | case5 a pre hb he ho ih =>
    have hb : isBlank a = false := Bool.not_eq_true _ ▸ hb
    have ho' := (occurrence?_append_cons h reading a pre post).trans ho
    rw [List.cons_append, tokens_literal reading hb (Bool.not_eq_true _ ▸ he) ho,
      tokens_literal reading hb (escapes_append_cons h (Bool.not_eq_true _ ▸ he) post) ho',
      List.cons_append, ih]

end Template

end Rowbind
