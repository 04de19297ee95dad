import Rowbind.Proofs.Template.Layout
import Rowbind.Proofs.Template.Wording

/-!
# Reading a rendering again

A positional template is read and written in one and the same form, so what is written can be read
again by the same rules. In every dialect but the named one a literal stays a literal: a sign that
begins no placeholder in the template has the same character behind it where it is written, and
every placeholder begins with a sign of its own. So a rendering is read as its placeholders, one by
one (`occurrences_write`), and they are as many as were written (`renderPositional_counted`).

A numbered placeholder is read with every digit behind it (`Dialect.overrun`), since nothing tells
the digits of its ordinal from those of the text.
-/

namespace Rowbind

open Text

/-- **The digits behind a placeholder that are read as part of it.** -/
def Dialect.overrun (d : Dialect) (rest : List Char) : List Char :=
  if d.isNumbered then digitsAt rest else []

/-- **A placeholder as it is read again**, with what it takes of the text behind it. -/
def Dialect.reread (d : Dialect) (ordinal : Nat) (name overrun : List Char) : Occurrence where
  written := d.placeholder ordinal name ++ overrun
  name := d.placeholderName ordinal name ++ overrun

/-- What a placeholder takes are digits. -/
theorem Dialect.isDigit_of_mem_overrun (d : Dialect) {rest : List Char} {c : Char}
    (hc : c ∈ d.overrun rest) : c.isDigit = true := by
  unfold overrun at hc
  split at hc
  · exact List.mem_takeWhile_imp hc
  · exact absurd hc List.not_mem_nil

/-- Before anything but a digit a placeholder takes nothing. -/
theorem Dialect.overrun_cons (d : Dialect) {c : Char} (hc : c.isDigit = false) (rest : List Char) :
    d.overrun (c :: rest) = [] := by
  unfold overrun
  split
  · exact List.takeWhile_cons_of_neg (Bool.eq_false_iff.mp hc)
  · rfl

/-- An ordinal is read with the digits behind it. -/
theorem digitsAt_toDigits (ordinal : Nat) (rest : List Char) :
    digitsAt (Nat.toDigits 10 ordinal ++ rest) = Nat.toDigits 10 ordinal ++ digitsAt rest :=
  List.takeWhile_append_of_pos fun _ hc =>
    Nat.isDigit_of_mem_toDigits (by decide) (by decide) hc

/-- **A placeholder is read again with its overrun.** -/
theorem occurrence?_reread {d : Dialect} (hd : d ≠ .named) (ordinal : Nat) (name rest : List Char) :
    occurrence? (.positional d) (d.placeholder ordinal name ++ rest) =
      some (d.reread ordinal name (d.overrun rest)) := by
  have hne : Nat.toDigits 10 ordinal ++ digitsAt rest ≠ [] :=
    List.append_ne_nil_of_left_ne_nil Nat.toDigits_ne_nil _
  cases d with
  | question => rfl
  | unknown => rfl
  | dollar =>
    simp only [Dialect.placeholder, List.cons_append, occurrence?, if_true, digitsAt_toDigits]
    exact signed?_of_ne_nil hne
  | atSign =>
    simp only [Dialect.placeholder, List.cons_append, occurrence?, true_and, true_or, if_true,
      digitsAt_toDigits]
    exact signed?_of_ne_nil hne
  | named => exact absurd rfl hd

namespace Template

/-! ## Rows, read again -/

/-- **A row of placeholders as it is read again**: the last one has the overrun. -/
def rereadRow (d : Dialect) (name overrun : List Char) (first : Nat) : Nat → List Occurrence
  | 0 => []
  | 1 => [d.reread first name overrun]
  | count + 1 => d.reread first name [] :: rereadRow d name overrun (first + 1) count

/-- **What the placeholders of a rendering are read as**, in order: `k` is the position of the next
occurrence, and `written` the number of placeholders before it. -/
def reread (d : Dialect) (repeats : Repeats) (k written : Nat) : List Token → List Occurrence
  | [] => []
  | .literal _ :: ts => reread d repeats k written ts
  | .placeholder o :: ts =>
    rereadRow d o.name (d.overrun (write d repeats (k + 1) (written + repeats k) ts))
        (written + 1) (repeats k) ++
      reread d repeats (k + 1) (written + repeats k) ts

theorem length_rereadRow (d : Dialect) (name overrun : List Char) (first count : Nat) :
    (rereadRow d name overrun first count).length = count := by
  induction first, count using rereadRow.induct with
  | case1 first => rfl
  | case2 first => rfl
  | case3 first count hcount ih =>
    rw [rereadRow, List.length_cons, ih]
    exact hcount

/-- As many placeholders are read again as were written. -/
theorem length_reread (d : Dialect) (repeats : Repeats) (k w : Nat) (ts : List Token) :
    (reread d repeats k w ts).length = total repeats k (occurrences ts) := by
  induction ts generalizing k w with
  | nil => rfl
  | cons t ts ih =>
    cases t with
    | literal c => exact ih k w
    | placeholder o =>
      rw [reread, List.length_append, length_rereadRow, ih]
      rfl

section Positional

variable {d : Dialect} (hd : d ≠ .named)
include hd

theorem readsColon_positional : (Convention.positional d).readsColon = false := by
  cases d with
  | named => exact absurd rfl hd
  | _ => rfl

/-- A placeholder is the first occurrence of a text that begins with it. -/
theorem occurrences_placeholder (ordinal : Nat) (name rest : List Char) :
    occurrences (tokens (.positional d) (d.placeholder ordinal name ++ rest)) =
      d.reread ordinal name (d.overrun rest) :: occurrences (tokens (.positional d) rest) := by
  obtain ⟨after, hafter, hstands⟩ :=
    standsBefore_of_occurrence? (occurrence?_reread hd ordinal name rest)
  have hrest : rest = d.overrun rest ++ after := by
    rw [Dialect.reread, List.append_assoc] at hafter
    exact List.append_cancel_left hafter
  have hnoSign : ∀ c ∈ d.overrun rest, c ∉ signs := by
    intro c hc hsign
    have hcontinues := continuesName_of_isDigit (d.isDigit_of_mem_overrun hc)
    rw [not_continues_of_mem_signs hsign] at hcontinues
    cases hcontinues
  have hbehind : occurrences (tokens (.positional d) rest) =
      occurrences (tokens (.positional d) after) := by
    conv_lhs => rw [hrest]
    exact occurrences_append_of_not_sign _ hnoSign after
  rw [hafter, hstands.tokens, occurrences, hbehind]

/-- A row of placeholders is read again as one after another. -/
theorem occurrences_row (name rest : List Char) (first count : Nat) :
    occurrences (tokens (.positional d) (placeholderRow d name first count ++ rest)) =
      rereadRow d name (d.overrun rest) first count ++
        occurrences (tokens (.positional d) rest) := by
  induction first, count using placeholderRow.induct with
  | case1 first => rfl
  | case2 first => exact occurrences_placeholder hd first name rest
  | case3 first count hcount ih =>
    rw [placeholderRow, rereadRow]
    · rw [List.append_assoc, List.cons_append, occurrences_placeholder hd,
        d.overrun_cons (by decide), occurrences_of_not_sign _ (by decide), ih, List.cons_append]
    · exact hcount
    · exact hcount

end Positional

/-! ## Literals, read again -/

section Write

variable {d : Dialect} {reading : Convention} {repeats : Repeats} {k w : Nat} {cs : List Char}
  {ts : List Token}

/-- **The digits at the head of a text are written as they are**, and no others before them. The
induction is on the division of the text. -/
theorem Divides.digitsAt_write (h : Divides reading cs ts)
    (hnone : firstEmpty? repeats k (occurrences ts) = none) :
    digitsAt (write d repeats k w ts) = digitsAt cs := by
  have hother : ∀ {c : Char} {cs : List Char}, continuesName c = false → digitsAt (c :: cs) = [] :=
    fun hc => List.takeWhile_cons_of_neg (Bool.eq_false_iff.mp
      (Bool.eq_false_iff.mpr fun hdigit =>
        Bool.eq_false_iff.mp hc (continuesName_of_isDigit hdigit)))
  induction h with
  | done => rfl
  | @blanks run rest ts hne hrun hrest h ih =>
    obtain ⟨c, run, rfl⟩ := List.exists_cons_of_ne_nil hne
    have hc : continuesName c = false := by
      rw [Bool.eq_false_iff]
      intro hcontinues
      exact Bool.eq_false_iff.mp (not_blank_of_continuesName hcontinues)
        (hrun c List.mem_cons_self)
    rw [write, List.cons_append, hother hc, hother (by decide)]
  | colons hreads h ih => rw [write, hother (by decide), hother (by decide)]
  | @placeholder o rest ts ho h ih =>
    obtain ⟨sign, tail, hrow, hsign⟩ :=
      placeholderRow_sign d o.name (w + 1) (firstEmpty?_cons_eq_none.mp hnone).1
    have hocc := ho.occurrence?
    obtain ⟨c, written, hwritten⟩ := List.exists_cons_of_ne_nil (occurrence?_written hocc).2
    rw [hwritten, List.cons_append] at hocc ⊢
    rw [write, hrow, List.cons_append,
      hother (not_continues_of_mem_signs hsign),
      hother (not_continues_of_mem_signs (mem_signs_of_occurrence? hocc))]
  | @literal c rest ts hblank hcolons hstands h ih =>
    have hrest := ih hnone
    rw [digitsAt] at hrest ⊢
    rw [write, digitsAt, List.takeWhile_cons, List.takeWhile_cons]
    split
    · exact congrArg (c :: ·) hrest
    · rfl

/-- An at sign begins no occurrence where it is written when it begins none in the text: the letter
of an ordinal's sign is written for itself alone. -/
theorem Divides.occurrence?_at_write (h : Divides reading cs ts)
    (hnone : firstEmpty? repeats k (occurrences ts) = none)
    (hc : occurrence? reading ('@' :: cs) = none) :
    occurrence? reading ('@' :: write d repeats k w ts) = none := by
  have hother : ∀ a tail, a ≠ 'p' → a ≠ 'P' → occurrence? reading ('@' :: a :: tail) = none :=
    fun a tail hp hP => if_neg fun hletter => hletter.2.elim hp hP
  cases h with
  | done => rfl
  | blanks hne hrun hrest h => exact hother ' ' _ (by decide) (by decide)
  | colons hreads h => exact hother ':' _ (by decide) (by decide)
  | @placeholder o rest ts ho h =>
    obtain ⟨sign, tail, hrow, hsign⟩ :=
      placeholderRow_sign d o.name (w + 1) (firstEmpty?_cons_eq_none.mp hnone).1
    rw [write, hrow]
    refine hother sign _ ?_ ?_ <;> (rintro rfl; exact absurd hsign (by decide))
  | @literal a rest ts hblank hcolons hstands h =>
    rw [occurrence?] at hc
    rw [write, occurrence?, h.digitsAt_write hnone]
    exact hc

/-- **A character that begins no occurrence begins none where it is written.** -/
theorem Divides.occurrence?_write (hd : d ≠ .named) (h : Divides (.positional d) cs ts)
    (hnone : firstEmpty? repeats k (occurrences ts) = none) {c : Char}
    (hc : occurrence? (.positional d) (c :: cs) = none) :
    occurrence? (.positional d) (c :: write d repeats k w ts) = none := by
  by_cases hsign : c ∈ signs
  · simp only [signs, List.mem_cons, List.not_mem_nil, or_false] at hsign
    rcases hsign with rfl | rfl | rfl | rfl
    · cases hc
    · rw [occurrence?, readsColon_positional hd, if_neg Bool.false_ne_true]
    · rw [occurrence?] at hc ⊢
      rw [h.digitsAt_write hnone]
      exact hc
    · exact h.occurrence?_at_write hnone hc
  · exact occurrence?_of_not_sign hsign _ _

/-- **What is written is read again**, placeholder by placeholder. The induction is on the division
of the text. -/
theorem occurrences_write (hd : d ≠ .named) (h : Divides (.positional d) cs ts)
    (hnone : firstEmpty? repeats k (occurrences ts) = none) :
    occurrences (tokens (.positional d) (write d repeats k w ts)) = reread d repeats k w ts := by
  induction h generalizing k w with
  | done => rw [write, tokens_nil]; rfl
  | blanks hne hrun hrest h ih =>
    rw [write, occurrences_of_not_sign _ (by decide)]
    exact ih hnone
  | colons hreads h ih =>
    rw [readsColon_positional hd] at hreads
    cases hreads
  | placeholder ho h ih =>
    rw [write, occurrences_row hd, ih (firstEmpty?_cons_eq_none.mp hnone).2]
    rfl
  | @literal c rest ts hblank hcolons hstands h ih =>
    have hescapes : escapes (.positional d) (c :: write d repeats k w ts) = false := by
      rw [escapes, readsColon_positional hd, Bool.false_and, Bool.false_and]
    rw [write, occurrences_literal _ hescapes
      (h.occurrence?_write hd hnone (occurrence?_eq_none hstands))]
    exact ih hnone

end Write

/-- **As many placeholders are found as were written.** A positional template is rendered with a
name for each of its placeholders, and in every dialect but the named one the rendering has the
placeholders it says it has. -/
theorem renderPositional_counted {template : String} {d : Dialect} {repeats : Repeats}
    (h : ∀ k < (occurrences (tokens (.positional d) template.toList)).length, repeats k ≠ 0) :
    ∃ rendered, renderPositional template d repeats = .ok rendered ∧
      rendered.names.length = countPlaceholders template d ∧
      (d ≠ .named → countPlaceholders rendered.sql d = rendered.placeholders) := by
  have hnone := firstEmpty?_eq_none h
  refine ⟨_, render_of_written _ _ _ _ h, ?_, fun hd => ?_⟩
  · rw [List.length_map, countPlaceholders, countFrom_eq, placeholders, List.length_map]
  · rw [countPlaceholders, String.toList_ofList, countFrom_eq, placeholders, List.length_map,
      occurrences_write hd (divides_tokens _ _) hnone, length_reread]

/-- In a dialect that numbers its placeholders: an ordinal that becomes two, and a question mark
whose placeholder is read with the digit behind it, but as one. -/
theorem renderPositional_counted_of_two :
    let template := "a IN (@P7) AND b = ?5"
    let repeats := Repeats.ofArray #[2]
    (∀ k < (occurrences (tokens (.positional .atSign) template.toList)).length, repeats k ≠ 0) ∧
      ∃ rendered, renderPositional template .atSign repeats = .ok rendered ∧
        rendered.sql = "a IN (@p1,@p2) AND b = @p35" ∧ countPlaceholders template .atSign = 2 ∧
        countPlaceholders rendered.sql .atSign = 3 := by
  intro template repeats
  have hfilled : ∀ k < (occurrences (tokens (.positional .atSign) template.toList)).length,
      repeats k ≠ 0 := by
    intro k hk
    have hlength : (occurrences (tokens (.positional .atSign) template.toList)).length = 2 := by
      decide +kernel
    rcases (by omega : k = 0 ∨ k = 1) with rfl | rfl <;> decide
  obtain ⟨rendered, hrendered, hnames, hcount⟩ := renderPositional_counted hfilled
  have hvalue : renderPositional template .atSign repeats =
      .ok ⟨"a IN (@p1,@p2) AND b = @p35", ["7", ""], 3⟩ := by decide +kernel
  obtain rfl := Except.ok.inj (hrendered.symm.trans hvalue)
  exact ⟨hfilled, _, hrendered, rfl, hnames.symm, hcount (by decide)⟩

end Template

end Rowbind
