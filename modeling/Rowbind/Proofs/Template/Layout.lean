import Mathlib.Data.List.Chain
import Rowbind.Proofs.Template.Division
import Rowbind.Template.Rendering

/-!
# The layout of a rendering

Whatever a template's layout is, a rendering has none but single spaces (`folded_write`): the reader
folds every run of blanks into one space, what stands behind it is no blank, and no placeholder has
a blank in it.
-/

namespace Rowbind

open Text

/-! ## Blanks and names -/

namespace Text

/-- A code point in ascending runs is on one of them. -/
theorem exists_run_of_inRuns {rs : List CodeRun} {n : Nat} (h : inRuns rs n = true) :
    ∃ r ∈ rs, r.holds n = true := by
  induction rs with
  | nil => cases h
  | cons r rs ih =>
    unfold inRuns at h
    split at h
    · cases h
    · rcases Bool.or_eq_true_iff.mp h with hr | hrs
      · exact ⟨r, List.mem_cons_self, hr⟩
      · obtain ⟨r', hmem, hr'⟩ := ih hrs
        exact ⟨r', List.mem_cons_of_mem _ hmem, hr'⟩

/-- What is false of every code point on the blank runs is false of every blank. -/
theorem of_blank {p : Char → Bool}
    (h : ∀ r ∈ blankRuns, ∀ n ∈ List.range' r.first (r.last + 1 - r.first),
      p (Char.ofNat n) = false)
    {c : Char} (hc : isBlank c = true) : p c = false := by
  obtain ⟨r, hr, hholds⟩ := exists_run_of_inRuns hc
  simp only [CodeRun.holds, Bool.and_eq_true, decide_eq_true_eq] at hholds
  have hmem : c.toNat ∈ List.range' r.first (r.last + 1 - r.first) :=
    List.mem_range'_1.mpr ⟨hholds.1.1, by omega⟩
  have hnone := h r hr c.toNat hmem
  rwa [Char.ofNat_toNat] at hnone

end Text

/-- No name goes on with a blank. -/
theorem continuesName_of_blank {c : Char} (h : isBlank c = true) : continuesName c = false :=
  of_blank (by decide +kernel) h

theorem not_blank_of_continuesName {c : Char} (h : continuesName c = true) :
    isBlank c = false :=
  Bool.eq_false_iff.mpr fun hc => Bool.eq_false_iff.mp (continuesName_of_blank hc) h

namespace Template

/-- A placeholder's name has no blanks. -/
theorem StandsBefore.not_blank {reading : Convention} {o : Occurrence} {rest : List Char}
    (h : StandsBefore reading o rest) : ∀ c ∈ o.name, isBlank c = false := by
  intro c hc
  cases h with
  | question d rest => exact absurd hc List.not_mem_nil
  | parameter hreads h => exact not_blank_of_continuesName (h.continues c hc)
  | dollar h => exact not_blank_of_continuesName (continuesName_of_isDigit (h.isDigit c hc))
  | atSign hp h => exact not_blank_of_continuesName (continuesName_of_isDigit (h.isDigit c hc))

end Template

/-! ## Folded texts -/

/-- **Whether a text's only blanks are single spaces.** -/
structure Folded (cs : List Char) : Prop where
  spaces : ∀ c ∈ cs, isBlank c = true → c = ' '
  apart : cs.IsChain fun a b => ¬ (isBlank a = true ∧ isBlank b = true)

theorem folded_nil : Folded [] where
  spaces _ h := absurd h List.not_mem_nil
  apart := .nil

/-- A character that is no blank goes before a folded text. -/
theorem Folded.cons {c : Char} {cs : List Char} (hc : isBlank c = false) (h : Folded cs) :
    Folded (c :: cs) where
  spaces a ha hblank := by
    rcases List.mem_cons.mp ha with rfl | ha
    · exact absurd hblank (by rw [hc]; exact Bool.false_ne_true)
    · exact h.spaces a ha hblank
  apart := h.apart.cons fun _ _ hboth => by
    rw [hc] at hboth
    exact Bool.false_ne_true hboth.1

/-- A space goes before a folded text that does not begin with one. -/
theorem Folded.space {cs : List Char} (hcs : cs.head?.any isBlank = false) (h : Folded cs) :
    Folded (' ' :: cs) where
  spaces a ha hblank := by
    rcases List.mem_cons.mp ha with rfl | ha
    · rfl
    · exact h.spaces a ha hblank
  apart := h.apart.cons fun b hb hboth => by
    rw [Option.mem_def.mp hb] at hcs
    exact Bool.false_ne_true (hcs.symm.trans hboth.2)

/-- A text without blanks goes before a folded one. -/
theorem Folded.append {pre cs : List Char} (hpre : ∀ c ∈ pre, isBlank c = false)
    (h : Folded cs) : Folded (pre ++ cs) := by
  induction pre with
  | nil => exact h
  | cons c pre ih =>
    exact (ih fun a ha => hpre a (List.mem_cons_of_mem _ ha)).cons (hpre c List.mem_cons_self)

/-- The end of a folded text is folded. -/
theorem Folded.right {pre cs : List Char} (h : Folded (pre ++ cs)) : Folded cs where
  spaces c hc := h.spaces c (List.mem_append_right _ hc)
  apart := h.apart.right_of_append

/-- A run of blanks in a folded text is one space. -/
theorem Folded.eq_space {run cs : List Char} (h : Folded (run ++ cs)) (hne : run ≠ [])
    (hrun : ∀ c ∈ run, isBlank c = true) : run = [' '] := by
  match run, hne with
  | [c], _ =>
    have hc := h.spaces c List.mem_cons_self (hrun c List.mem_cons_self)
    rw [hc]
  | a :: b :: run, _ =>
    have ha := hrun a List.mem_cons_self
    have hb := hrun b (List.mem_cons_of_mem _ List.mem_cons_self)
    exact absurd ⟨ha, hb⟩ (List.isChain_cons_cons.mp h.apart).1

namespace Template

/-! ## Placeholders have no blanks -/

/-- A placeholder has no blanks but those of its name. -/
theorem not_blank_placeholder (d : Dialect) (ordinal : Nat) {name : List Char}
    (hname : ∀ c ∈ name, isBlank c = false) :
    ∀ c ∈ d.placeholder ordinal name, isBlank c = false := by
  have hdigits : ∀ c ∈ Nat.toDigits 10 ordinal, isBlank c = false := fun c hc =>
    not_blank_of_continuesName (continuesName_of_isDigit
      (Nat.isDigit_of_mem_toDigits (by decide) (by decide) hc))
  intro c hc
  cases d with
  | question => rw [List.mem_singleton.mp hc]; decide
  | unknown => rw [List.mem_singleton.mp hc]; decide
  | dollar =>
    rcases List.mem_cons.mp hc with rfl | hc
    · decide
    · exact hdigits c hc
  | atSign =>
    rcases List.mem_cons.mp hc with rfl | hc
    · decide
    · rcases List.mem_cons.mp hc with rfl | hc
      · decide
      · exact hdigits c hc
  | named =>
    rcases List.mem_cons.mp hc with rfl | hc
    · decide
    · split at hc
      · simp only [List.mem_cons] at hc
        rcases hc with rfl | rfl | rfl | hc
        · decide
        · decide
        · decide
        · exact hdigits c hc
      · exact hname c hc

/-- A row of placeholders has no blanks but those of the name. -/
theorem not_blank_placeholderRow (d : Dialect) (first count : Nat) {name : List Char}
    (hname : ∀ c ∈ name, isBlank c = false) :
    ∀ c ∈ placeholderRow d name first count, isBlank c = false := by
  have hplaceholder := fun n => not_blank_placeholder d n hname
  induction first, count using placeholderRow.induct with
  | case1 first => exact fun c hc => absurd hc List.not_mem_nil
  | case2 first => exact hplaceholder first
  | case3 first count hcount ih =>
    intro c hc
    rw [placeholderRow] at hc
    · rcases List.mem_append.mp hc with hc | hc
      · exact hplaceholder first c hc
      · rcases List.mem_cons.mp hc with rfl | hc
        · decide
        · exact ih c hc
    · exact hcount

/-! ## What is written -/

section Write

variable {reading : Convention} (d : Dialect) {repeats : Repeats} {k w : Nat} {cs : List Char}
  {ts : List Token}

/-- Where a text does not begin with a blank, no blank is written first. -/
theorem Divides.head?_write (h : Divides reading cs ts)
    (hnone : firstEmpty? repeats k (occurrences ts) = none)
    (hcs : cs.head?.any isBlank = false) :
    (write d repeats k w ts).head?.any isBlank = false := by
  cases h with
  | done => rfl
  | @blanks run rest ts hne hrun hrest h =>
    obtain ⟨c, run, rfl⟩ := List.exists_cons_of_ne_nil hne
    exact absurd (hcs.symm.trans (hrun c List.mem_cons_self)) Bool.false_ne_true
  | colons hreads h => exact (by decide : isBlank ':' = false)
  | @placeholder o rest ts ho h =>
    obtain ⟨sign, tail, hrow, hsign⟩ :=
      placeholderRow_sign d o.name (w + 1) (firstEmpty?_cons_eq_none.mp hnone).1
    rw [write, hrow]
    exact not_blank_of_mem_signs hsign
  | literal hblank hcolons hother h => exact hblank

/-- **What is written is folded.** The induction is on the division of the text. -/
theorem folded_write (h : Divides reading cs ts)
    (hnone : firstEmpty? repeats k (occurrences ts) = none) :
    Folded (write d repeats k w ts) := by
  induction h generalizing k w with
  | done => exact folded_nil
  | blanks hne hrun hrest h ih => exact (ih hnone).space (h.head?_write d hnone hrest)
  | colons hreads h ih => exact (ih hnone).cons (by decide)
  | placeholder ho h ih =>
    obtain ⟨-, hnone⟩ := firstEmpty?_cons_eq_none.mp hnone
    exact (ih hnone).append (not_blank_placeholderRow d _ _ ho.not_blank)
  | literal hblank hcolons hother h ih => exact (ih hnone).cons hblank

end Write

/-- **A rendering is folded**, whatever the layout of its template is. -/
theorem folded_render {reading : Convention} {template : String} {d : Dialect} {repeats : Repeats}
    {rendered : Rendered} (h : render reading template d repeats = .ok rendered) :
    Folded rendered.sql.toList := by
  unfold render renderTokens at h
  simp only at h
  split at h
  · cases h
  · rename_i hnone
    cases h
    rw [String.toList_ofList]
    exact folded_write d (divides_tokens reading template.toList) hnone

end Template

end Rowbind
