import Rowbind.Proofs.Template.Layout

/-!
# A text folded

`foldBlanks` leaves one space of every run of blanks, and all else as it is. The reader does the
same, run by run, so a text and its folding are one template: they have the same tokens, whatever
convention reads them (`tokens_foldBlanks`). For this no placeholder may have a blank in it, and
what ends a name or an ordinal in the text has to end it in the folded text, where a space may stand
in its place.
-/

namespace Rowbind

open Text

/-- A text with one space for every run of blanks, and none for a run that goes on a blank before
the text. -/
def foldFrom (behindBlank : Bool) : List Char → List Char
  | [] => []
  | c :: cs =>
    if isBlank c then
      if behindBlank then foldFrom true cs else ' ' :: foldFrom true cs
    else c :: foldFrom false cs

/-- **A text with one space for every run of blanks.** -/
def foldBlanks (cs : List Char) : List Char := foldFrom false cs

/-- A string with one space for every run of blanks. -/
def foldText (text : String) : String := String.ofList (foldBlanks text.toList)

/-! ## Folding by the run -/

section Folding

variable {c : Char} {cs : List Char}

theorem foldFrom_cons (hc : isBlank c = false) (behindBlank : Bool) :
    foldFrom behindBlank (c :: cs) = c :: foldBlanks cs :=
  if_neg (Bool.eq_false_iff.mp hc)

theorem foldBlanks_cons (hc : isBlank c = false) : foldBlanks (c :: cs) = c :: foldBlanks cs :=
  foldFrom_cons hc false

theorem foldFrom_blank (hc : isBlank c = true) : foldFrom true (c :: cs) = foldFrom true cs := by
  rw [foldFrom, if_pos hc, if_pos rfl]

theorem foldBlanks_blank (hc : isBlank c = true) :
    foldBlanks (c :: cs) = ' ' :: foldFrom true cs := by
  rw [foldBlanks, foldFrom, if_pos hc, if_neg Bool.false_ne_true]

/-- Behind a blank, the blanks at the head of a text go. -/
theorem foldFrom_true (cs : List Char) : foldFrom true cs = foldBlanks (cs.dropWhile isBlank) := by
  induction cs with
  | nil => rfl
  | cons c cs ih =>
    by_cases hc : isBlank c = true
    · rw [foldFrom_blank hc, ih, List.dropWhile_cons_of_pos hc]
    · rw [List.dropWhile_cons_of_neg hc, foldBlanks, foldFrom_cons (Bool.not_eq_true _ ▸ hc),
        foldFrom_cons (Bool.not_eq_true _ ▸ hc)]

/-- **A run of blanks is one space.** -/
theorem foldBlanks_run {run rest : List Char} (hne : run ≠ [])
    (hrun : ∀ c ∈ run, isBlank c = true) (hrest : rest.head?.any isBlank = false) :
    foldBlanks (run ++ rest) = ' ' :: foldBlanks rest := by
  obtain ⟨c, run, rfl⟩ := List.exists_cons_of_ne_nil hne
  rw [List.cons_append, foldBlanks_blank (hrun c List.mem_cons_self), foldFrom_true,
    dropWhile_run (fun a ha => hrun a (List.mem_cons_of_mem _ ha)) hrest]

/-- A text without blanks is folded as it is. -/
theorem foldBlanks_append {pre : List Char} (hpre : ∀ c ∈ pre, isBlank c = false)
    (cs : List Char) : foldBlanks (pre ++ cs) = pre ++ foldBlanks cs := by
  induction pre with
  | nil => rfl
  | cons c pre ih =>
    rw [List.cons_append, foldBlanks_cons (hpre c List.mem_cons_self),
      ih fun a ha => hpre a (List.mem_cons_of_mem _ ha), List.cons_append]

/-- A text is folded in parts, where a character that is no blank divides it. -/
theorem foldFrom_append_cons (hc : isBlank c = false) (behindBlank : Bool) (pre post : List Char) :
    foldFrom behindBlank (pre ++ c :: post) = foldFrom behindBlank pre ++ c :: foldBlanks post := by
  induction pre generalizing behindBlank with
  | nil => exact foldFrom_cons hc behindBlank
  | cons a pre ih =>
    rw [List.cons_append, foldFrom, foldFrom]
    split
    · split
      · exact ih true
      · rw [ih true, List.cons_append]
    · rw [ih false, List.cons_append]

theorem foldBlanks_append_cons (hc : isBlank c = false) (pre post : List Char) :
    foldBlanks (pre ++ c :: post) = foldBlanks pre ++ c :: foldBlanks post :=
  foldFrom_append_cons hc false pre post

/-- A text and its folding begin alike, for whoever takes all blanks alike. -/
theorem any_head?_foldBlanks {p : Char → Bool} (hp : ∀ c, isBlank c = true → p c = p ' ')
    (cs : List Char) : (foldBlanks cs).head?.any p = cs.head?.any p := by
  cases cs with
  | nil => rfl
  | cons c cs =>
    by_cases hc : isBlank c = true
    · rw [foldBlanks_blank hc]
      exact (hp c hc).symm
    · rw [foldBlanks_cons (Bool.not_eq_true _ ▸ hc)]
      rfl

/-- Blanks at the head of a text are passed over in its folding, too. -/
theorem dropWhile_foldBlanks (cs : List Char) :
    (foldBlanks cs).dropWhile isBlank = foldBlanks (cs.dropWhile isBlank) := by
  have hhead : ∀ rest : List Char, rest.head?.any isBlank = false →
      (foldBlanks rest).dropWhile isBlank = foldBlanks rest := by
    intro rest hrest
    rw [← any_head?_foldBlanks fun _ hc => hc] at hrest
    exact dropWhile_run (fun _ hc => absurd hc List.not_mem_nil) hrest
  cases cs with
  | nil => rfl
  | cons c cs =>
    by_cases hc : isBlank c = true
    · rw [foldBlanks_blank hc, foldFrom_true, List.dropWhile_cons_of_pos (by decide),
        List.dropWhile_cons_of_pos hc, hhead _ (head?_dropWhile_any isBlank cs)]
    · rw [List.dropWhile_cons_of_neg hc]
      exact hhead _ (Bool.not_eq_true _ ▸ hc)

/-- A run that ends before a blank is not changed. -/
theorem takeWhile_foldBlanks {p : Char → Bool} (hp : ∀ c, isBlank c = true → p c = false)
    (cs : List Char) : (foldBlanks cs).takeWhile p = cs.takeWhile p := by
  induction cs with
  | nil => rfl
  | cons c cs ih =>
    by_cases hc : isBlank c = true
    · rw [foldBlanks_blank hc,
        List.takeWhile_cons_of_neg (Bool.eq_false_iff.mp (hp ' ' (by decide))),
        List.takeWhile_cons_of_neg (Bool.eq_false_iff.mp (hp c hc))]
    · rw [foldBlanks_cons (Bool.not_eq_true _ ▸ hc), List.takeWhile_cons, List.takeWhile_cons, ih]

end Folding

/-! ## Placeholders of a folded text -/

/-- A name is read alike in a text and its folding. -/
theorem nameAt_foldBlanks (cs : List Char) : nameAt (foldBlanks cs) = nameAt cs := by
  have hbegins : ∀ c, isBlank c = true → beginsName c = false := fun c hc =>
    Bool.eq_false_iff.mpr fun h =>
      Bool.eq_false_iff.mp (continuesName_of_blank hc) (continuesName_of_beginsName h)
  have hspace : beginsName ' ' = false := hbegins ' ' (by decide)
  unfold nameAt
  rw [takeWhile_foldBlanks fun _ hc => continuesName_of_blank hc,
    any_head?_foldBlanks fun c hc => (hbegins c hc).trans hspace.symm]

/-- An ordinal is read alike in a text and its folding. -/
theorem digitsAt_foldBlanks (cs : List Char) : digitsAt (foldBlanks cs) = digitsAt cs :=
  takeWhile_foldBlanks (fun _ hc => Bool.eq_false_iff.mpr fun h =>
    Bool.eq_false_iff.mp (continuesName_of_blank hc) (continuesName_of_isDigit h)) cs

/-- **A text and its folding begin with the same placeholder**, or with none. -/
theorem occurrence?_foldBlanks (reading : Convention) (cs : List Char) :
    occurrence? reading (foldBlanks cs) = occurrence? reading cs := by
  have hother : ∀ a tail, ¬ (a = 'p' ∨ a = 'P') → occurrence? reading ('@' :: a :: tail) = none :=
    fun a tail ha => if_neg fun h => ha h.2
  cases cs with
  | nil => rfl
  | cons c cs =>
    by_cases hsign : c ∈ signs
    · rw [foldBlanks_cons (not_blank_of_mem_signs hsign)]
      simp only [signs, List.mem_cons, List.not_mem_nil, or_false] at hsign
      rcases hsign with rfl | rfl | rfl | rfl
      · rfl
      · simp only [occurrence?, nameAt_foldBlanks]
      · simp only [occurrence?, digitsAt_foldBlanks]
      · -- the letter of an ordinal's sign is read before its digits
        cases cs with
        | nil => rfl
        | cons p cs =>
          by_cases hp : isBlank p = true
          · have hletter : ¬ (p = 'p' ∨ p = 'P') := by
              rintro (rfl | rfl) <;> exact absurd hp (by decide)
            rw [foldBlanks_blank hp, hother p cs hletter]
            exact hother ' ' _ (by decide)
          · rw [foldBlanks_cons (Bool.not_eq_true _ ▸ hp)]
            simp only [occurrence?, digitsAt_foldBlanks]
    · have hfolded : ∃ a rest, foldBlanks (c :: cs) = a :: rest ∧ a ∉ signs := by
        by_cases hc : isBlank c = true
        · exact ⟨' ', _, foldBlanks_blank hc, by decide⟩
        · exact ⟨c, _, foldBlanks_cons (Bool.not_eq_true _ ▸ hc), hsign⟩
      obtain ⟨a, rest, hfolded, ha⟩ := hfolded
      rw [hfolded, occurrence?_of_not_sign ha, occurrence?_of_not_sign hsign]

namespace Template

/-- No placeholder has a blank in it. -/
theorem StandsBefore.not_blank_written {reading : Convention} {o : Occurrence} {rest : List Char}
    (h : StandsBefore reading o rest) : ∀ c ∈ o.written, isBlank c = false := by
  have hname := h.not_blank
  intro c hc
  cases h with
  | question d rest => rw [List.mem_singleton.mp hc]; decide
  | parameter hreads h =>
    rcases List.mem_cons.mp hc with rfl | hc
    · decide
    · exact hname c hc
  | dollar h =>
    rcases List.mem_cons.mp hc with rfl | hc
    · decide
    · exact hname c hc
  | atSign hp h =>
    rcases List.mem_cons.mp hc with rfl | hc
    · decide
    · rcases List.mem_cons.mp hc with rfl | hc
      · rcases hp with rfl | rfl <;> decide
      · exact hname c hc

/-- A placeholder stands before the folded text as it does before the text. -/
theorem StandsBefore.foldBlanks {reading : Convention} {o : Occurrence} {rest : List Char}
    (h : StandsBefore reading o rest) : StandsBefore reading o (foldBlanks rest) := by
  have ho := h.occurrence?
  rw [← occurrence?_foldBlanks, foldBlanks_append h.not_blank_written] at ho
  obtain ⟨after, hafter, hstands⟩ := standsBefore_of_occurrence? ho
  rwa [List.append_cancel_left hafter]

/-! ## Tokens of a folded text -/

/-- A text divides into the same tokens folded. The induction is on the division. -/
theorem Divides.foldBlanks {reading : Convention} {cs : List Char} {ts : List Token}
    (h : Divides reading cs ts) : Divides reading (foldBlanks cs) ts := by
  induction h with
  | done => exact .done
  | blanks hne hrun hrest h ih =>
    rw [foldBlanks_run hne hrun hrest, ← List.singleton_append]
    refine .blanks (List.cons_ne_nil _ _) (List.forall_mem_singleton.mpr (by decide)) ?_ ih
    rw [any_head?_foldBlanks fun c hc => hc]
    exact hrest
  | colons hreads h ih =>
    rw [foldBlanks_cons (by decide), foldBlanks_cons (by decide)]
    exact .colons hreads ih
  | placeholder ho h ih =>
    rw [foldBlanks_append ho.not_blank_written]
    exact .placeholder ho.foldBlanks ih
  | @literal c rest ts hblank hcolons hnone h ih =>
    have hfold : Rowbind.foldBlanks (c :: rest) = c :: Rowbind.foldBlanks rest :=
      foldBlanks_cons hblank
    have hcolon : ∀ a, isBlank a = true → (a == ':') = (' ' == ':') := by
      intro a ha
      refine beq_eq_false_iff_ne.mpr ?_
      rintro rfl
      exact absurd ha (by decide)
    rw [hfold]
    refine .literal hblank ?_ ?_ ih
    · intro hreads hc hhead
      have hany := any_head?_foldBlanks hcolon rest
      rw [hhead] at hany
      obtain ⟨a, ha, hbehind⟩ := (Option.any_eq_true _ _).mp hany.symm
      exact hcolons hreads hc (beq_iff_eq.mp hbehind ▸ ha)
    · intro o after hcs hstands
      have ho := hstands.occurrence?
      rw [← hcs, ← hfold, occurrence?_foldBlanks, occurrence?_eq_none hnone] at ho
      cases ho

/-- **A text has the same tokens folded.** -/
theorem tokens_foldBlanks (reading : Convention) (cs : List Char) :
    tokens reading (foldBlanks cs) = tokens reading cs :=
  (divides_tokens reading cs).foldBlanks.eq_tokens

/-- A template has the parameters of its folding. -/
theorem parameterNames_foldBlanks (cs : List Char) :
    parameterNames (foldBlanks cs) = parameterNames cs := by
  rw [parameterNames, tokens_foldBlanks, parameterNames]

/-- A template is rendered as its folding is. -/
theorem render_foldText (reading : Convention) (template : String) (d : Dialect)
    (repeats : Repeats) :
    render reading (foldText template) d repeats = render reading template d repeats := by
  rw [render, foldText, String.toList_ofList, tokens_foldBlanks, render]

end Template

end Rowbind
