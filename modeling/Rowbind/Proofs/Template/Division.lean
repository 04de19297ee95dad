import Rowbind.Proofs.Template.ReadingBack

/-!
# The division of a text by a convention

What it is for a text to be read by a convention as the tokens `ts`, and not how the tokens are
found: `StandsBefore` lists the forms that a placeholder has, each as long as it can be, and
`Divides` is the division of a whole text, where a run of blanks is one space and two colons are one
if a colon names parameters.

The reader finds an occurrence exactly where one stands (`occurrence?_eq_some_iff`), and every text
divides into its tokens and into nothing else (`divides_iff`).
-/

namespace Rowbind.Template

open Text

/-! ## Where an occurrence stands -/

/-- **Whether a name stands before a text**, and goes no further. -/
structure NameBefore (name rest : List Char) : Prop where
  begins : name.head?.any beginsName = true
  continues : ∀ c ∈ name, continuesName c = true
  noDot : name.getLast? ≠ some '.'
  ends : EndsName rest

theorem NameBefore.ne_nil {name rest : List Char} (h : NameBefore name rest) : name ≠ [] := by
  rintro rfl
  exact absurd h.begins Bool.false_ne_true

/-- The name before a text is the name at the head of both. -/
theorem NameBefore.nameAt {name rest : List Char} (h : NameBefore name rest) :
    nameAt (name ++ rest) = name := by
  have hhead : (name ++ rest).head?.any beginsName = true := by
    rw [List.head?_append]
    cases name with
    | nil => exact absurd h.begins Bool.false_ne_true
    | cons c name => exact h.begins
  have hlast : name.rdropWhile (· == '.') = name := by
    rw [List.rdropWhile_eq_self_iff]
    intro hne hdot
    exact h.noDot ((List.getLast?_eq_some_getLast hne).trans (congrArg some (beq_iff_eq.mp hdot)))
  rw [Rowbind.nameAt, if_pos hhead, List.takeWhile_append_of_pos h.continues,
    dropTrailingDots_append h.ends.takeWhile, dropTrailingDots_eq, hlast]

/-- The name at the head of a text stands before the rest of it. -/
theorem nameBefore_nameAt {cs : List Char} (h : nameAt cs ≠ []) :
    NameBefore (nameAt cs) (cs.drop (nameAt cs).length) := by
  obtain ⟨c, tail, rfl, hc⟩ := beginsName_of_nameAt h
  have hname := nameAt_cons hc tail
  refine ⟨?_, ?_, ?_, endsName_drop_nameAt hc tail⟩
  · obtain ⟨more, hmore⟩ := nameAt_begins (c :: tail)
    cases hform : nameAt (c :: tail) with
    | nil => exact absurd hform h
    | cons a name =>
      rw [hform, List.cons_append] at hmore
      rw [(List.cons.inj hmore).1]
      exact hc
  · intro a ha
    rw [hname] at ha
    rcases List.mem_cons.mp ((List.rdropWhile_prefix _ _).subset ha) with rfl | ha
    · exact continuesName_of_beginsName hc
    · exact List.mem_takeWhile_imp ha
  · intro hlast
    rw [hname] at h hlast
    refine List.rdropWhile_last_not (p := (· == '.')) _ h (beq_iff_eq.mpr ?_)
    exact Option.some.inj ((List.getLast?_eq_some_getLast h).symm.trans hlast)

/-- **Whether an ordinal stands before a text**, and goes no further. -/
structure OrdinalBefore (digits rest : List Char) : Prop where
  ne_nil : digits ≠ []
  isDigit : ∀ c ∈ digits, c.isDigit = true
  ends : rest.head?.any Char.isDigit = false

/-- Digits are missing from the head of a text whose first character is none. -/
theorem digitsAt_eq_nil_iff {cs : List Char} :
    digitsAt cs = [] ↔ cs.head?.any Char.isDigit = false := by
  cases cs with
  | nil => exact ⟨fun _ => rfl, fun _ => rfl⟩
  | cons c cs => exact List.takeWhile_eq_nil_iff.trans (by simp)

/-- The ordinal before a text is the digits at the head of both. -/
theorem OrdinalBefore.digitsAt {digits rest : List Char} (h : OrdinalBefore digits rest) :
    digitsAt (digits ++ rest) = digits := by
  have hrest : Rowbind.digitsAt rest = [] := digitsAt_eq_nil_iff.mpr h.ends
  rw [Rowbind.digitsAt] at hrest ⊢
  rw [List.takeWhile_append_of_pos h.isDigit, hrest, List.append_nil]

/-- The digits at the head of a text stand before the rest of it. -/
theorem ordinalBefore_digitsAt {cs : List Char} (h : digitsAt cs ≠ []) :
    OrdinalBefore (digitsAt cs) (cs.drop (digitsAt cs).length) := by
  have hdrop : cs.drop (digitsAt cs).length = cs.dropWhile Char.isDigit :=
    List.append_cancel_left
      ((List.prefix_iff_eq_append.mp (List.takeWhile_prefix _)).trans
        (List.takeWhile_append_dropWhile).symm)
  refine ⟨h, fun c hc => List.mem_takeWhile_imp hc, ?_⟩
  rw [hdrop]
  exact head?_dropWhile_any _ cs

/-- **Whether an occurrence stands before a text**, read by a convention. -/
inductive StandsBefore : Convention → Occurrence → List Char → Prop
  | question (d : Dialect) (rest : List Char) : StandsBefore (.positional d) ⟨['?'], []⟩ rest
  | parameter {reading : Convention} {name rest : List Char} (hreads : reading.readsColon = true)
      (h : NameBefore name rest) : StandsBefore reading ⟨':' :: name, name⟩ rest
  | dollar {digits rest : List Char} (h : OrdinalBefore digits rest) :
      StandsBefore (.positional .dollar) ⟨'$' :: digits, digits⟩ rest
  | atSign {p : Char} {digits rest : List Char} (hp : p = 'p' ∨ p = 'P')
      (h : OrdinalBefore digits rest) :
      StandsBefore (.positional .atSign) ⟨'@' :: p :: digits, digits⟩ rest

/-- What stands before a text is found at the head of both. -/
theorem StandsBefore.occurrence? {reading : Convention} {o : Occurrence} {rest : List Char}
    (h : StandsBefore reading o rest) : occurrence? reading (o.written ++ rest) = some o := by
  cases h with
  | question d rest => rfl
  | parameter hreads h =>
    simp only [List.cons_append, Rowbind.occurrence?, hreads, if_true, h.nameAt]
    exact signed?_of_ne_nil h.ne_nil
  | dollar h =>
    simp only [List.cons_append, Rowbind.occurrence?, if_true, h.digitsAt]
    exact signed?_of_ne_nil h.ne_nil
  | atSign hp h =>
    simp only [List.cons_append, Rowbind.occurrence?, true_and, if_pos hp, h.digitsAt]
    exact signed?_of_ne_nil h.ne_nil

/-- What is found at the head of a text stands before the rest of it. -/
theorem standsBefore_of_occurrence? {reading : Convention} {cs : List Char} {o : Occurrence}
    (h : occurrence? reading cs = some o) :
    ∃ rest, cs = o.written ++ rest ∧ StandsBefore reading o rest := by
  have hname : ∀ tail, nameAt tail ++ tail.drop (nameAt tail).length = tail := fun tail =>
    List.prefix_iff_eq_append.mp (nameAt_begins tail)
  have hdigits : ∀ tail, digitsAt tail ++ tail.drop (digitsAt tail).length = tail := fun tail =>
    List.prefix_iff_eq_append.mp (List.takeWhile_prefix _)
  unfold Rowbind.occurrence? at h
  split at h
  · rename_i tail
    cases reading with
    | named => cases h
    | positional d =>
      cases h
      exact ⟨tail, rfl, .question d tail⟩
  · rename_i tail
    split at h
    · rename_i hreads
      obtain ⟨hne, rfl⟩ := signed?_eq_some h
      exact ⟨_, congrArg (':' :: ·) (hname tail).symm, .parameter hreads (nameBefore_nameAt hne)⟩
    · cases h
  · rename_i tail
    split at h
    · rename_i hreading
      obtain ⟨hne, rfl⟩ := signed?_eq_some h
      subst hreading
      exact ⟨_, congrArg ('$' :: ·) (hdigits tail).symm, .dollar (ordinalBefore_digitsAt hne)⟩
    · cases h
  · rename_i p tail
    split at h
    · rename_i hreading
      obtain ⟨hne, rfl⟩ := signed?_eq_some h
      obtain ⟨rfl, hp⟩ := hreading
      exact ⟨_, congrArg ('@' :: p :: ·) (hdigits tail).symm,
        .atSign hp (ordinalBefore_digitsAt hne)⟩
    · cases h
  · cases h

/-- **An occurrence is found exactly where it stands.** -/
theorem occurrence?_eq_some_iff {reading : Convention} {cs : List Char} {o : Occurrence} :
    occurrence? reading cs = some o ↔
      ∃ rest, cs = o.written ++ rest ∧ StandsBefore reading o rest :=
  ⟨standsBefore_of_occurrence?, fun ⟨_, hcs, h⟩ => hcs ▸ h.occurrence?⟩

/-- No occurrence is found where none stands. -/
theorem occurrence?_eq_none {reading : Convention} {cs : List Char}
    (h : ∀ o rest, cs = o.written ++ rest → ¬ StandsBefore reading o rest) :
    occurrence? reading cs = none := by
  cases ho : occurrence? reading cs with
  | none => rfl
  | some o =>
    obtain ⟨rest, hcs, hstands⟩ := occurrence?_eq_some_iff.mp ho
    exact absurd hstands (h o rest hcs)

/-! ## The division of a text -/

/-- **Whether a text divides into tokens**, read by a convention. -/
inductive Divides (reading : Convention) : List Char → List Token → Prop
  | done : Divides reading [] []
  | blanks {run rest : List Char} {ts : List Token} (hne : run ≠ [])
      (hrun : ∀ c ∈ run, isBlank c = true) (hrest : rest.head?.any isBlank = false)
      (h : Divides reading rest ts) : Divides reading (run ++ rest) (.literal ' ' :: ts)
  | colons {rest : List Char} {ts : List Token} (hreads : reading.readsColon = true)
      (h : Divides reading rest ts) : Divides reading (':' :: ':' :: rest) (.literal ':' :: ts)
  | placeholder {o : Occurrence} {rest : List Char} {ts : List Token}
      (ho : StandsBefore reading o rest) (h : Divides reading rest ts) :
      Divides reading (o.written ++ rest) (.placeholder o :: ts)
  | literal {c : Char} {rest : List Char} {ts : List Token} (hblank : isBlank c = false)
      (hcolons : reading.readsColon = true → c = ':' → rest.head? ≠ some ':')
      (hnone : ∀ o after, c :: rest = o.written ++ after → ¬ StandsBefore reading o after)
      (h : Divides reading rest ts) : Divides reading (c :: rest) (.literal c :: ts)

/-- Two colons that stand for one begin no occurrence. -/
theorem StandsBefore.escapes {reading : Convention} {o : Occurrence} {rest : List Char}
    (h : StandsBefore reading o rest) : escapes reading (o.written ++ rest) = false := by
  cases h with
  | parameter hreads h =>
    rename_i name
    rw [Bool.eq_false_iff]
    intro he
    obtain ⟨-, tail, heq⟩ := eq_colons_of_escapes he
    have hbegins := h.begins
    cases name with
    | nil => exact Bool.false_ne_true hbegins
    | cons a name =>
      rw [(List.cons.inj (List.cons.inj heq).2).1] at hbegins
      exact absurd hbegins (by decide : ¬ beginsName ':' = true)
  | question d rest => exact escapes_of_ne _ (by decide) _
  | dollar h => exact escapes_of_ne _ (by decide) _
  | atSign hp h => exact escapes_of_ne _ (by decide) _

/-- A text that an occurrence stands in begins with the occurrence's token. -/
theorem StandsBefore.tokens {reading : Convention} {o : Occurrence} {rest : List Char}
    (h : StandsBefore reading o rest) :
    tokens reading (o.written ++ rest) = .placeholder o :: tokens reading rest := by
  have ho := h.occurrence?
  have he := h.escapes
  obtain ⟨c, tail, hwritten⟩ : ∃ c tail, o.written = c :: tail :=
    List.exists_cons_of_ne_nil (occurrence?_written ho).2
  have hdrop : (tail ++ rest).drop (o.written.length - 1) = rest := by
    rw [hwritten, List.length_cons, Nat.add_sub_cancel, List.drop_left]
  rw [hwritten, List.cons_append] at ho he ⊢
  have hb : isBlank c = false := not_blank_of_mem_signs (mem_signs_of_occurrence? ho)
  rw [tokens_occurrence _ hb he ho, hdrop]

/-- A text divides into no other tokens than its own. The induction is on the division: each of its
rules is a step of the reader. -/
theorem Divides.eq_tokens {reading : Convention} {cs : List Char} {ts : List Token}
    (h : Divides reading cs ts) : tokens reading cs = ts := by
  induction h with
  | done => exact tokens_nil _
  | @blanks run rest ts hne hrun hrest _ ih =>
    obtain ⟨c, run, rfl⟩ := List.exists_cons_of_ne_nil hne
    have hdrop : (run ++ rest).dropWhile isBlank = rest :=
      dropWhile_run (fun a ha => hrun a (List.mem_cons_of_mem _ ha)) hrest
    rw [List.cons_append, tokens_blank _ (hrun c List.mem_cons_self), hdrop, ih]
  | colons hreads _ ih => rw [tokens_escape _ hreads, ih]
  | placeholder ho _ ih => rw [ho.tokens, ih]
  | @literal c rest ts hblank hcolons hnone _ ih =>
    have hescapes : escapes reading (c :: rest) = false := by
      rw [Bool.eq_false_iff]
      intro he
      obtain ⟨hreads, tail, heq⟩ := eq_colons_of_escapes he
      cases heq
      exact hcolons hreads rfl rfl
    rw [tokens_literal _ hblank hescapes (occurrence?_eq_none hnone), ih]

/-- A text divides into its tokens. The induction follows the reader. -/
theorem divides_tokens (reading : Convention) (cs : List Char) :
    Divides reading cs (tokens reading cs) := by
  induction cs using tokens.induct reading with
  | case1 =>
    rw [tokens_nil]
    exact .done
  | case2 c cs hb ih =>
    rw [tokens_blank _ hb]
    have hrun : ∀ a ∈ c :: cs.takeWhile isBlank, isBlank a = true := by
      intro a ha
      rcases List.mem_cons.mp ha with rfl | ha
      · exact hb
      · exact List.mem_takeWhile_imp ha
    have := Divides.blanks (List.cons_ne_nil _ _) hrun (head?_dropWhile_any isBlank cs) ih
    rwa [List.cons_append, List.takeWhile_append_dropWhile] at this
  | case3 c cs hb he ih =>
    have he : escapes reading (c :: cs) = true := he
    obtain ⟨hreads, tail, heq⟩ := eq_colons_of_escapes he
    obtain ⟨rfl, rfl⟩ := List.cons.inj heq
    rw [tokens_escape _ hreads]
    exact .colons hreads ih
  | case4 c cs hb he o ho ih =>
    obtain ⟨rest, hcs, hstands⟩ := standsBefore_of_occurrence? ho
    have hdrop : cs.drop (o.written.length - 1) = rest := by
      obtain ⟨a, tail, hwritten⟩ := List.exists_cons_of_ne_nil (occurrence?_written ho).2
      rw [hwritten, List.cons_append] at hcs
      rw [(List.cons.inj hcs).2, hwritten, List.length_cons, Nat.add_sub_cancel, List.drop_left]
    rw [hdrop] at ih
    rw [hcs, hstands.tokens]
    exact .placeholder hstands ih
  | case5 c cs hb he ho ih =>
    have hb : isBlank c = false := Bool.not_eq_true _ ▸ hb
    have he : escapes reading (c :: cs) = false := Bool.not_eq_true _ ▸ he
    rw [tokens_literal _ hb he ho]
    refine .literal hb ?_ ?_ ih
    · rintro hreads rfl hhead
      obtain ⟨rest, rfl⟩ := List.head?_eq_some_iff.mp hhead
      rw [escapes, hreads] at he
      cases he
    · intro o after hcs hstands
      rw [hcs, hstands.occurrence?] at ho
      cases ho

/-- **A text divides into its tokens, and into nothing else.** -/
theorem divides_iff {reading : Convention} {cs : List Char} {ts : List Token} :
    Divides reading cs ts ↔ ts = tokens reading cs :=
  ⟨fun h => h.eq_tokens.symm, fun h => h ▸ divides_tokens reading cs⟩

/-! ## Question marks -/

/-- A literal of a positional template is no question mark. -/
theorem ne_question {d : Dialect} {c : Char} {rest : List Char}
    (hnone : ∀ o after, c :: rest = o.written ++ after →
      ¬ StandsBefore (.positional d) o after) : c ≠ '?' := by
  rintro rfl
  exact hnone _ _ rfl (.question d rest)

/-- **No question mark is a literal**, where placeholders are positional or the text has none. -/
theorem Divides.question_not_mem {reading : Convention} {cs : List Char} {ts : List Token}
    (h : Divides reading cs ts) (hquestion : reading = .named → '?' ∉ cs) :
    Token.literal '?' ∉ ts := by
  induction h with
  | done => exact List.not_mem_nil
  | blanks hne hrun hrest h ih =>
    exact List.not_mem_cons_of_ne_of_not_mem (by decide)
      (ih fun hnamed hmem => hquestion hnamed (List.mem_append_right _ hmem))
  | colons hreads h ih =>
    exact List.not_mem_cons_of_ne_of_not_mem (by decide)
      (ih fun hnamed hmem => hquestion hnamed (List.mem_append_right [':', ':'] hmem))
  | placeholder ho h ih =>
    exact List.not_mem_cons_of_ne_of_not_mem nofun
      (ih fun hnamed hmem => hquestion hnamed (List.mem_append_right _ hmem))
  | @literal c rest ts hblank hcolons hnone h ih =>
    have hc : c ≠ '?' := by
      cases reading with
      | named =>
        rintro rfl
        exact hquestion rfl List.mem_cons_self
      | positional d => exact ne_question hnone
    exact List.not_mem_cons_of_ne_of_not_mem (fun heq => hc (Token.literal.inj heq).symm)
      (ih fun hnamed hmem => hquestion hnamed (List.mem_cons_of_mem _ hmem))

end Rowbind.Template
