import Rowbind.Proofs.Template.Layout
import Rowbind.Proofs.Template.Wording

/-!
# Rendering by way of question marks

A template may be rendered for a dialect at once, or with question marks first and rebound then. The
two ways agree where a question mark says all that a placeholder has to say
(`renders_by_question_marks`): in the dialects that number their placeholders, and for a positional
template without placeholders of the dialect's own form, which has question marks and nothing else.

What carries it is that the text in between reads as it was written (`write_rebound`): its literals
are no question marks, its blanks are single spaces, and a row of question marks is read as
occurrences of one placeholder each. The counts are spent on the first way, the ordinals given out
on the second.
-/

namespace Rowbind.Template

open Text

/-! ## Question marks in between -/

section Rebound

variable {d : Dialect}

/-- Without question marks nothing begins a placeholder. -/
theorem occurrence?_question_of_ne {c : Char} (hc : c ≠ '?') (cs : List Char) :
    occurrence? (.positional .question) (c :: cs) = none := by
  refine occurrence?_eq_none fun o after hcs hstands => ?_
  cases hstands with
  | question => exact hc (List.cons.inj hcs).1
  | parameter hreads => cases hreads

/-- A literal is read as itself. -/
theorem tokens_question_literal {c : Char} (hblank : isBlank c = false) (hc : c ≠ '?')
    (cs : List Char) : tokens (.positional .question) (c :: cs) =
      .literal c :: tokens (.positional .question) cs :=
  tokens_literal _ hblank rfl (occurrence?_question_of_ne hc cs)

/-- **A row of question marks is rebound as a row of placeholders**, numbered on from those before
it. -/
theorem write_row_rebound (name rest : List Char) (first count k w : Nat) :
    write d .once k w (tokens (.positional .question)
        (placeholderRow .question name first count ++ rest)) =
      placeholderRow d [] (w + 1) count ++
        write d .once (k + count) (w + count) (tokens (.positional .question) rest) := by
  have hmark : ∀ after, tokens (.positional .question) ('?' :: after) =
      .placeholder ⟨['?'], []⟩ :: tokens (.positional .question) after :=
    fun after => (StandsBefore.question .question after).tokens
  induction first, count using placeholderRow.induct generalizing k w with
  | case1 first => rfl
  | case2 first => exact congrArg (write d .once k w) (hmark rest)
  | case3 first count hcount ih =>
    have hk : k + 1 + count = k + (count + 1) := by omega
    have hw : w + 1 + count = w + (count + 1) := by omega
    have hrest := ih (k + 1) (w + 1)
    rw [hk, hw] at hrest
    rw [placeholderRow, placeholderRow]
    · rw [List.append_assoc, List.append_assoc, List.cons_append, List.cons_append, ← hrest]
      rw [Dialect.placeholder, List.singleton_append, hmark,
        tokens_question_literal (by decide) (by decide)]
      rfl
    · exact hcount
    · exact hcount

/-- A row hangs on the name only where its placeholders do. -/
theorem placeholderRow_congr {name name' : List Char}
    (h : ∀ ordinal, d.placeholder ordinal name = d.placeholder ordinal name') (first count : Nat) :
    placeholderRow d name first count = placeholderRow d name' first count := by
  induction first, count using placeholderRow.induct with
  | case1 first => rfl
  | case2 first => exact h first
  | case3 first count hcount ih =>
    rw [placeholderRow, placeholderRow, ih, h]
    · exact hcount
    · exact hcount

/-- **Tokens written with question marks are rebound as they are written for the dialect**, where it
writes their placeholders without the names. The induction is on the division of the template. -/
theorem write_rebound {reading : Convention} {repeats : Repeats} {cs : List Char}
    {ts : List Token} (h : Divides reading cs ts) (hquestion : Token.literal '?' ∉ ts) {k : Nat}
    (hnone : firstEmpty? repeats k (occurrences ts) = none)
    (hnames : ∀ o ∈ occurrences ts, ∀ ordinal,
      d.placeholder ordinal [] = d.placeholder ordinal o.name) (k' w w' : Nat) :
    write d .once k' w (tokens (.positional .question) (write .question repeats k w' ts)) =
      write d repeats k w ts := by
  induction h generalizing k k' w w' with
  | done => rw [write, tokens_nil]; rfl
  | @blanks run rest ts hne hrun hrest h ih =>
    have hafter : (write .question repeats k w' ts).dropWhile isBlank =
        write .question repeats k w' ts :=
      dropWhile_run (fun _ hc => absurd hc List.not_mem_nil) (h.head?_write .question hnone hrest)
    rw [write, tokens_blank _ (by decide), hafter]
    exact congrArg (' ' :: ·)
      (ih (fun hmem => hquestion (List.mem_cons_of_mem _ hmem)) hnone hnames k' w w')
  | colons hreads h ih =>
    rw [write, tokens_question_literal (by decide) (by decide)]
    exact congrArg (':' :: ·)
      (ih (fun hmem => hquestion (List.mem_cons_of_mem _ hmem)) hnone hnames k' w w')
  | placeholder ho h ih =>
    obtain ⟨-, hnone⟩ := firstEmpty?_cons_eq_none.mp hnone
    rw [write, write_row_rebound, write,
      placeholderRow_congr (hnames _ List.mem_cons_self)]
    exact congrArg (_ ++ ·) (ih (fun hmem => hquestion (List.mem_cons_of_mem _ hmem)) hnone
      (fun o ho => hnames o (List.mem_cons_of_mem _ ho)) _ _ _)
  | @literal c rest ts hblank hcolons hstands h ih =>
    have hc : c ≠ '?' := fun heq => hquestion (heq ▸ List.mem_cons_self)
    rw [write, tokens_question_literal hblank hc]
    exact congrArg (c :: ·)
      (ih (fun hmem => hquestion (List.mem_cons_of_mem _ hmem)) hnone hnames k' w w')

end Rebound

/-! ## Templates with question marks alone -/

/-- **A text without placeholders of a dialect's own form**: its placeholders are question marks. -/
structure WithoutOwnForm (d : Dialect) (cs : List Char) : Prop where
  dollar : d = .dollar → ∀ c, c.isDigit = true → ¬ ['$', c] <:+: cs
  atSign : d = .atSign → ∀ p c, p = 'p' ∨ p = 'P' → c.isDigit = true → ¬ ['@', p, c] <:+: cs
  named : d = .named → ':' ∉ cs

/-- A piece of a text without the dialect's own form is without it. -/
theorem WithoutOwnForm.piece {d : Dialect} {cs cs' : List Char} (h : WithoutOwnForm d cs)
    (hpiece : cs' <:+: cs) : WithoutOwnForm d cs' where
  dollar hd c hc hin := h.dollar hd c hc (hin.trans hpiece)
  atSign hd p c hp hc hin := h.atSign hd p c hp hc (hin.trans hpiece)
  named hd hmem := h.named hd (hpiece.subset hmem)

/-- A placeholder of such a text is a question mark. -/
theorem StandsBefore.eq_question {d : Dialect} {o : Occurrence} {rest : List Char}
    (h : StandsBefore (.positional d) o rest) (hfree : WithoutOwnForm d (o.written ++ rest)) :
    o = ⟨['?'], []⟩ := by
  cases h with
  | question => rfl
  | parameter hreads h =>
    have hd : d = .named := by
      cases d with
      | named => rfl
      | _ => cases hreads
    exact absurd List.mem_cons_self (hfree.named hd)
  | dollar h =>
    obtain ⟨c, digits, rfl⟩ := List.exists_cons_of_ne_nil h.ne_nil
    exact absurd ⟨[], digits ++ rest, rfl⟩ (hfree.dollar rfl c (h.isDigit c List.mem_cons_self))
  | atSign hp h =>
    obtain ⟨c, digits, rfl⟩ := List.exists_cons_of_ne_nil h.ne_nil
    exact absurd ⟨[], digits ++ rest, rfl⟩
      (hfree.atSign rfl _ c hp (h.isDigit c List.mem_cons_self))

/-- **Such a text divides as a text with question marks does.** The induction is on the division. -/
theorem Divides.of_question {d : Dialect} {cs : List Char} {ts : List Token}
    (h : Divides (.positional .question) cs ts) (hfree : WithoutOwnForm d cs) :
    Divides (.positional d) cs ts := by
  induction h with
  | done => exact .done
  | blanks hne hrun hrest h ih =>
    exact .blanks hne hrun hrest (ih (hfree.piece (List.suffix_append _ _).isInfix))
  | colons hreads h ih => cases hreads
  | placeholder ho h ih =>
    have hrest := ih (hfree.piece (List.suffix_append _ _).isInfix)
    cases ho with
    | question => exact .placeholder (.question d _) hrest
    | parameter hreads => cases hreads
  | @literal c rest ts hblank hcolons hnone h ih =>
    refine .literal hblank ?_ ?_ (ih (hfree.piece (List.suffix_cons c rest).isInfix))
    · rintro hreads rfl -
      have hd : d = .named := by
        cases d with
        | named => rfl
        | _ => cases hreads
      exact hfree.named hd List.mem_cons_self
    · intro o after hcs hstands
      have ho := hstands.eq_question (hcs ▸ hfree)
      rw [ho] at hcs
      exact ne_question hnone (List.cons.inj hcs).1

/-- **A text without a dialect's own form has the tokens of its question marks.** -/
theorem tokens_of_withoutOwnForm {d : Dialect} {cs : List Char} (h : WithoutOwnForm d cs) :
    tokens (.positional d) cs = tokens (.positional .question) cs :=
  ((divides_tokens _ cs).of_question h).eq_tokens

/-- The occurrences of a positional template with question marks have no names. -/
theorem name_of_mem_occurrences_question {cs : List Char} {ts : List Token}
    (h : Divides (.positional .question) cs ts) : ∀ o ∈ occurrences ts, o.name = [] := by
  induction h with
  | done => exact fun o ho => absurd ho List.not_mem_nil
  | blanks hne hrun hrest h ih => exact ih
  | colons hreads h ih => exact ih
  | placeholder ho h ih =>
    refine List.forall_mem_cons.mpr ⟨?_, ih⟩
    cases ho with
    | question => rfl
    | parameter hreads => cases hreads
  | literal hblank hcolons hnone h ih => exact ih

/-! ## The two ways -/

/-- Rendering with question marks and rebinding then, for a dialect that has a form of its own. -/
theorem rebind_rendered {reading : Convention} {template : String} {d : Dialect}
    {repeats : Repeats} (hd : d.isQuestion = false)
    (hquestion : Token.literal '?' ∉ tokens reading template.toList)
    (hnames : ∀ o ∈ occurrences (tokens reading template.toList), ∀ ordinal,
      d.placeholder ordinal [] = d.placeholder ordinal o.name)
    (h : ∀ k < (occurrences (tokens reading template.toList)).length, repeats k ≠ 0) :
    ∃ middle rendered, render reading template .question repeats = .ok middle ∧
      render reading template d repeats = .ok rendered ∧
      rebind d middle.sql = .ok rendered.sql := by
  have hwrite := write_rebound (divides_tokens reading template.toList) hquestion
    (firstEmpty?_eq_none h) hnames 0 0 0
  refine ⟨_, _, render_of_written _ _ _ _ h, render_of_written _ _ _ _ h, ?_⟩
  rw [rebind, hd, if_neg Bool.false_ne_true,
    render_of_written _ _ d .once fun _ _ => Nat.one_ne_zero, String.toList_ofList, hwrite]
  rfl

/-- **Question marks are a faithful form in between.** A template with named parameters and without
question marks, in the dialects that number their placeholders, and a positional template without
placeholders of the dialect's own form, in every dialect: rendered with question marks and rebound
then, they are what they are rendered as at once. -/
theorem renders_by_question_marks (template : String) (d : Dialect) (repeats : Repeats) :
    ('?' ∉ template.toList → d.isNumbered = true →
      (∀ k < (occurrences (tokens .named template.toList)).length, repeats k ≠ 0) →
      ∃ middle rendered, renderNamed template .question repeats = .ok middle ∧
        renderNamed template d repeats = .ok rendered ∧
        rebind d middle.sql = .ok rendered.sql) ∧
    (WithoutOwnForm d template.toList →
      (∀ k < (occurrences (tokens (.positional d) template.toList)).length, repeats k ≠ 0) →
      ∃ middle rendered, renderPositional template .question repeats = .ok middle ∧
        renderPositional template d repeats = .ok rendered ∧
        rebind d middle.sql = .ok rendered.sql) := by
  constructor
  · intro hquestion hd h
    refine rebind_rendered ?_ ((divides_tokens _ _).question_not_mem fun _ => hquestion) ?_ h
    · cases d <;> first | rfl | cases hd
    · intro o _ ordinal
      cases d <;> first | rfl | cases hd
  · intro hfree h
    have htokens := tokens_of_withoutOwnForm hfree
    have hdivides := divides_tokens (.positional .question) template.toList
    rw [htokens] at h
    have hsame : renderPositional template d repeats =
        render (.positional .question) template d repeats := by
      rw [renderPositional, render, htokens, render]
    rw [hsame]
    cases hd : d.isQuestion with
    | true =>
      -- the dialect writes question marks, and takes the text as it is
      refine ⟨_, _, render_of_filled _ _ _ _ h, render_of_filled _ _ _ _ h, ?_⟩
      rw [rebind, hd, if_pos rfl]
      cases d with
      | question => rfl
      | unknown => rfl
      | _ => cases hd
    | false =>
      refine rebind_rendered hd (hdivides.question_not_mem nofun) ?_ h
      intro o ho ordinal
      rw [name_of_mem_occurrences_question hdivides o ho]

/-- Both ways for a parameter that becomes two, beside a cast and a run of blanks, and for question
marks beside what is no ordinal. -/
theorem renders_by_question_marks_of_two :
    let named := "a IN (:ids)  OR b::::int = :b"
    let positional := "a IN (?)\tOR b = $?"
    let repeats := Repeats.ofArray #[2]
    '?' ∉ named.toList ∧ WithoutOwnForm .dollar positional.toList ∧
      (∀ k < (occurrences (tokens .named named.toList)).length, repeats k ≠ 0) ∧
      (∀ k < (occurrences (tokens (.positional .dollar) positional.toList)).length,
        repeats k ≠ 0) ∧
      (∃ middle rendered, renderNamed named .question repeats = .ok middle ∧
        renderNamed named .dollar repeats = .ok rendered ∧
        rebind .dollar middle.sql = .ok rendered.sql ∧
        middle.sql = "a IN (?,?) OR b::int = ?" ∧ rendered.sql = "a IN ($1,$2) OR b::int = $3") ∧
      ∃ middle rendered, renderPositional positional .question repeats = .ok middle ∧
        renderPositional positional .dollar repeats = .ok rendered ∧
        rebind .dollar middle.sql = .ok rendered.sql ∧
        middle.sql = "a IN (?,?) OR b = $?" ∧ rendered.sql = "a IN ($1,$2) OR b = $$3" := by
  intro named positional repeats
  have hfilled : ∀ k < 2, repeats k ≠ 0 := by decide
  have hnamed : ∀ k < (occurrences (tokens .named named.toList)).length, repeats k ≠ 0 := by
    have hlength : (occurrences (tokens .named named.toList)).length = 2 := by decide +kernel
    rwa [hlength]
  have hpositional : ∀ k < (occurrences (tokens (.positional .dollar) positional.toList)).length,
      repeats k ≠ 0 := by
    have hlength : (occurrences (tokens (.positional .dollar) positional.toList)).length = 2 := by
      decide +kernel
    rwa [hlength]
  have hdigits : ∀ c ∈ positional.toList, ¬ c.isDigit = true := List.any_eq_false.mp (by decide)
  have hfree : WithoutOwnForm .dollar positional.toList :=
    { dollar := fun _ c hc hin => hdigits c (hin.subset (by simp)) hc
      atSign := fun hd => absurd hd (by decide)
      named := fun hd => absurd hd (by decide) }
  have hquestion : '?' ∉ named.toList := by decide
  obtain ⟨middle, rendered, hmiddle, hrendered, hrebound⟩ :=
    (renders_by_question_marks named .dollar repeats).1 hquestion rfl hnamed
  obtain ⟨middle', rendered', hmiddle', hrendered', hrebound'⟩ :=
    (renders_by_question_marks positional .dollar repeats).2 hfree hpositional
  have hvalue : renderNamed named .question repeats =
      .ok ⟨"a IN (?,?) OR b::int = ?", ["ids", "b"], 3⟩ := by decide +kernel
  have hvalue' : renderPositional positional .question repeats =
      .ok ⟨"a IN (?,?) OR b = $?", ["", ""], 3⟩ := by decide +kernel
  have hat : renderNamed named .dollar repeats =
      .ok ⟨"a IN ($1,$2) OR b::int = $3", ["ids", "b"], 3⟩ := by decide +kernel
  have hat' : renderPositional positional .dollar repeats =
      .ok ⟨"a IN ($1,$2) OR b = $$3", ["", ""], 3⟩ := by decide +kernel
  obtain rfl := Except.ok.inj (hmiddle.symm.trans hvalue)
  obtain rfl := Except.ok.inj (hmiddle'.symm.trans hvalue')
  obtain rfl := Except.ok.inj (hrendered.symm.trans hat)
  obtain rfl := Except.ok.inj (hrendered'.symm.trans hat')
  exact ⟨hquestion, hfree, hnamed, hpositional, ⟨_, _, hmiddle, hrendered, hrebound, rfl, rfl⟩,
    ⟨_, _, hmiddle', hrendered', hrebound', rfl, rfl⟩⟩

end Rowbind.Template
