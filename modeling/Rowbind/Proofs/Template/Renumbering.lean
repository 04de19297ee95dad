import Rowbind.Proofs.Template.Layout
import Rowbind.Proofs.Template.Rereading

/-!
# The numbers of a rendering

A dialect that numbers its placeholders numbers them from left to right, but a number is read with
every digit behind it. An ordinal of the template has none: it was itself read with all its digits.
A question mark may have some. So the numbers read are those written, and a second rendering changes
nothing, exactly when the template has no question mark directly before a digit (`renumbered_iff`).
-/

namespace Rowbind

open Text

namespace Template

/-! ## Numbers and what stands behind them -/

/-- **Placeholders in a row**, with consecutive ordinals and no digits behind them. -/
def numbered (d : Dialect) (first count : Nat) : List Occurrence :=
  (List.range' first count).map (d.reread · [] [])

/-- Whether no placeholder written takes a digit that was not written for it. -/
def NoOverrun (d : Dialect) (repeats : Repeats) (k written : Nat) : List Token → Prop
  | [] => True
  | .literal _ :: ts => NoOverrun d repeats k written ts
  | .placeholder _ :: ts =>
    d.overrun (write d repeats (k + 1) (written + repeats k) ts) = [] ∧
      NoOverrun d repeats (k + 1) (written + repeats k) ts

/-- **Whether no question mark stands directly before a digit.** -/
def QuestionsApart (cs : List Char) : Prop :=
  cs.IsChain fun a b => a = '?' → b.isDigit = false

/-- Any other character may stand before a digit. -/
theorem questionsApart_cons {c : Char} (hc : c ≠ '?') (cs : List Char) :
    QuestionsApart (c :: cs) ↔ QuestionsApart cs :=
  List.isChain_cons.trans (and_iff_right fun _ _ h => absurd h hc)

/-- A question mark stands apart from what follows it when no digit does. -/
theorem questionsApart_question (cs : List Char) :
    QuestionsApart ('?' :: cs) ↔ digitsAt cs = [] ∧ QuestionsApart cs := by
  refine List.isChain_cons.trans (and_congr_left fun _ => ?_)
  rw [digitsAt_eq_nil_iff]
  cases cs with
  | nil => simp
  | cons c cs => simp

/-- A text without question marks may stand before any text. -/
theorem questionsApart_append {pre : List Char} (h : '?' ∉ pre) (cs : List Char) :
    QuestionsApart (pre ++ cs) ↔ QuestionsApart cs := by
  induction pre with
  | nil => exact Iff.rfl
  | cons c pre ih =>
    have hc : c ≠ '?' := fun hc => h (hc ▸ List.mem_cons_self)
    rw [List.cons_append, questionsApart_cons hc, ih fun hmem => h (List.mem_cons_of_mem _ hmem)]

/-- A run of digits has no question mark in it. -/
theorem OrdinalBefore.question_not_mem {digits rest : List Char}
    (h : OrdinalBefore digits rest) : '?' ∉ digits := fun hmem =>
  absurd (h.isDigit _ hmem) (by decide)

/-! ## The numbers read -/

section Numbered

variable {d : Dialect} (hd : d.isNumbered = true)
include hd

theorem ne_named_of_isNumbered : d ≠ .named := by
  rintro rfl
  cases hd

theorem overrun_of_isNumbered (rest : List Char) : d.overrun rest = digitsAt rest := if_pos hd

/-- What a numbered placeholder is read as hangs on its ordinal alone. -/
theorem reread_of_isNumbered (ordinal : Nat) (name overrun : List Char) :
    d.reread ordinal name overrun = d.reread ordinal [] overrun := by
  cases d with
  | dollar => rfl
  | atSign => rfl
  | _ => cases hd

theorem name_reread_of_isNumbered (ordinal : Nat) (name overrun : List Char) :
    (d.reread ordinal name overrun).name = Nat.toDigits 10 ordinal ++ overrun := by
  cases d with
  | dollar => rfl
  | atSign => rfl
  | _ => cases hd

theorem map_name_numbered (first count : Nat) :
    (numbered d first count).map Occurrence.name =
      (List.range' first count).map (Nat.toDigits 10) := by
  rw [numbered, List.map_map]
  refine List.map_congr_left fun n _ => ?_
  rw [Function.comp_apply, name_reread_of_isNumbered hd, List.append_nil]

theorem rereadRow_nil (name : List Char) (first count : Nat) :
    rereadRow d name [] first count = numbered d first count := by
  induction first, count using rereadRow.induct with
  | case1 first => rfl
  | case2 first => exact congrArg (fun o => [o]) (reread_of_isNumbered hd first name [])
  | case3 first count hcount ih =>
    rw [rereadRow, ih, reread_of_isNumbered hd]
    · rfl
    · exact hcount

/-- A row that is read as its ordinals takes nothing of what is behind it. -/
theorem overrun_eq_nil_of_rereadRow {name overrun : List Char} {first count : Nat}
    (hcount : count ≠ 0) (h : (rereadRow d name overrun first count).map Occurrence.name =
      (List.range' first count).map (Nat.toDigits 10)) : overrun = [] := by
  induction first, count using rereadRow.induct with
  | case1 first => exact absurd rfl hcount
  | case2 first =>
    have hname := (List.cons.inj h).1
    rw [name_reread_of_isNumbered hd] at hname
    exact List.append_right_eq_self.mp hname
  | case3 first count hmore ih =>
    rw [rereadRow] at h
    · exact ih hmore (List.cons.inj h).2
    · exact hmore

/-- **Without overruns the placeholders are read as they are numbered.** -/
theorem reread_of_noOverrun {repeats : Repeats} {k w : Nat} {ts : List Token}
    (h : NoOverrun d repeats k w ts) :
    reread d repeats k w ts = numbered d (w + 1) (total repeats k (occurrences ts)) := by
  induction ts generalizing k w with
  | nil => rfl
  | cons t ts ih =>
    cases t with
    | literal c => exact ih h
    | placeholder o =>
      rw [reread, h.1, rereadRow_nil hd, ih h.2, occurrences, total, numbered, numbered, numbered,
        ← List.map_append, Nat.add_right_comm, List.range'_append_1]

/-- Placeholders that are read by the numbers from one on have no overruns. -/
theorem noOverrun_of_reread {repeats : Repeats} {k w : Nat} {ts : List Token}
    (hnone : firstEmpty? repeats k (occurrences ts) = none)
    (h : (reread d repeats k w ts).map Occurrence.name =
      (List.range' (w + 1) (total repeats k (occurrences ts))).map (Nat.toDigits 10)) :
    NoOverrun d repeats k w ts := by
  induction ts generalizing k w with
  | nil => trivial
  | cons t ts ih =>
    cases t with
    | literal c => exact ih hnone h
    | placeholder o =>
      obtain ⟨hcount, hnone⟩ := firstEmpty?_cons_eq_none.mp hnone
      rw [reread, occurrences, total, List.map_append, ← List.range'_append_1, List.map_append,
        Nat.add_right_comm] at h
      obtain ⟨hrow, hrest⟩ := List.append_inj h (by
        rw [List.length_map, length_rereadRow, List.length_map, List.length_range'])
      exact ⟨overrun_eq_nil_of_rereadRow hd hcount hrow, ih hnone hrest⟩

variable {repeats : Repeats} {k w : Nat} {cs : List Char} {ts : List Token}

/-- **A placeholder takes digits exactly behind a question mark that stands before one.** An ordinal
of the template was read with all its digits, so there are none left behind it. -/
theorem noOverrun_iff (h : Divides (.positional d) cs ts)
    (hnone : firstEmpty? repeats k (occurrences ts) = none) :
    NoOverrun d repeats k w ts ↔ QuestionsApart cs := by
  have hcolon := readsColon_positional (ne_named_of_isNumbered hd)
  induction h generalizing k w with
  | done => exact ⟨fun _ => .nil, fun _ => trivial⟩
  | blanks hne hrun hrest h ih =>
    rw [questionsApart_append fun hmem => absurd (hrun _ hmem) (by decide)]
    exact ih hnone
  | colons hreads h ih =>
    rw [hcolon] at hreads
    cases hreads
  | placeholder ho h ih =>
    obtain ⟨-, hnone⟩ := firstEmpty?_cons_eq_none.mp hnone
    rw [NoOverrun, overrun_of_isNumbered hd, h.digitsAt_write hnone]
    refine (and_congr_right fun _ => ih hnone).trans ?_
    cases ho with
    | question => exact (questionsApart_question _).symm
    | parameter hreads hname =>
      rw [hcolon] at hreads
      cases hreads
    | dollar hordinal =>
      rw [List.cons_append, questionsApart_cons (by decide),
        questionsApart_append hordinal.question_not_mem]
      exact and_iff_right (digitsAt_eq_nil_iff.mpr hordinal.ends)
    | atSign hp hordinal =>
      rw [List.cons_append, List.cons_append, questionsApart_cons (by decide),
        questionsApart_cons (by rintro rfl; exact absurd hp (by decide)),
        questionsApart_append hordinal.question_not_mem]
      exact and_iff_right (digitsAt_eq_nil_iff.mpr hordinal.ends)
  | literal hblank hcolons hstands h ih =>
    rw [questionsApart_cons (ne_question hstands)]
    exact ih hnone

/-! ## A second rendering -/

omit hd in
theorem total_once (k : Nat) (os : List Occurrence) : total .once k os = os.length := by
  induction os generalizing k with
  | nil => rfl
  | cons o os ih =>
    rw [total, ih, List.length_cons, Nat.add_comm]
    rfl

/-- **A folded text whose placeholders are numbered is written as it is.** -/
theorem write_of_numbered (hfolded : Folded cs) (h : Divides (.positional d) cs ts) {n : Nat}
    (hnumbered : occurrences ts = numbered d (w + 1) n) : write d .once k w ts = cs := by
  induction h generalizing k w n with
  | done => rfl
  | @blanks run rest ts hne hrun hrest h ih =>
    obtain rfl : run = [' '] := hfolded.eq_space hne hrun
    exact congrArg (' ' :: ·) (ih hfolded.right hnumbered)
  | colons hreads h ih =>
    rw [readsColon_positional (ne_named_of_isNumbered hd)] at hreads
    cases hreads
  | @placeholder o rest ts ho h ih =>
    cases n with
    | zero => cases hnumbered
    | succ n =>
      obtain ⟨hfirst, hothers⟩ := List.cons.inj hnumbered
      have hwritten : d.placeholder (w + 1) o.name = o.written := by
        have hsame := (reread_of_isNumbered hd (w + 1) o.name []).trans hfirst.symm
        exact (List.append_nil _).symm.trans (congrArg Occurrence.written hsame)
      show d.placeholder (w + 1) o.name ++ write d .once (k + 1) (w + 1) ts = o.written ++ rest
      rw [hwritten, ih hfolded.right hothers]
  | @literal c rest ts hblank hcolons hstands h ih =>
    have hrest : Folded rest := Folded.right (show Folded ([c] ++ rest) from hfolded)
    exact congrArg (c :: ·) (ih hrest hnumbered)

/-- A numbered placeholder has no question mark. -/
theorem question_not_mem_placeholder (ordinal : Nat) (name : List Char) :
    '?' ∉ d.placeholder ordinal name := by
  have hdigits : '?' ∉ Nat.toDigits 10 ordinal := fun hmem =>
    absurd (Nat.isDigit_of_mem_toDigits (by decide) (by decide) hmem) (by decide)
  cases d with
  | dollar => simpa [Dialect.placeholder] using hdigits
  | atSign => simpa [Dialect.placeholder] using hdigits
  | _ => cases hd

theorem question_not_mem_placeholderRow (name : List Char) (first count : Nat) :
    '?' ∉ placeholderRow d name first count := by
  induction first, count using placeholderRow.induct with
  | case1 first => exact List.not_mem_nil
  | case2 first => exact question_not_mem_placeholder hd first name
  | case3 first count hcount ih =>
    rw [placeholderRow]
    · intro hmem
      rcases List.mem_append.mp hmem with hmem | hmem
      · exact question_not_mem_placeholder hd first name hmem
      · exact ih (List.mem_of_ne_of_mem (by decide) hmem)
    · exact hcount

/-- No question mark is written. -/
theorem question_not_mem_write (h : Divides (.positional d) cs ts) :
    '?' ∉ write d repeats k w ts := by
  induction h generalizing k w with
  | done => exact List.not_mem_nil
  | blanks hne hrun hrest h ih => exact fun hmem => ih (List.mem_of_ne_of_mem (by decide) hmem)
  | colons hreads h ih => exact fun hmem => ih (List.mem_of_ne_of_mem (by decide) hmem)
  | placeholder ho h ih =>
    intro hmem
    rcases List.mem_append.mp hmem with hmem | hmem
    · exact question_not_mem_placeholderRow hd _ _ _ hmem
    · exact ih hmem
  | literal hblank hcolons hstands h ih =>
    exact fun hmem => ih (List.mem_of_ne_of_mem (ne_question hstands).symm hmem)

/-- What a rendering is read as, where every occurrence became some placeholder. -/
theorem placeholders_write_positional (h : Divides (.positional d) cs ts)
    (hnone : firstEmpty? repeats 0 (occurrences ts) = none) :
    placeholders d (write d repeats 0 0 ts) =
        (List.range' 1 (total repeats 0 (occurrences ts))).map (Nat.toDigits 10) ↔
      QuestionsApart cs := by
  have hd' := ne_named_of_isNumbered hd
  rw [placeholders, occurrences_write hd' h hnone, ← noOverrun_iff (w := 0) hd h hnone]
  constructor
  · exact noOverrun_of_reread hd hnone
  · intro hover
    rw [reread_of_noOverrun hd hover, map_name_numbered hd]

/-- **A second rendering changes nothing** exactly when the first one can be read. What was written
has no question mark, so what is written of it can be read in any case. -/
theorem write_write_iff (h : Divides (.positional d) cs ts)
    (hnone : firstEmpty? repeats 0 (occurrences ts) = none) :
    write d .once 0 0 (tokens (.positional d) (write d repeats 0 0 ts)) = write d repeats 0 0 ts ↔
      QuestionsApart cs := by
  let text := write d repeats 0 0 ts
  let os := occurrences (tokens (.positional d) text)
  have hos : os = reread d repeats 0 0 ts :=
    occurrences_write (ne_named_of_isNumbered hd) h hnone
  have hagain : Divides (.positional d) text (tokens (.positional d) text) := divides_tokens _ _
  have honce : firstEmpty? .once 0 os = none := firstEmpty?_eq_none fun _ _ => Nat.one_ne_zero
  constructor
  · intro hsame
    have hapart : QuestionsApart text := by
      rw [← List.append_nil text]
      exact (questionsApart_append (question_not_mem_write hd h) []).mpr .nil
    have htotal : total .once 0 os = total repeats 0 (occurrences ts) := by
      rw [total_once, hos, length_reread]
    have hread := (placeholders_write_positional hd hagain honce).mpr hapart
    rw [hsame, htotal] at hread
    exact (placeholders_write_positional hd h hnone).mp hread
  · intro hapart
    have hread := reread_of_noOverrun hd ((noOverrun_iff (w := 0) hd h hnone).mpr hapart)
    exact write_of_numbered hd (folded_write d h hnone) hagain (hos.trans hread)

/-- **When a renumbered template can be read as it was meant.** The numbers that the driver reads
are those written, and a second rendering changes nothing, exactly when the template has no question
mark directly before a digit. -/
theorem renumbered_iff {template : String}
    (h : ∀ k < (occurrences (tokens (.positional d) template.toList)).length, repeats k ≠ 0) :
    ∃ rendered, renderPositional template d repeats = .ok rendered ∧
      (placeholders d rendered.sql.toList =
          (List.range' 1 rendered.placeholders).map (Nat.toDigits 10) ↔
        QuestionsApart template.toList) ∧
      ((renderPositional rendered.sql d .once).map Rendered.sql = .ok rendered.sql ↔
        QuestionsApart template.toList) := by
  have hdivides := divides_tokens (.positional d) template.toList
  have hnone := firstEmpty?_eq_none h
  refine ⟨_, render_of_written _ _ _ _ h, ?_, ?_⟩
  · rw [String.toList_ofList]
    exact placeholders_write_positional hd hdivides hnone
  · have hagain := render_of_written (.positional d)
      (String.ofList (write d repeats 0 0 (tokens (.positional d) template.toList))) d .once
      fun _ _ => Nat.one_ne_zero
    rw [renderPositional, hagain, String.toList_ofList, ← write_write_iff hd hdivides hnone]
    exact ⟨fun heq => String.ofList_injective (Except.ok.inj heq),
      fun heq => congrArg (Except.ok ∘ String.ofList) heq⟩

end Numbered

/-- Ordinals and question marks side by side, the first placeholder three times: the four written
are read as one to four, and written again as they are. -/
theorem renumbered_iff_of_mixed :
    let template := "a IN ($7) OR  b=?"
    let repeats := Repeats.ofArray #[3]
    (∀ k < (occurrences (tokens (.positional .dollar) template.toList)).length, repeats k ≠ 0) ∧
      ∃ rendered, renderPositional template .dollar repeats = .ok rendered ∧
        rendered.sql = "a IN ($1,$2,$3) OR b=$4" ∧
        placeholders .dollar rendered.sql.toList = [['1'], ['2'], ['3'], ['4']] ∧
        (renderPositional rendered.sql .dollar .once).map Rendered.sql = .ok rendered.sql := by
  intro template repeats
  have hfilled : ∀ k < (occurrences (tokens (.positional .dollar) template.toList)).length,
      repeats k ≠ 0 := by
    intro k hk
    have hlength : (occurrences (tokens (.positional .dollar) template.toList)).length = 2 := by
      decide +kernel
    rcases (by omega : k = 0 ∨ k = 1) with rfl | rfl <;> decide
  have hapart : QuestionsApart template.toList := by
    unfold QuestionsApart
    decide
  obtain ⟨rendered, hrendered, hread, hagain⟩ := renumbered_iff rfl hfilled
  have hvalue : renderPositional template .dollar repeats =
      .ok ⟨"a IN ($1,$2,$3) OR b=$4", ["7", ""], 4⟩ := by decide +kernel
  obtain rfl := Except.ok.inj (hrendered.symm.trans hvalue)
  exact ⟨hfilled, _, hrendered, rfl, hread.mpr hapart, hagain.mpr hapart⟩

/-- **A question mark before a digit.** The one placeholder written is read as the fifteenth, and
written anew by the next rendering. -/
theorem question_before_digit :
    renderPositional "?5" .dollar .once = .ok ⟨"$15", [""], 1⟩ ∧
      placeholders .dollar "$15".toList = [['1', '5']] ∧
      placeholders .dollar "$15".toList ≠ (List.range' 1 1).map (Nat.toDigits 10) ∧
      (renderPositional "$15" .dollar .once).map Rendered.sql = .ok "$1" := by
  have hread : placeholders .dollar "$15".toList = [['1', '5']] := by decide +kernel
  refine ⟨by decide +kernel, hread, ?_, by decide +kernel⟩
  rw [hread]
  decide

end Template

end Rowbind
