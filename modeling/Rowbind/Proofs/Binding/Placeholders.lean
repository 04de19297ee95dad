import Mathlib.Data.List.Chain
import Rowbind.Proofs.Binding.Resolution
import Rowbind.Proofs.Template.ReadingBack
import Rowbind.Proofs.Template.RepeatedGroup
import Rowbind.Record.Declaration

/-!
# The placeholders of a bound query

A query that comes out of binding is read once more, by the driver. When the template has nothing of
the driver's own syntax, the driver finds a placeholder for each value and no other, and where
placeholders are numbered, it finds them numbered as the values are (`bindNamed_placeholders`).

A batch's template is as plain as the template that it is made of (`PlainFor.repeatValuesGroup`):
the pieces of a plain template are plain, and what they are put together with, parentheses and
commas, is no part of any placeholder.
-/

namespace Rowbind

namespace Template

/-! ## Plain templates put together -/

/-- No two colons follow each other in a text exactly when they are nowhere next to each other. -/
theorem not_colons_iff (cs : List Char) :
    ¬ [':', ':'] <:+: cs ↔ cs.IsChain fun a b => ¬ (a = ':' ∧ b = ':') := by
  rw [List.isChain_iff_forall_rel_of_append_cons_cons]
  constructor
  · rintro h _ _ pre post rfl ⟨rfl, rfl⟩
    exact h ⟨pre, post, by simp only [List.append_assoc, List.cons_append, List.nil_append]⟩
  · rintro h ⟨pre, post, rfl⟩
    exact h (by simp only [List.append_assoc, List.cons_append, List.nil_append]; rfl) ⟨rfl, rfl⟩

/-- Two colons are on one side of a character that is none. -/
theorem not_colons_append_cons {c : Char} (hc : c ≠ ':') {pre post : List Char}
    (hpre : ¬ [':', ':'] <:+: pre) (hpost : ¬ [':', ':'] <:+: post) :
    ¬ [':', ':'] <:+: pre ++ c :: post := by
  rw [not_colons_iff] at hpre hpost ⊢
  refine hpre.append (hpost.cons fun b _ h => hc h.1) ?_
  intro a _ b hb h
  rw [List.head?_cons, Option.mem_some_iff] at hb
  exact hc (hb.trans h.2)

section PlainFor

variable {d : Dialect}

theorem plainFor_nil : PlainFor d [] where
  question := List.not_mem_nil
  dollar _ := List.not_mem_nil
  atSign _ := List.not_mem_nil
  colons _ h := absurd h.length_le (by decide)

/-- Plain texts around a character that stands alone are one plain text. -/
theorem PlainFor.append_cons {c : Char} (hc : standsAlone c = true) {pre post : List Char}
    (hpre : PlainFor d pre) (hpost : PlainFor d post) : PlainFor d (pre ++ c :: post) := by
  have hmem : ∀ sign ∈ signs, sign ∉ pre → sign ∉ post → sign ∉ pre ++ c :: post := by
    intro sign hsign hpre hpost h
    rcases List.mem_append.mp h with h | h
    · exact hpre h
    · rcases List.mem_cons.mp h with rfl | h
      · exact standsAlone.not_sign hc hsign
      · exact hpost h
  exact {
    question := hmem '?' (by decide) hpre.question hpost.question
    dollar := fun hd => hmem '$' (by decide) (hpre.dollar hd) (hpost.dollar hd)
    atSign := fun hd => hmem '@' (by decide) (hpre.atSign hd) (hpost.atSign hd)
    colons := fun hd =>
      not_colons_append_cons (standsAlone.ne_colon hc) (hpre.colons hd) (hpost.colons hd) }

/-- Plain texts around a plain text in parentheses are one plain text. -/
theorem PlainFor.parenthesised {pre group post : List Char} (h : Parenthesised group)
    (hpre : PlainFor d pre) (hgroup : PlainFor d group) (hpost : PlainFor d post) :
    PlainFor d (pre ++ group ++ post) := by
  obtain ⟨inner, rfl⟩ := h
  have hinner : PlainFor d inner :=
    hgroup.piece ⟨['('], [')'], by simp only [List.cons_append, List.nil_append]⟩
  rw [append_parenthesised]
  exact hpre.append_cons standsAlone_open (hinner.append_cons standsAlone_close hpost)

/-- A plain text is plain when it is repeated. -/
theorem PlainFor.repeated {group : List Char} (hgroup : PlainFor d group) (count : Nat) :
    PlainFor d (repeated group count) := by
  induction count using repeated.induct with
  | case1 => exact plainFor_nil
  | case2 => exact hgroup
  | case3 count hcount ih =>
    rw [Template.repeated]
    · exact hgroup.append_cons standsAlone_comma ih
    · exact hcount

/-- **A batch's template is plain when the template is.** -/
theorem PlainFor.repeatValuesGroup {template text : String} {count : Nat}
    (hplain : PlainFor d template.toList)
    (h : repeatValuesGroup template (count + 1) = .ok text) : PlainFor d text.toList := by
  obtain ⟨cut, -, hparts, hgroup, htext, -, -⟩ := repeatValuesGroup_parts h
  rw [hparts] at hplain
  have hown : PlainFor d cut.group := hplain.piece (List.infix_append _ _ _)
  have hbefore : PlainFor d cut.before := by
    refine hplain.piece ?_
    rw [List.append_assoc]
    exact List.infix_append_left
  have hafter : PlainFor d cut.after := hplain.piece List.infix_append_right
  rw [htext]
  exact hbefore.parenthesised (parenthesised_repeated hgroup count)
    (hown.repeated (count + 1)) hafter

end PlainFor

end Template

/-! ## What the driver finds -/

/-- A binding that succeeds has rendered its template, with a placeholder for each value. -/
theorem bindSources_rendered {d : Dialect} {template : String} {o : Options}
    {sources : List Source} {b : Bound} (h : bindSources d template o sources = .ok b) :
    ∃ repeats rendered, Template.renderNamed template d repeats = .ok rendered ∧
      b.sql = rendered.sql ∧ b.values.length = rendered.placeholders := by
  unfold bindSources at h
  obtain ⟨bound, -, h⟩ := bind_eq_ok.mp h
  obtain ⟨rendered, hrendered, h⟩ := bind_eq_ok.mp h
  simp only at h
  split at h
  · cases h
  · rename_i hcount
    cases h
    exact ⟨_, rendered, hrendered, rfl, (Decidable.not_not.mp hcount).symm⟩

/-- A named argument is bound to the template, or to the template repeated for the elements of a
batch, of which there is at least one. -/
theorem bindNamed_rendered {c : Catalog} {d : Dialect} {template : String} {argument : Argument}
    {o : Options} {b : Bound} (h : bindNamed c d template argument o = .ok b) :
    ∃ text sources, bindSources d text o sources = .ok b ∧
      (text = template ∨ ∃ count, Template.repeatValuesGroup template (count + 1) = .ok text) := by
  unfold bindNamed at h
  split at h
  · cases h
  · rename_i sources _
    split at h
    · split at h
      · cases h
      · rename_i hne
        obtain ⟨text, htext, h⟩ := bind_eq_ok.mp h
        obtain ⟨count, hcount⟩ : ∃ count, sources.length = count + 1 := by
          cases sources with
          | nil => exact absurd rfl hne
          | cons source sources => exact ⟨_, rfl⟩
        rw [hcount] at htext
        cases hrepeat : Template.repeatValuesGroup template (count + 1) with
        | error fault =>
          rw [hrepeat] at htext
          cases htext
        | ok repeated =>
          rw [hrepeat] at htext
          cases htext
          exact ⟨_, sources, h, .inr ⟨count, hrepeat⟩⟩
    · exact ⟨template, sources, h, .inl rfl⟩

/-- **The driver finds a placeholder for each value, and no other.** Where placeholders are
numbered, it finds them numbered from one, as the values are in order. -/
theorem bindNamed_placeholders {c : Catalog} {d : Dialect} {template : String}
    {argument : Argument} {o : Options} {b : Bound}
    (hplain : Template.PlainFor d template.toList)
    (h : bindNamed c d template argument o = .ok b) :
    Template.countPlaceholders b.sql d = b.values.length ∧
      (d.isNumbered = true → Template.placeholders d b.sql.toList =
        (List.range' 1 b.values.length).map (Nat.toDigits 10)) := by
  obtain ⟨text, sources, hbound, htext⟩ := bindNamed_rendered h
  obtain ⟨repeats, rendered, hrendered, hsql, hcount⟩ := bindSources_rendered hbound
  have hplain : Template.PlainFor d text.toList := by
    rcases htext with rfl | ⟨count, hrepeat⟩
    · exact hplain
    · exact hplain.repeatValuesGroup hrepeat
  rw [hsql, hcount]
  exact Template.renderNamed_readBack hplain hrendered

/-- A batch of two maps, with a list in the second: the driver finds the five placeholders. -/
theorem bindNamed_placeholders_of_two :
    let c := Catalog.ofDeclarations #[] fun _ name => name
    let template := "INSERT INTO t VALUES (:a., :b::int)"
    let batch := Argument.maps
      [[("a", .int 1), ("b", .null)], [("a", .list [.int 2, .int 3]), ("b", .int 4)]]
    ∃ b, Template.PlainFor .dollar template.toList ∧
      bindNamed c .dollar template batch {} = .ok b ∧
      Template.countPlaceholders b.sql .dollar = 5 ∧
      Template.placeholders .dollar b.sql.toList = [['1'], ['2'], ['3'], ['4'], ['5']] := by
  intro c template batch
  have hplain : Template.PlainFor .dollar template.toList :=
    ⟨by decide, fun _ => by decide, nofun, nofun⟩
  have hsources : batch.sources? c {} = some [.ofMap [("a", .int 1), ("b", .null)],
      .ofMap [("a", .list [.int 2, .int 3]), ("b", .int 4)]] := rfl
  have hrepeated : Template.repeatValuesGroup template 2 =
      .ok "INSERT INTO t VALUES (:a., :b::int),(:a., :b::int)" := by decide +kernel
  have hnames : Template.parameterNames
      "INSERT INTO t VALUES (:a., :b::int),(:a., :b::int)".toList = ["a", "b", "a", "b"] := by
    decide +kernel
  have hrendered : Template.renderNamed "INSERT INTO t VALUES (:a., :b::int),(:a., :b::int)"
      .dollar (.ofArray #[1, 1, 2, 1]) =
        .ok ⟨"INSERT INTO t VALUES ($1., $2:int),($3,$4., $5:int)", ["a", "b", "a", "b"], 5⟩ := by
    decide +kernel
  have hshare : ["a", "b", "a", "b"].length / 2 = 2 := rfl
  have hbound : bindNamed c .dollar template batch {} =
      .ok ⟨"INSERT INTO t VALUES ($1., $2:int),($3,$4., $5:int)",
        [.int 1, .null, .int 2, .int 3, .int 4]⟩ := by
    rw [bindNamed_of_repeated .dollar hsources rfl (List.cons_ne_nil _ _) hrepeated]
    exact bindSources_of_shares [[.int 1], [.null], [.int 2, .int 3], [.int 4]] hnames hshare rfl
      hrendered
  obtain ⟨hcount, hread⟩ := bindNamed_placeholders hplain hbound
  exact ⟨_, hplain, hbound, hcount, hread rfl⟩

end Rowbind
