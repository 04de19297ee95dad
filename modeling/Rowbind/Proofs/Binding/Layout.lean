import Rowbind.Proofs.Binding.Placeholders
import Rowbind.Proofs.Template.FoldedGroup

/-!
# The layout of a bound template

How a template is laid out has no part in what it is bound to. Templates that differ only in their
runs of blanks are bound alike, to the same text with the same values or with the same error
(`bindNamed_layout`), so a cache of prepared statements holds one for all of them.

The step is from a template to its folding. A single argument is bound to the template's tokens, and
these are the folding's; a batch is bound to the template with its group repeated, which folds as
the group is repeated in the folding. The text that is sent comes out of a rendering, so it is
folded itself.
-/

namespace Rowbind

/-- Sources are bound to a template as to its folding. -/
theorem bindSources_foldText (d : Dialect) (template : String) (o : Options)
    (sources : List Source) :
    bindSources d (foldText template) o sources = bindSources d template o sources := by
  have hnames : Template.parameterNames (foldText template).toList =
      Template.parameterNames template.toList := by
    rw [foldText, String.toList_ofList, Template.parameterNames_foldBlanks]
  unfold bindSources
  simp only [hnames, Template.renderNamed, Template.render_foldText]

/-- **An argument is bound to a template as to its folding.** -/
theorem bindNamed_foldText (c : Catalog) (d : Dialect) (template : String) (argument : Argument)
    (o : Options) :
    bindNamed c d (foldText template) argument o = bindNamed c d template argument o := by
  unfold bindNamed
  split
  · rfl
  · rename_i sources _
    cases sources with
    | nil => simp only [bindSources_foldText]; rfl
    | cons source sources =>
      rw [List.length_cons, Template.repeatValuesGroup_foldText]
      cases Template.repeatValuesGroup template (sources.length + 1) with
      | error fault => simp only [bindSources_foldText]; rfl
      | ok text =>
        simp only [Except.map, Except.mapError, ok_bind, bindSources_foldText]

/-- The text that is sent for a named argument is folded. -/
theorem folded_bindNamed {c : Catalog} {d : Dialect} {template : String} {argument : Argument}
    {o : Options} {b : Bound} (h : bindNamed c d template argument o = .ok b) :
    Folded b.sql.toList := by
  obtain ⟨text, sources, hbound, -⟩ := bindNamed_rendered h
  obtain ⟨repeats, rendered, hrendered, hsql, -⟩ := bindSources_rendered hbound
  rw [hsql]
  exact Template.folded_render hrendered

/-- **Templates that differ only in their runs of blanks are bound alike**: to the same text and
values or with the same error, for one argument or a batch. The only blanks of the text are single
spaces. -/
theorem bindNamed_layout (c : Catalog) (d : Dialect) (argument : Argument) (o : Options)
    {template template' : String} (h : foldText template = foldText template') :
    bindNamed c d template argument o = bindNamed c d template' argument o ∧
      ∀ b, bindNamed c d template argument o = .ok b → Folded b.sql.toList := by
  refine ⟨?_, fun b => folded_bindNamed⟩
  rw [← bindNamed_foldText c d template, h, bindNamed_foldText]

/-- A batch is bound to a template over three lines as to the same template on one. -/
theorem bindNamed_layout_of_batch :
    let c := Catalog.ofDeclarations #[] fun _ name => name
    let batch := Argument.maps [[("a", .int 1)], [("a", .list [.int 2, .int 3])]]
    let lines := "INSERT INTO t\n\tVALUES\r\n(:a, \t :a::int)  "
    let line := "INSERT INTO t VALUES (:a, :a::int) "
    foldText lines = foldText line ∧
      bindNamed c .dollar lines batch {} =
        .ok ⟨"INSERT INTO t VALUES ($1, $2:int),($3,$4, $5,$6:int) ",
          [.int 1, .int 1, .int 2, .int 3, .int 2, .int 3]⟩ := by
  intro c batch lines line
  have hfold : foldText lines = foldText line := by decide +kernel
  have hsources : batch.sources? c {} =
      some [.ofMap [("a", .int 1)], .ofMap [("a", .list [.int 2, .int 3])]] := rfl
  have hrepeated : Template.repeatValuesGroup line 2 =
      .ok "INSERT INTO t VALUES (:a, :a::int),(:a, :a::int) " := by decide +kernel
  have hnames : Template.parameterNames
      "INSERT INTO t VALUES (:a, :a::int),(:a, :a::int) ".toList = ["a", "a", "a", "a"] := by
    decide +kernel
  have hrendered : Template.renderNamed "INSERT INTO t VALUES (:a, :a::int),(:a, :a::int) "
      .dollar (.ofArray #[1, 1, 2, 2]) =
        .ok ⟨"INSERT INTO t VALUES ($1, $2:int),($3,$4, $5,$6:int) ", ["a", "a", "a", "a"], 6⟩ := by
    decide +kernel
  have hshare : ["a", "a", "a", "a"].length / 2 = 2 := rfl
  refine ⟨hfold, ?_⟩
  rw [(bindNamed_layout c .dollar batch {} hfold).1,
    bindNamed_of_repeated .dollar hsources rfl (List.cons_ne_nil _ _) hrepeated]
  exact bindSources_of_shares [[.int 1], [.int 1], [.int 2, .int 3], [.int 2, .int 3]] hnames
    hshare rfl hrendered

end Rowbind
