import Rowbind.Proofs.Binding.Resolution
import Rowbind.Proofs.Template.Grammar
import Rowbind.Proofs.Template.Wording

/-!
# One template in every dialect

A dialect says how a placeholder is written. It has no say in where the placeholders are, what they
are called and what is bound to them: that is settled by the one reading that a template has
(`Reads`). So the renderings of a template differ in the rows of placeholders and in nothing else,
they fail alike, and a binding has the same values in every dialect or the same error
(`renderNamed_every_dialect`).
-/

namespace Rowbind

/-- The values of a binding are the shares of its occurrences, whatever the dialect. -/
theorem bindSources_values (d : Dialect) (template : String) (o : Options)
    (sources : List Source) :
    (bindSources d template o sources).map Bound.values =
      (resolveFrom o sources ((Template.parameterNames template.toList).length / sources.length) 0
        (Template.parameterNames template.toList)).map List.flatten := by
  rw [bindSources_eq]
  cases hresolve : resolveFrom o sources
      ((Template.parameterNames template.toList).length / sources.length) 0
      (Template.parameterNames template.toList) with
  | error e => rfl
  | ok shares =>
    obtain ⟨hlength, hshares⟩ := resolveFrom_spec hresolve
    obtain ⟨rendered, -, -, hbound⟩ := boundAs_eq d template hlength hshares
    rw [ok_bind, hbound]
    rfl

/-- **A named argument is bound as the same values in every dialect**, or fails alike. -/
theorem bindNamed_values (c : Catalog) (d d' : Dialect) (template : String) (argument : Argument)
    (o : Options) :
    (bindNamed c d template argument o).map Bound.values =
      (bindNamed c d' template argument o).map Bound.values := by
  have hsources : ∀ text sources, (bindSources d text o sources).map Bound.values =
      (bindSources d' text o sources).map Bound.values := fun text sources =>
    (bindSources_values d text o sources).trans (bindSources_values d' text o sources).symm
  unfold bindNamed
  cases argument.sources? c o with
  | none => rfl
  | some sources =>
    simp only
    split
    · split
      · rfl
      · cases Template.repeatValuesGroup template sources.length with
        | error fault => rfl
        | ok repeated => exact hsources repeated sources
    · exact hsources template sources

namespace Template

/-- **A template is the same in every dialect.** It reads in one way; each rendering is the tokens
read, with a row of placeholders in the place of each occurrence, numbered on from one; a rendering
fails exactly where an occurrence would become no placeholder, and reports the first one; and what
is bound to the placeholders hangs on no dialect. -/
theorem renderNamed_every_dialect (template : String) :
    ∃ ts : List Token, (∀ us, Reads template.toList us ↔ us = ts) ∧
      (∀ (d : Dialect) (counts : Std.HashMap Nat Nat),
        ((∀ k < (occurrences ts).length, Repeats.ofMap counts k ≠ 0) →
          renderNamed template d (.ofMap counts) = .ok {
            sql := String.ofList (fill ts (rows d (.ofMap counts) (occurrences ts)))
            names := (occurrences ts).map fun o => String.ofList o.name
            placeholders :=
              ((List.range (occurrences ts).length).map (Repeats.ofMap counts)).sum }) ∧
        ∀ e, renderNamed template d (.ofMap counts) = .error e ↔
          ∃ k o, (occurrences ts)[k]? = some o ∧ Repeats.ofMap counts k = 0 ∧
            (∀ j < k, Repeats.ofMap counts j ≠ 0) ∧
            e = .invalidTemplate (.emptyExpansion k (String.ofList o.written))) ∧
      ∀ (c : Catalog) (d d' : Dialect) (argument : Argument) (o : Options),
        (bindNamed c d template argument o).map Bound.values =
          (bindNamed c d' template argument o).map Bound.values := by
  refine ⟨tokens .named template.toList, fun us => reads_iff, fun d counts => ⟨?_, ?_⟩, ?_⟩
  · exact render_of_filled .named template d (.ofMap counts)
  · exact render_eq_error_iff .named template d (.ofMap counts)
  · exact fun c d d' argument o => bindNamed_values c d d' template argument o

theorem ofMap_empty (k : Nat) : Repeats.ofMap ∅ k = 1 := Std.HashMap.getD_empty

/-- A count that is given stands for its occurrence. -/
theorem ofMap_insert (counts : Std.HashMap Nat Nat) (k n j : Nat) :
    Repeats.ofMap (counts.insert k n) j = if k = j then n else Repeats.ofMap counts j := by
  simp only [Repeats.ofMap, Std.HashMap.getD_insert, beq_iff_eq]

/-- The second of two parameters becomes three placeholders: in two dialects, and refused where the
first one is to become none. -/
theorem renderNamed_every_dialect_of_two :
    let template := "a = :a. AND b IN (:b)"
    renderNamed template .dollar (.ofMap {(1, 3)}) =
        .ok ⟨"a = $1. AND b IN ($2,$3,$4)", ["a", "b"], 4⟩ ∧
      renderNamed template .question (.ofMap {(1, 3)}) =
        .ok ⟨"a = ?. AND b IN (?,?,?)", ["a", "b"], 4⟩ ∧
      renderNamed template .dollar (.ofMap {(1, 3), (0, 0)}) =
        .error (.invalidTemplate (.emptyExpansion 0 ":a")) := by
  intro template
  obtain ⟨ts, hreads, hrender, -⟩ := renderNamed_every_dialect template
  obtain rfl : tokens .named template.toList = ts := (hreads _).mp (reads_tokens _)
  have hone : Repeats.ofMap {(1, 3)} = fun k => if 1 = k then 3 else 1 :=
    funext fun k => (ofMap_insert ∅ 1 3 k).trans (by rw [ofMap_empty])
  have hempty : Repeats.ofMap {(1, 3), (0, 0)} 0 = 0 :=
    (ofMap_insert {(0, 0)} 1 3 0).trans (ofMap_insert ∅ 0 0 0)
  have hfilled : ∀ k < (occurrences (tokens .named template.toList)).length,
      Repeats.ofMap {(1, 3)} k ≠ 0 := by
    intro k _
    rw [hone]
    simp only
    split <;> decide
  have hdollar := (hrender .dollar _).1 hfilled
  have hquestion := (hrender .question _).1 hfilled
  rw [hone] at hdollar hquestion ⊢
  refine ⟨hdollar.trans (by decide +kernel), hquestion.trans (by decide +kernel), ?_⟩
  refine ((hrender .dollar _).2 _).mpr ⟨0, ⟨[':', 'a'], ['a']⟩, by decide +kernel, hempty, ?_, rfl⟩
  exact fun j hj => absurd hj (Nat.not_lt_zero j)

end Template

end Rowbind
