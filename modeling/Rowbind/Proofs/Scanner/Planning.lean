import Rowbind.Proofs.Outcome
import Rowbind.Scanner.Plan

/-!
# When there is a plan

A plan for a record has the path of each column's field, and there is one unless a column without a
field is not to be passed over (`columnPaths_eq_ok_iff`); the first such column is reported
(`columnPaths_eq_error_iff`).

Columns that do not fit a destination are refused for one of three reasons (`Unfit`): the
destination is a list, it is a scalar and there is not one column, or it is a record in which a
column has no field. Where none of them holds there is a plan (`exists_plan_iff`).
-/

namespace Rowbind

section Columns

variable {m : FieldMap} {ignoreMissing : Bool} {target : String} {columns : List String}

/-- **Columns have paths** when each has a field or those without are passed over. -/
theorem columnPaths_eq_ok_iff {paths : List (Option Path)} :
    columnPaths m ignoreMissing target columns = .ok paths ↔
      paths = columns.map m.column? ∧
        (ignoreMissing = false → ∀ column ∈ columns, m.column? column ≠ none) := by
  induction columns generalizing paths with
  | nil => simp [columnPaths, eq_comm]
  | cons column columns ih =>
    rw [columnPaths]
    cases hcolumn : m.column? column with
    | some path =>
      simp only [map_eq_ok, ih, List.map_cons, hcolumn, List.forall_mem_cons]
      grind
    | none =>
      cases ignoreMissing with
      | true =>
        simp only [if_true, map_eq_ok, ih, List.map_cons, hcolumn]
        grind
      | false => simp [hcolumn]

/-- **The first column without a field is reported**, where such columns are not passed over. -/
theorem columnPaths_eq_error_iff {e : Error} :
    columnPaths m ignoreMissing target columns = .error e ↔
      ignoreMissing = false ∧ ∃ before column after, columns = before ++ column :: after ∧
        (∀ other ∈ before, m.column? other ≠ none) ∧ m.column? column = none ∧
        e = .unmappedColumn column target := by
  induction columns with
  | nil => simp [columnPaths]
  | cons first columns ih =>
    have hrest (path? : Option Path) :
        (columnPaths m ignoreMissing target columns).map (path? :: ·) = .error e ↔
          columnPaths m ignoreMissing target columns = .error e := by
      cases columnPaths m ignoreMissing target columns <;> simp [Except.map]
    rw [columnPaths]
    cases hfirst : m.column? first with
    | some path =>
      simp only [hrest, ih]
      refine and_congr_right fun _ => ⟨?_, ?_⟩
      · rintro ⟨before, column, after, rfl, hbefore, hcolumn, he⟩
        refine ⟨first :: before, column, after, rfl, ?_, hcolumn, he⟩
        exact List.forall_mem_cons.mpr ⟨by simp [hfirst], hbefore⟩
      · rintro ⟨before, column, after, hsplit, hbefore, hcolumn, he⟩
        cases before with
        | nil =>
          cases hsplit
          cases hfirst.symm.trans hcolumn
        | cons other before =>
          cases hsplit
          exact ⟨before, column, after, rfl, (List.forall_mem_cons.mp hbefore).2, hcolumn, he⟩
    | none =>
      cases ignoreMissing with
      | true => simp [hrest, ih]
      | false =>
        simp only [Bool.false_eq_true, if_false, Except.error.injEq, true_and]
        constructor
        · rintro rfl
          exact ⟨[], first, columns, rfl, nofun, hfirst, rfl⟩
        · rintro ⟨before, column, after, hsplit, hbefore, hcolumn, rfl⟩
          cases before with
          | nil =>
            cases hsplit
            rfl
          | cons other before =>
            cases hsplit
            exact absurd hfirst (hbefore _ List.mem_cons_self)

end Columns

/-! ## Plans -/

/-- **Why columns do not fit a destination**, and the error that says so. -/
inductive Unfit (c : Catalog) (o : Options) (columns : List String) (d : Destination) :
    Error → Prop
  /-- One row is not stored into a list. -/
  | list (hshape : d.shape = .list) : Unfit c o columns d (.usage .oneRowIntoList)
  /-- A scalar takes one column. -/
  | several (hshape : d.shape = .scalar) (hcolumns : columns.length ≠ 1) :
    Unfit c o columns d (.invalidColumns (.notSingle columns.length))
  /-- A column of a record has no field, the first one that has none. -/
  | unmapped {t : TypeId} {before after : List String} {column : String}
      (hshape : d.shape = .record t) (hkeep : o.ignoreMissingFields = false)
      (hcolumns : columns = before ++ column :: after)
      (hbefore : ∀ other ∈ before, (FieldMap.of c t o.columnRule).column? other ≠ none)
      (hcolumn : (FieldMap.of c t o.columnRule).column? column = none) :
    Unfit c o columns d (.unmappedColumn column (c.typeName t))

variable {c : Catalog} {o : Options} {columns : List String} {d : Destination}

/-- The plan for a record, where there is one. -/
theorem plan_record_eq_ok_iff {t : TypeId} {plan : RowPlan} :
    RowPlan.of c o columns (.record t) = .ok plan ↔
      plan = .record (columns.map (FieldMap.of c t o.columnRule).column?) ∧
        (o.ignoreMissingFields = false →
          ∀ column ∈ columns, (FieldMap.of c t o.columnRule).column? column ≠ none) := by
  simp only [RowPlan.of, map_eq_ok, columnPaths_eq_ok_iff]
  constructor
  · rintro ⟨paths, ⟨rfl, hmapped⟩, rfl⟩
    exact ⟨rfl, hmapped⟩
  · rintro ⟨rfl, hmapped⟩
    exact ⟨_, ⟨rfl, hmapped⟩, rfl⟩

/-- **Columns do not fit** where the destination is a list, or the plan for it fails, and as that
says. -/
theorem unfit_iff {e : Error} :
    Unfit c o columns d e ↔
      d.shape = .list ∧ e = .usage .oneRowIntoList ∨
        d.shape ≠ .list ∧ RowPlan.of c o columns d.shape = .error e := by
  constructor
  · intro h
    cases h with
    | list hshape => exact .inl ⟨hshape, rfl⟩
    | several hshape hcolumns => exact .inr (by simp [hshape, RowPlan.of, hcolumns])
    | @unmapped t before after column hshape hkeep hcolumns hbefore hcolumn =>
      have hpaths : columnPaths (FieldMap.of c t o.columnRule) o.ignoreMissingFields
          (c.typeName t) columns = .error (.unmappedColumn column (c.typeName t)) :=
        columnPaths_eq_error_iff.mpr ⟨hkeep, before, column, after, hcolumns, hbefore, hcolumn, rfl⟩
      refine .inr ⟨by simp [hshape], ?_⟩
      rw [hshape, RowPlan.of, hpaths]
      rfl
  · rintro (⟨hshape, rfl⟩ | ⟨hnot, hplan⟩)
    · exact .list hshape
    · cases hshape : d.shape with
      | list => exact absurd hshape hnot
      | map => simp [hshape, RowPlan.of] at hplan
      | scalar =>
        rw [hshape, RowPlan.of] at hplan
        split at hplan
        · cases hplan
        · cases hplan
          exact .several hshape ‹_›
      | record t =>
        rw [hshape, RowPlan.of] at hplan
        cases hpaths : columnPaths (FieldMap.of c t o.columnRule) o.ignoreMissingFields
            (c.typeName t) columns with
        | ok paths => simp [hpaths, Except.map] at hplan
        | error e' =>
          rw [hpaths] at hplan
          cases hplan
          obtain ⟨hkeep, before, column, after, hcolumns, hbefore, hcolumn, rfl⟩ :=
            columnPaths_eq_error_iff.mp hpaths
          exact .unmapped hshape hkeep hcolumns hbefore hcolumn

/-- **Columns that fit have a plan**, and no others. -/
theorem exists_plan_iff :
    (∃ plan, RowPlan.of c o columns d.shape = .ok plan) ↔ ∀ e, ¬ Unfit c o columns d e := by
  simp only [unfit_iff]
  cases hplan : RowPlan.of c o columns d.shape with
  | ok plan =>
    have hnot : d.shape ≠ .list := fun hshape => by simp [hshape, RowPlan.of] at hplan
    simp [hnot]
  | error e =>
    by_cases hshape : d.shape = .list
    · simp [hshape]
    · simp [hshape]

end Rowbind
