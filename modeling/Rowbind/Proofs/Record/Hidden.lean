import Rowbind.Binding.Argument
import Rowbind.Proofs.Record.Storing

/-!
# Hidden fields

A field is hidden that is skipped, or whose tag is a hyphen; a hidden record hides whatever is below
it. So a path through a type's fields is hidden where it passes a hidden field (`HiddenAt`), and
visible where it passes none (`VisibleAt`), and no hidden path leads on to a visible one
(`HiddenAt.not_prefix`).

The paths of field maps are visible, whatever collides on the way (`FieldMap.visible_of_path?`). So
what parameters read of a record is settled by its visible fields (`Record.Agree`), and storing
along such a path leaves the cells at hidden paths (`keepsHidden_scanAt`): it changes the cell at
its end and sets the records before it, and all of these lie on the path itself.
-/

namespace Rowbind

/-! ## Hidden and visible -/

/-- **Whether a field is hidden** from whoever calls fields by a tag. -/
def Field.IsHidden (f : Field) (tag : String) : Prop := f.kind = .skip ∨ f.tag? tag = some "-"

instance (f : Field) (tag : String) : Decidable (f.IsHidden tag) :=
  inferInstanceAs (Decidable (_ ∨ _))

/-- The fields without a key are the hidden ones. -/
theorem Field.key?_eq_none_iff {f : Field} {tag : String} {rename : String → String} :
    f.key? tag rename = none ↔ f.IsHidden tag := by
  rw [Field.key?, Field.IsHidden]
  by_cases hskip : f.kind = .skip
  · rw [if_pos hskip]
    exact ⟨fun _ => .inl hskip, fun _ => rfl⟩
  · rw [if_neg hskip, or_iff_right hskip]
    cases f.tag? tag with
    | none => exact iff_of_false (Option.some_ne_none _) (Option.some_ne_none _).symm
    | some t =>
      rw [Option.some_inj]
      by_cases hhyphen : t = "-"
      · exact ⟨fun _ => hhyphen, fun _ => if_pos hhyphen⟩
      · have hkey : (if t = "" then some (rename f.name) else some t) ≠ none := by
          split <;> exact Option.some_ne_none _
        simp only [if_neg hhyphen]
        exact ⟨fun h => absurd h hkey, fun h => absurd h hhyphen⟩

section

variable (schema : TypeId → Schema) (tag : String)

/-- **The paths to a type's visible fields**: no field on the way is hidden. -/
inductive VisibleAt : TypeId → Path → Prop
  | field {t : TypeId} {i : Nat} {f : Field} (hf : (schema t).fields[i]? = some f)
      (hvisible : ¬ f.IsHidden tag) : VisibleAt t [i]
  | within {t u : TypeId} {i : Nat} {f : Field} {embedded : Bool} {path : Path}
      (hf : (schema t).fields[i]? = some f) (hvisible : ¬ f.IsHidden tag)
      (hkind : f.kind = .record embedded u) (h : VisibleAt u path) : VisibleAt t (i :: path)

/-- **The paths to a type's hidden fields**, and to whatever is below them. -/
inductive HiddenAt : TypeId → Path → Prop
  | field {t : TypeId} {i : Nat} {f : Field} (hf : (schema t).fields[i]? = some f)
      (hhidden : f.IsHidden tag) (below : Path) : HiddenAt t (i :: below)
  | within {t u : TypeId} {i : Nat} {f : Field} {embedded : Bool} {path : Path}
      (hf : (schema t).fields[i]? = some f) (hkind : f.kind = .record embedded u)
      (h : HiddenAt u path) : HiddenAt t (i :: path)

end

variable {schema : TypeId → Schema} {tag : String} {t : TypeId} {path q : Path}

/-- **No hidden path leads on to a visible one.** The induction is on the hidden path. -/
theorem HiddenAt.not_prefix (hq : HiddenAt schema tag t q) (hpath : VisibleAt schema tag t path) :
    ¬ q <+: path := by
  induction hq generalizing path with
  | field hf hhidden below =>
    intro hprefix
    cases hpath with
    | field hf' hvisible =>
      obtain ⟨rfl, -⟩ := List.cons_prefix_cons.mp hprefix
      obtain rfl := Option.some.inj (hf.symm.trans hf')
      exact hvisible hhidden
    | within hf' hvisible hkind h =>
      obtain ⟨rfl, -⟩ := List.cons_prefix_cons.mp hprefix
      obtain rfl := Option.some.inj (hf.symm.trans hf')
      exact hvisible hhidden
  | within hf hkind h ih =>
    intro hprefix
    cases hpath with
    | field hf' hvisible =>
      obtain ⟨-, hrest⟩ := List.cons_prefix_cons.mp hprefix
      rw [List.prefix_nil.mp hrest] at h
      cases h
    | within hf' hvisible hkind' hpath =>
      obtain ⟨rfl, hrest⟩ := List.cons_prefix_cons.mp hprefix
      obtain rfl := Option.some.inj (hf.symm.trans hf')
      rw [hkind] at hkind'
      cases hkind'
      exact ih hpath hrest

/-! ## The paths of field maps -/

namespace FieldMap

variable {w : Walk} {root : TypeId} {turns : List Turn} {qualifier key : String}

theorem Walk.Shows.visible {i : Nat} {f : Field} (h : w.Shows t i f key) :
    ¬ f.IsHidden w.tag := by
  intro hhidden
  have hkey := h.2
  rw [Field.key?_eq_none_iff.mpr hhidden] at hkey
  cases hkey

/-- Behind turns, what is visible in the record that they lead into is visible. -/
theorem Walk.Enters.visible (h : w.Enters root turns t qualifier)
    (hpath : VisibleAt w.schema w.tag t path) :
    VisibleAt w.schema w.tag root (pathOf turns ++ path) := by
  induction h generalizing path with
  | root => exact hpath
  | named _ hshows hkind ih =>
    rw [pathOf_append, List.append_assoc]
    exact ih (.within hshows.1 hshows.visible hkind hpath)
  | unnamed _ hshows hkind ih =>
    rw [pathOf_append, List.append_assoc]
    exact ih (.within hshows.1 hshows.visible hkind hpath)

/-- **The path of a key is visible.** -/
theorem visible_of_path? {c : Catalog} {rule : KeyRule}
    (h : (FieldMap.of c root rule).path? key = some path) :
    VisibleAt c.schema rule.tag root path := by
  obtain ⟨turns, ⟨hderives, -⟩, rfl, -⟩ := path?_eq_some_iff.mp h
  cases hderives with
  | scalar henters hshows hkind =>
    rw [pathOf_append]
    exact henters.visible (.field hshows.1 hshows.visible)

end FieldMap

/-! ## Reading visible fields -/

/-- What is seen of a field itself; the fields of a nested record are fields of their own. -/
def FieldView.outline : FieldView → FieldView
  | .record _ => .record []
  | seen => seen

/-- **Whether two records agree on their visible fields.** -/
structure Record.Agree (c : Catalog) (tag : String) (r r' : Record) : Prop where
  type : r.type = r'.type
  reads : ∀ path, VisibleAt c.schema tag r.type path →
    (fieldAt r.cells path).map FieldView.outline = (fieldAt r'.cells path).map FieldView.outline

/-- What a parameter stands for does not hang on what is in a nested record. -/
theorem ofRecord_outline (c : Catalog) (o : Options) (r : Record) (name : String) :
    Source.ofRecord c o r name =
      match (((FieldMap.of c r.type o.paramRule).path? name).bind (fieldAt r.cells)).map
        FieldView.outline with
      | some (.value v) => some v
      | some .absent => some .null
      | _ => none := by
  simp only [Source.ofRecord]
  generalize ((FieldMap.of c r.type o.paramRule).path? name).bind (fieldAt r.cells) = seen
  rcases seen with _ | (v | cells | _) <;> rfl

/-- **Parameters stand for the same in records that agree.** -/
theorem Record.Agree.ofRecord {c : Catalog} {o : Options} {r r' : Record}
    (h : r.Agree c o.tag r') : Source.ofRecord c o r = Source.ofRecord c o r' := by
  funext name
  rw [ofRecord_outline, ofRecord_outline, ← h.type]
  cases hpath : (FieldMap.of c r.type o.paramRule).path? name with
  | none => rfl
  | some path =>
    rw [Option.bind_some, Option.bind_some, h.reads path (FieldMap.visible_of_path? hpath)]

/-! ## Storing along visible paths -/

/-- The cell at the end of a path. -/
def cellAt : List Cell → Path → Option Cell
  | _, [] => none
  | cells, [i] => cells[i]?
  | cells, i :: j :: path =>
    match cells[i]? with
    | some (.record inner) => cellAt inner (j :: path)
    | _ => none

variable {c : Catalog} {cells inner : List Cell} {cell : Cell} {i : Nat} {v : Value}

theorem cellAt_record (hcell : cells[i]? = some (.record inner)) (hpath : path ≠ []) :
    cellAt cells (i :: path) = cellAt inner path := by
  cases path with
  | nil => exact absurd rfl hpath
  | cons j path => rw [cellAt, hcell]

theorem cellAt_set_ne {j : Nat} (hne : j ≠ i) :
    cellAt (cells.set i cell) (j :: path) = cellAt cells (j :: path) := by
  cases path with
  | nil => exact List.getElem?_set_ne hne.symm
  | cons k path => rw [cellAt, cellAt, List.getElem?_set_ne hne.symm]

/-- Where a path of several steps ends in a cell, the first leads into a record. -/
theorem exists_record_of_cellAt (h : cellAt cells (i :: path) = some cell) (hpath : path ≠ []) :
    ∃ inner, cells[i]? = some (.record inner) ∧ cellAt inner path = some cell := by
  cases path with
  | nil => exact absurd rfl hpath
  | cons j path =>
    rw [cellAt] at h
    split at h
    · exact ⟨_, ‹_›, h⟩
    · cases h

/-- **A cell that does not lie on a path stays when a value is stored along it.** The induction is
on the path. -/
theorem cellAt_scanAt (hcell : cellAt cells q = some cell) (hq : ¬ q <+: path) :
    cellAt (scanAt c v cells path).2 q = some cell := by
  induction path generalizing cells q with
  | nil => exact hcell
  | cons i path ih =>
    cases q with
    | nil => cases hcell
    | cons j q =>
      by_cases hj : j = i
      · subst hj
        have hq' : ¬ q <+: path := fun h => hq (List.cons_prefix_cons.mpr ⟨rfl, h⟩)
        have hne : q ≠ [] := by
          rintro rfl
          exact hq' List.nil_prefix
        obtain ⟨inner, hinner, hcell⟩ := exists_record_of_cellAt hcell hne
        rw [scanAt_record hinner, cellAt_record (getElem?_set_of_eq_some hinner) hne]
        exact ih hcell hq'
      · rw [scanAt]
        split
        · exact hcell
        · exact hcell
        · rwa [cellAt_set_ne hj]
        · rwa [cellAt_set_ne hj]
        · split
          · rwa [cellAt_set_ne hj]
          · exact hcell

/-- **Whether the hidden cells of a record of a type stay as they are.** -/
def KeepsHidden (schema : TypeId → Schema) (tag : String) (t : TypeId)
    (cells cells' : List Cell) : Prop :=
  ∀ q cell, HiddenAt schema tag t q → cellAt cells q = some cell → cellAt cells' q = some cell

theorem KeepsHidden.refl : KeepsHidden schema tag t cells cells := fun _ _ _ h => h

theorem KeepsHidden.trans {cells₁ cells₂ : List Cell} (h : KeepsHidden schema tag t cells cells₁)
    (h' : KeepsHidden schema tag t cells₁ cells₂) : KeepsHidden schema tag t cells cells₂ :=
  fun q cell hq hcell => h' q cell hq (h q cell hq hcell)

/-- Storing along a visible path keeps what is hidden. -/
theorem keepsHidden_scanAt (hpath : VisibleAt schema tag t path) :
    KeepsHidden schema tag t cells (scanAt c v cells path).2 :=
  fun _ _ hq hcell => cellAt_scanAt hcell (hq.not_prefix hpath)

end Rowbind
