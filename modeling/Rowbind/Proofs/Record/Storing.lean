import Rowbind.Proofs.Record.Conformance
import Rowbind.Proofs.Record.Precedence

/-!
# Reading and storing along paths

Storing a value along one path leaves every value that is read along another as it was
(`fieldAt_scanAt_of_ne`). A value that is read from a record of a type is taken by every record of
that type: stored along the same path it is read there, and the record fits its type still
(`scanAt_of_read`). The induction is on the path; an optional record that is not set on the way is
set to a new one, which fits because the record that was read has one there.

The paths of a field map lead to scalars, unless an optional record on the way is not set
(`read_or_absent`): that is a fact about derivations, each turn of which goes into a record.
-/

namespace Rowbind

variable {c : Catalog} {declared : TypeId → Declaration} {cells inner : List Cell} {cell : Cell}
  {i : Nat} {path : Path} {v : Value}

/-! ## One step along a path -/

theorem fieldAt_singleton (hcell : cells[i]? = some cell) : fieldAt cells [i] = cell.view? := by
  rw [fieldAt, hcell, Option.bind_some]
  cases cell.view? <;> rfl

theorem fieldAt_record (hcell : cells[i]? = some (.record inner)) (hpath : path ≠ []) :
    fieldAt cells (i :: path) = fieldAt inner path := by
  simp [fieldAt, hcell, Cell.view?, hpath]

theorem fieldAt_absent {t : TypeId} (hcell : cells[i]? = some (.absent t)) :
    fieldAt cells (i :: path) = some .absent := by
  simp [fieldAt, hcell, Cell.view?]

theorem fieldAt_set_ne {j : Nat} (hne : j ≠ i) :
    fieldAt (cells.set i cell) (j :: path) = fieldAt cells (j :: path) := by
  rw [fieldAt, fieldAt, List.getElem?_set_ne hne.symm]

/-- Where a value is read, there is a scalar at the end, or a record that leads on. -/
theorem exists_of_fieldAt_eq_value (h : fieldAt cells (i :: path) = some (.value v)) :
    (path = [] ∧ ∃ slot : Slot, cells[i]? = some (.scalar slot) ∧ slot.toValue = v) ∨
      ∃ inner, cells[i]? = some (.record inner) ∧ path ≠ [] ∧
        fieldAt inner path = some (.value v) := by
  cases hcell : cells[i]? with
  | none => simp [fieldAt, hcell] at h
  | some cell =>
    cases cell with
    | scalar slot =>
      cases path with
      | nil =>
        rw [fieldAt_singleton hcell] at h
        cases h
        exact .inl ⟨rfl, slot, rfl, rfl⟩
      | cons => simp [fieldAt, hcell, Cell.view?] at h
    | record inner =>
      cases path with
      | nil =>
        rw [fieldAt_singleton hcell] at h
        cases h
      | cons j path =>
        have hpath := List.cons_ne_nil j path
        rw [fieldAt_record hcell hpath] at h
        exact .inr ⟨inner, rfl, hpath, h⟩
    | absent t =>
      rw [fieldAt_absent hcell] at h
      cases h
    | hidden content => simp [fieldAt, hcell, Cell.view?] at h

theorem scanAt_scalar {slot : Slot} (hcell : cells[i]? = some (.scalar slot)) :
    scanAt c v cells [i] = (some (slot.scan v).1, cells.set i (.scalar (slot.scan v).2)) := by
  rw [scanAt, hcell]
  rfl

theorem scanAt_record (hcell : cells[i]? = some (.record inner)) :
    scanAt c v cells (i :: path) =
      ((scanAt c v inner path).1, cells.set i (.record (scanAt c v inner path).2)) := by
  rw [scanAt, hcell]

theorem scanAt_absent {t : TypeId} (hcell : cells[i]? = some (.absent t)) :
    scanAt c v cells (i :: path) =
      ((scanAt c v (c.recordType t).fresh path).1,
        cells.set i (.record (scanAt c v (c.recordType t).fresh path).2)) := by
  rw [scanAt, hcell]

/-! ## Storing -/

/-- A cell put in the place of another stands there. -/
theorem getElem?_set_of_eq_some {cell' : Cell} (hcell : cells[i]? = some cell) :
    (cells.set i cell')[i]? = some cell' :=
  List.getElem?_set_self (List.getElem?_eq_some_iff.mp hcell).1

/-- **A value that is read along another path stays.** The induction is on the path stored along:
where the two part, what is stored is out of sight, and a scalar is the end of both. -/
theorem fieldAt_scanAt_of_ne {q : Path} {u : Value} (hread : fieldAt cells q = some (.value u))
    (hne : q ≠ path) : fieldAt (scanAt c v cells path).2 q = some (.value u) := by
  induction path generalizing cells q with
  | nil => exact hread
  | cons i path ih =>
    cases q with
    | nil => cases hread
    | cons j q =>
      by_cases hj : j = i
      · subst hj
        rcases exists_of_fieldAt_eq_value hread with
          ⟨rfl, slot, hcell, -⟩ | ⟨inner, hcell, hq, hinner⟩
        · cases path with
          | nil => exact absurd rfl hne
          | cons k path =>
            rw [scanAt, hcell]
            exact hread
        · rw [scanAt_record hcell, fieldAt_record (getElem?_set_of_eq_some hcell) hq]
          exact ih hinner fun h => hne (congrArg (j :: ·) h)
      · rw [scanAt]
        split
        · exact hread
        · exact hread
        · rwa [fieldAt_set_ne hj]
        · rwa [fieldAt_set_ne hj]
        · split
          · rwa [fieldAt_set_ne hj]
          · exact hread

/-- **A value that one record of a type reads along a path is taken by every other.** It is then
read there, and the record fits the type still. -/
theorem scanAt_of_read (hc : c.Declares declared) {t : TypeId} {source : List Cell}
    (hfaithful : Faithful declared t) (hsource : CellsFit declared source (declared t).fields)
    (hcells : CellsFit declared cells (declared t).fields)
    (hread : fieldAt source path = some (.value v)) :
    ∃ cells', scanAt c v cells path = (some (.ok ()), cells') ∧
      CellsFit declared cells' (declared t).fields ∧ fieldAt cells' path = some (.value v) := by
  induction path generalizing cells source t with
  | nil => cases hread
  | cons i path ih =>
    rcases exists_of_fieldAt_eq_value hread with
      ⟨rfl, ⟨s, x⟩, hsourceCell, rfl⟩ | ⟨inner, hsourceCell, hpath, hinner⟩
    · -- the end of the path: a scalar of one type in both records
      obtain ⟨f, hf, hfits⟩ := hsource.exists_field hsourceCell
      obtain ⟨cell, hcell, hcellFits⟩ := hcells.getElem? hf
      have hcontent : f.content = .scalar s := Cell.Fits.content_scalar hfits
      have hhas := hfaithful.content (List.mem_of_getElem? hf)
      rw [hcontent] at hcellFits hhas
      obtain ⟨y, rfl⟩ := Cell.fits_scalar.mp hcellFits
      obtain ⟨z, hscan, hz⟩ := s.scan_toValue hhas x
      have hstored : (⟨s, y⟩ : Slot).scan (s.toValue x) = (.ok (), ⟨s, z⟩) := by
        rw [Slot.scan, hscan]
      refine ⟨cells.set i (.scalar ⟨s, z⟩), ?_, ?_, ?_⟩
      · rw [scanAt_scalar hcell, Slot.toValue, hstored]
      · refine hcells.set hf ?_
        rw [hcontent]
        exact Cell.fits_scalar.mpr ⟨z, rfl⟩
      · rw [fieldAt_singleton (getElem?_set_of_eq_some hcell), Cell.view?, Slot.toValue, hz,
          Slot.toValue]
    · -- a record on the way: set in the one read, and here set or not
      obtain ⟨f, hf, hfits⟩ := hsource.exists_field hsourceCell
      obtain ⟨cell, hcell, hcellFits⟩ := hcells.getElem? hf
      obtain ⟨u, embedded, isOptional, asScalar, hcontent⟩ := Cell.Fits.content_record hfits
      have hnested := hfaithful.nested (List.mem_of_getElem? hf) hcontent
      rw [hcontent] at hfits hcellFits
      obtain ⟨within, hwithin, hstep⟩ : ∃ within, CellsFit declared within (declared u).fields ∧
          scanAt c v cells (i :: path) = ((scanAt c v within path).1,
            cells.set i (.record (scanAt c v within path).2)) := by
        rcases Cell.fits_record.mp hcellFits with ⟨within, rfl, hwithin⟩ | ⟨-, rfl⟩
        · exact ⟨within, hwithin, scanAt_record hcell⟩
        · exact ⟨_, hc.fresh u inner hfits, scanAt_absent hcell⟩
      obtain ⟨within', hscan, hfits', hread'⟩ := ih hnested hfits hwithin hinner
      refine ⟨cells.set i (.record within'), ?_, ?_, ?_⟩
      · rw [hstep, hscan]
      · refine hcells.set hf ?_
        rw [hcontent]
        exact hfits'
      · rwa [fieldAt_record (getElem?_set_of_eq_some hcell) hpath]

/-! ## The paths of field maps -/

namespace FieldMap

variable {w : Walk} {root t : TypeId} {turns : List Turn} {qualifier key : String}

/-- **What reading behind turns comes to**: reading a record of the type that they lead into, or
finding nothing. -/
def ReadsBehind (declared : TypeId → Declaration) (cells : List Cell) (turns : List Turn)
    (t : TypeId) : Prop :=
  (∀ path ≠ [], fieldAt cells (pathOf turns ++ path) = some .absent) ∨
    ∃ inner, CellsFit declared inner (declared t).fields ∧
      ∀ path ≠ [], fieldAt cells (pathOf turns ++ path) = fieldAt inner path

/-- A field that a declared type shows, as it is declared. -/
theorem Walk.Shows.exists_declared {f : Field} (hw : ∀ t, w.schema t = (declared t).schema)
    (h : w.Shows t i f key) :
    ∃ d, (declared t).fields[i]? = some d ∧ d.content.kind = f.kind := by
  have hf := h.1
  rw [hw, Declaration.schema, List.getElem?_map] at hf
  obtain ⟨d, hd, rfl⟩ := Option.map_eq_some_iff.mp hf
  exact ⟨d, hd, rfl⟩

/-- One more turn, with its key or without it, leads into a record that is nested. -/
theorem ReadsBehind.turn {u : TypeId} {f : Field} {embedded : Bool} (named : Bool)
    (hw : ∀ t, w.schema t = (declared t).schema) (hshows : w.Shows t i f key)
    (hkind : f.kind = .record embedded u) (hfaithful : Faithful declared t)
    (h : ReadsBehind declared cells turns t) :
    Faithful declared u ∧ ReadsBehind declared cells (turns ++ [⟨i, named⟩]) u := by
  obtain ⟨d, hd, hdkind⟩ := hshows.exists_declared hw
  have hmem := List.mem_of_getElem? hd
  obtain ⟨isOptional, hcontent⟩ := (hfaithful.content hmem).eq_record (hdkind.trans hkind)
  refine ⟨hfaithful.nested hmem hcontent, ?_⟩
  simp only [ReadsBehind, pathOf_append, List.append_assoc, List.singleton_append]
  rcases h with habsent | ⟨inner, hinner, hreads⟩
  · exact .inl fun path _ => habsent _ (List.cons_ne_nil i path)
  · obtain ⟨cell, hcell, hfits⟩ := hinner.getElem? hd
    rw [hcontent] at hfits
    rcases Cell.fits_record.mp hfits with ⟨within, rfl, hwithin⟩ | ⟨-, rfl⟩
    · refine .inr ⟨within, hwithin, fun path hpath => ?_⟩
      rw [hreads _ (List.cons_ne_nil i path), fieldAt_record hcell hpath]
    · refine .inl fun path _ => ?_
      rw [hreads _ (List.cons_ne_nil i path), fieldAt_absent hcell]

/-- What stands where turns lead into a record. The induction is on the turns. -/
theorem Walk.Enters.reads (hw : ∀ t, w.schema t = (declared t).schema)
    (hfaithful : Faithful declared root) (h : w.Enters root turns t qualifier)
    (hcells : CellsFit declared cells (declared root).fields) :
    Faithful declared t ∧ ReadsBehind declared cells turns t := by
  induction h with
  | root => exact ⟨hfaithful, .inr ⟨cells, hcells, fun path _ => rfl⟩⟩
  | named _ hshows hkind ih =>
    obtain ⟨hfaithful, hreads⟩ := ih
    exact hreads.turn true hw hshows hkind hfaithful
  | unnamed _ hshows hkind ih =>
    obtain ⟨hfaithful, hreads⟩ := ih
    exact hreads.turn false hw hshows hkind hfaithful

/-- **A derivation leads to a value**, unless an optional record on its way is not set. -/
theorem Walk.Derives.reads (hw : ∀ t, w.schema t = (declared t).schema)
    (hfaithful : Faithful declared root) (h : w.Derives root turns key)
    (hcells : CellsFit declared cells (declared root).fields) :
    fieldAt cells (pathOf turns) = some .absent ∨
      ∃ v, fieldAt cells (pathOf turns) = some (.value v) := by
  cases h with
  | @scalar turns t qualifier own i f henters hshows hkind =>
    obtain ⟨hfaithful, hreads⟩ := henters.reads hw hfaithful hcells
    rw [pathOf_append]
    rcases hreads with habsent | ⟨inner, hinner, hreads⟩
    · exact .inl (habsent [i] (List.cons_ne_nil i []))
    · obtain ⟨d, hd, hdkind⟩ := hshows.exists_declared hw
      obtain ⟨cell, hcell, hfits⟩ := hinner.getElem? hd
      obtain ⟨s, hcontent⟩ :=
        (hfaithful.content (List.mem_of_getElem? hd)).eq_scalar (hdkind.trans hkind)
      rw [hcontent] at hfits
      obtain ⟨x, rfl⟩ := Cell.fits_scalar.mp hfits
      right
      rw [hreads [i] (List.cons_ne_nil i []), fieldAt_singleton hcell]
      exact ⟨s.toValue x, rfl⟩

/-- **The path of a key leads to a value**, unless an optional record on its way is not set. -/
theorem read_or_absent {rule : KeyRule} (hc : c.Declares declared)
    (hfaithful : Faithful declared root)
    (hcells : CellsFit declared cells (declared root).fields)
    (hpath : (FieldMap.of c root rule).path? key = some path) :
    fieldAt cells path = some .absent ∨ ∃ v, fieldAt cells path = some (.value v) := by
  obtain ⟨turns, ⟨hderives, -⟩, rfl, -⟩ := path?_eq_some_iff.mp hpath
  exact hderives.reads hc.schema hfaithful hcells

end FieldMap

end Rowbind
