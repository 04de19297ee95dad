import Mathlib.Data.List.Forall2
import Rowbind.Binding.Argument
import Rowbind.Proofs.Record.FieldPaths
import Rowbind.Proofs.Scanner.ReadingBack
import Rowbind.Proofs.Scanner.SingleRow
import Rowbind.Proofs.Scanner.StoredRow

/-!
# The paths of a field map work on every record

A record **conforms** to its type's description when scalars stand where scalars are described and
records where records are (`Record.Conforms`). An optional record need not be set; what it is set to
then is a new record of its type, and that has to conform as well.

The paths of a field map come from the description alone, and they lead to visible scalars. So in
every record that conforms, reading along one finds a value, unless an optional record on the way is
not set; storing along one reaches a scalar, whatever that makes of the value; and the record
conforms after that as before, so that the next column finds its scalar too
(`FieldMap.paths_work`).

What fits a declared type conforms (`Record.Fits.conforms`). To conform says less: not which type of
scalar a cell holds.
-/

namespace Rowbind

/-- **Whether a cell is what a field is described as.** An optional record need not be set, if its
type is `ready`. -/
inductive Cell.Conforms (c : Catalog) (ready : TypeId → Prop) : Cell → FieldKind → Prop
  | scalar (slot : Slot) : Conforms c ready (.scalar slot) .scalar
  | hidden (content : Value) : Conforms c ready (.hidden content) .skip
  | record {cells : List Cell} {embedded : Bool} {t : TypeId}
      (h : List.Forall₂ (fun cell f => Conforms c ready cell (Field.kind f)) cells
        (c.schema t).fields) : Conforms c ready (.record cells) (.record embedded t)
  | absent {embedded : Bool} {t : TypeId} (h : ready t) :
    Conforms c ready (.absent t) (.record embedded t)

/-- Whether cells are what the fields of a type are described as, one by one. -/
def CellsConform (c : Catalog) (ready : TypeId → Prop) (cells : List Cell) (t : TypeId) : Prop :=
  List.Forall₂ (fun cell f => cell.Conforms c ready f.kind) cells (c.schema t).fields

/-- **Whether a record conforms to its type's description**, and so do the new records of all types
of which an optional record is not set, in it or in these. -/
def Record.Conforms (c : Catalog) (r : Record) : Prop :=
  ∃ ready : TypeId → Prop, (∀ t, ready t → CellsConform c ready (c.recordType t).fresh t) ∧
    CellsConform c ready r.cells r.type

variable {c : Catalog} {ready : TypeId → Prop} {cell : Cell} {cells : List Cell} {t u : TypeId}
  {i : Nat} {f : Field} {embedded : Bool} {tag : String} {path : Path} {v : Value}

/-! ## One cell -/

theorem Cell.conforms_scalar : cell.Conforms c ready .scalar ↔ ∃ slot, cell = .scalar slot := by
  constructor
  · rintro ⟨slot⟩
    exact ⟨slot, rfl⟩
  · rintro ⟨slot, rfl⟩
    exact .scalar slot

theorem Cell.conforms_record : cell.Conforms c ready (.record embedded t) ↔
    (∃ inner, cell = .record inner ∧ CellsConform c ready inner t) ∨
      cell = .absent t ∧ ready t := by
  constructor
  · intro h
    cases h with
    | record h => exact .inl ⟨_, rfl, h⟩
    | absent h => exact .inr ⟨rfl, h⟩
  · rintro (⟨inner, rfl, h⟩ | ⟨rfl, h⟩)
    · exact .record h
    · exact .absent h

/-- There is a cell wherever a field is described. -/
theorem CellsConform.getElem? (h : CellsConform c ready cells t)
    (hf : (c.schema t).fields[i]? = some f) :
    ∃ cell, cells[i]? = some cell ∧ cell.Conforms c ready f.kind := by
  rw [CellsConform] at h
  generalize (c.schema t).fields = fields at h hf
  induction h generalizing i with
  | nil => cases hf
  | cons hcell _ ih =>
    cases i with
    | zero =>
      cases hf
      exact ⟨_, rfl, hcell⟩
    | succ i => exact ih hf

/-- Cells conform with another one that conforms in its place. -/
theorem CellsConform.set (h : CellsConform c ready cells t)
    (hf : (c.schema t).fields[i]? = some f) (hcell : cell.Conforms c ready f.kind) :
    CellsConform c ready (cells.set i cell) t := by
  rw [CellsConform] at h ⊢
  generalize (c.schema t).fields = fields at h hf ⊢
  induction h generalizing i with
  | nil => cases hf
  | cons hfirst hrest ih =>
    cases i with
    | zero =>
      cases hf
      exact .cons hcell hrest
    | succ i => exact .cons hfirst (ih hf)

/-! ## Records that fit -/

section

variable {declared : TypeId → Declaration}

/-- Cells that fit faithful declarations conform, one by one. The recursion is on the cells. -/
theorem CellsFit.forall₂_conforms (hc : c.Declares declared) : (cells : List Cell) →
    {fs : List FieldDeclaration} → CellsFit declared cells fs →
    (∀ f ∈ fs, f.content.Faithful ∧
      ∀ u embedded isOptional, f.content = .record u embedded isOptional false →
        Faithful declared u) →
    List.Forall₂ (fun cell f => cell.Conforms c (Faithful declared) f.content.kind) cells fs
  | [], [], _, _ => .nil
  | cell :: cells, f :: fs, ⟨hcell, hcells⟩, hfs => by
    obtain ⟨⟨hfaithful, hnested⟩, hrest⟩ := List.forall_mem_cons.mp hfs
    refine .cons ?_ (CellsFit.forall₂_conforms hc cells hcells hrest)
    cases hcontent : f.content with
    | scalar s =>
      rw [hcontent] at hcell
      obtain ⟨x, rfl⟩ := Cell.fits_scalar.mp hcell
      exact .scalar _
    | skip =>
      rw [hcontent] at hcell
      cases cell with
      | hidden content => exact .hidden content
      | _ => exact hcell.elim
    | record u embedded isOptional asScalar =>
      rw [hcontent] at hcell hfaithful
      obtain rfl : asScalar = false := hfaithful
      have hu := hnested u embedded isOptional hcontent
      cases cell with
      | record inner =>
        have hinner := CellsFit.forall₂_conforms hc inner hcell fun g hg =>
          ⟨hu.content hg, fun _ _ _ hrecord => hu.nested hg hrecord⟩
        refine .record ?_
        rw [hc.schema, Declaration.schema, List.forall₂_map_right_iff]
        exact hinner
      | absent u' =>
        obtain ⟨-, rfl⟩ := hcell
        exact .absent hu
      | _ => exact hcell.elim

/-- **A record that fits what its type declares conforms**, if each field is described as what it
holds and each type has a record at all. -/
theorem Record.Fits.conforms (hc : c.Declares declared) {r : Record} (h : r.Fits declared)
    (hfaithful : Faithful declared r.type)
    (hrecords : ∀ t, ∃ cells, CellsFit declared cells (declared t).fields) : r.Conforms c := by
  have hconform : ∀ t cells, Faithful declared t → CellsFit declared cells (declared t).fields →
      CellsConform c (Faithful declared) cells t := by
    intro t cells ht hcells
    rw [CellsConform, hc.schema, Declaration.schema, List.forall₂_map_right_iff]
    exact CellsFit.forall₂_conforms hc cells hcells fun f hf =>
      ⟨ht.content hf, fun _ _ _ hrecord => ht.nested hf hrecord⟩
  refine ⟨Faithful declared, fun t ht => ?_, hconform _ _ hfaithful h⟩
  obtain ⟨cells, hcells⟩ := hrecords t
  exact hconform _ _ ht (hc.fresh t cells hcells)

end

/-! ## Along a path -/

theorem ScalarAt.ne_nil {schema : TypeId → Schema} (h : ScalarAt schema tag t path) :
    path ≠ [] := by
  cases h <;> exact List.cons_ne_nil _ _

/-- **Reading along a path to a scalar finds a value**, unless an optional record on the way is not
set. -/
theorem CellsConform.reads (h : CellsConform c ready cells t)
    (hpath : ScalarAt c.schema tag t path) :
    fieldAt cells path = some .absent ∨ ∃ v, fieldAt cells path = some (.value v) := by
  induction hpath generalizing cells with
  | field hf _ hkind =>
    obtain ⟨cell, hcell, hconforms⟩ := h.getElem? hf
    rw [hkind] at hconforms
    obtain ⟨slot, rfl⟩ := Cell.conforms_scalar.mp hconforms
    exact .inr ⟨slot.toValue, fieldAt_singleton hcell⟩
  | within hf _ hkind hpath ih =>
    obtain ⟨cell, hcell, hconforms⟩ := h.getElem? hf
    rw [hkind] at hconforms
    rcases Cell.conforms_record.mp hconforms with ⟨inner, rfl, hinner⟩ | ⟨rfl, -⟩
    · rw [fieldAt_record hcell hpath.ne_nil]
      exact ih hinner
    · exact .inl (fieldAt_absent hcell)

/-- **Storing along a path to a scalar reaches it**, and leaves cells that conform. The induction is
on the path; an optional record that is not set on the way is set to a new one, which conforms. -/
theorem CellsConform.stores (hready : ∀ t, ready t → CellsConform c ready (c.recordType t).fresh t)
    (h : CellsConform c ready cells t) (hpath : ScalarAt c.schema tag t path) (v : Value) :
    (∃ answer, (scanAt c v cells path).1 = some answer) ∧
      CellsConform c ready (scanAt c v cells path).2 t := by
  induction hpath generalizing cells with
  | field hf _ hkind =>
    obtain ⟨cell, hcell, hconforms⟩ := h.getElem? hf
    rw [hkind] at hconforms
    obtain ⟨slot, rfl⟩ := Cell.conforms_scalar.mp hconforms
    rw [scanAt_scalar hcell]
    exact ⟨⟨_, rfl⟩, h.set hf (hkind ▸ .scalar _)⟩
  | @within t u i f embedded path hf _ hkind hpath ih =>
    obtain ⟨cell, hcell, hconforms⟩ := h.getElem? hf
    rw [hkind] at hconforms
    obtain ⟨inner, hinner, hstep⟩ : ∃ inner, CellsConform c ready inner u ∧
        scanAt c v cells (i :: path) =
          ((scanAt c v inner path).1, cells.set i (.record (scanAt c v inner path).2)) := by
      rcases Cell.conforms_record.mp hconforms with ⟨inner, rfl, hinner⟩ | ⟨rfl, hu⟩
      · exact ⟨inner, hinner, scanAt_record hcell⟩
      · exact ⟨_, hready u hu, scanAt_absent hcell⟩
    obtain ⟨hanswer, hinner'⟩ := ih hinner
    rw [hstep]
    exact ⟨hanswer, h.set hf (hkind ▸ .record hinner')⟩

/-! ## A row -/

/-- **Storing a row along paths to scalars fails for a value only**, and leaves cells that
conform. -/
theorem CellsConform.storesRow
    (hready : ∀ t, ready t → CellsConform c ready (c.recordType t).fresh t)
    (h : CellsConform c ready cells t) (target : String) {entries : List Entry}
    (hpaths : ∀ entry ∈ entries, ∀ path, entry.2 = some path → ScalarAt c.schema tag t path) :
    (∀ e, (storeRecord c target cells entries).1 = .error e →
        ∃ expected found, e = .conversion expected found) ∧
      CellsConform c ready (storeRecord c target cells entries).2 t := by
  induction entries generalizing cells with
  | nil => exact ⟨nofun, h⟩
  | cons entry entries ih =>
    obtain ⟨hfirst, hrest⟩ := List.forall_mem_cons.mp hpaths
    obtain ⟨⟨column, v⟩, _ | path⟩ := entry
    · exact ih h hrest
    · obtain ⟨⟨answer, hanswer⟩, hafter⟩ := h.stores hready (hfirst path rfl) v
      have hscan : scanAt c v cells path = (some answer, (scanAt c v cells path).2) :=
        Prod.ext hanswer rfl
      rw [storeRecord, hscan]
      cases answer with
      | ok => exact ih hafter hrest
      | error e =>
        refine ⟨?_, hafter⟩
        rintro _ ⟨⟩
        exact scanAt_error hanswer

/-- The paths of a row's columns lead to scalars. -/
theorem scalarAt_of_mem_rowEntries {rule : KeyRule} {columns : List String} {row : List Value}
    {entry : Entry} (hentry : entry ∈ rowEntries (FieldMap.of c t rule) columns row)
    (hpath : entry.2 = some path) : ScalarAt c.schema rule.tag t path := by
  obtain ⟨⟨column, v⟩, -, rfl⟩ := List.mem_map.mp hentry
  rcases Option.or_eq_some_iff.mp hpath with hpath | ⟨-, hpath⟩
  · exact (FieldMap.scalarAt_of_path? hpath).2.2
  · exact (FieldMap.scalarAt_of_path? hpath).2.2

/-- **Storing a row by a plan into a record that conforms** fails for the number of its values or
for one of them, and leaves a record that conforms. -/
theorem Record.Conforms.store {r : Record} (h : r.Conforms c) {o : Options}
    {columns : List String} {plan : RowPlan}
    (hplan : RowPlan.of c o columns (.record r.type) = .ok plan) (row : List Value) :
    (∀ e, (store c plan columns row (.record r)).1 = .error e →
        e = .invalidColumns (.rowWidth row.length columns.length) ∨
          ∃ expected found, e = .conversion expected found) ∧
      ∃ r' : Record, (store c plan columns row (.record r)).2 = .record r' ∧ r'.type = r.type ∧
        r'.Conforms c := by
  obtain ⟨ready, hready, hcells⟩ := h
  obtain ⟨rfl, -⟩ := plan_record_eq_ok_iff.mp hplan
  rw [Rowbind.store]
  split
  · refine ⟨?_, r, rfl, rfl, ready, hready, hcells⟩
    rintro _ ⟨⟩
    exact .inl rfl
  · obtain ⟨hfails, hafter⟩ := hcells.storesRow hready (c.typeName r.type)
      fun entry hentry path => scalarAt_of_mem_rowEntries hentry
    rw [← rowEntries_eq] at hfails hafter
    exact ⟨fun e he => .inr (hfails e he), _, rfl, rfl, ready, hready, hafter⟩

/-- **Every path of a field map works on every record of the type.** For every catalog, whichever
way its types lead on to each other, and every rule for keys:

* each path of the field map is between one and `maxDepth` fields long, leads through visible
  records and ends at a visible scalar;
* in a record that conforms, reading along it finds a value, unless an optional record on the way is
  not set, and storing along it reaches a scalar.

So where there is a plan, a row is stored unless it has too few or too many values or one that is
not taken: no column turns out to have no field. And a parameter is looked up under every key that
there is, and under no other: no key leads to a record. -/
theorem FieldMap.paths_work (c : Catalog) (t : TypeId) :
    (∀ rule key path, (FieldMap.of c t rule).path? key = some path →
      1 ≤ path.length ∧ path.length ≤ maxDepth ∧ ScalarAt c.schema rule.tag t path ∧
        ∀ r : Record, r.type = t → r.Conforms c →
          (fieldAt r.cells path = some .absent ∨ ∃ v, fieldAt r.cells path = some (.value v)) ∧
            ∀ v, ∃ answer, (scanAt c v r.cells path).1 = some answer) ∧
      ∀ (o : Options) (r : Record), r.type = t → r.Conforms c →
        (∀ columns plan row e, RowPlan.of c o columns (.record t) = .ok plan →
          (store c plan columns row (.record r)).1 = .error e →
          e = .invalidColumns (.rowWidth row.length columns.length) ∨
            ∃ expected found, e = .conversion expected found) ∧
          ∀ name, (∀ cells, ((FieldMap.of c t o.paramRule).path? name).bind (fieldAt r.cells) ≠
              some (.record cells)) ∧
            (Source.ofRecord c o r name = none ↔
              (FieldMap.of c t o.paramRule).path? name = none) := by
  refine ⟨fun rule key path hpath => ?_, ?_⟩
  · obtain ⟨hsome, hdeep, hscalar⟩ := scalarAt_of_path? hpath
    refine ⟨hsome, hdeep, hscalar, ?_⟩
    rintro r rfl ⟨ready, hready, hcells⟩
    exact ⟨hcells.reads hscalar, fun v => (hcells.stores hready hscalar v).1⟩
  · rintro o r rfl hr
    refine ⟨fun columns plan row e hplan he => (hr.store hplan row).1 e he, fun name => ?_⟩
    obtain ⟨ready, hready, hcells⟩ := hr
    simp only [Source.ofRecord]
    cases hpath : (FieldMap.of c r.type o.paramRule).path? name with
    | none => simp
    | some path =>
      rcases hcells.reads (scalarAt_of_path? hpath).2.2 with habsent | ⟨v, hv⟩
      · simp [habsent]
      · simp [hv]

/-- A new account, whose home is not set: nothing is read there yet, a value can be stored there,
and a parameter is looked up under its key. -/
theorem FieldMap.paths_work_of_account :
    let o : Options := { nameMapper := .identity, paramSeparator := "_" }
    let r := Record.new accountCatalog ⟨0⟩
    fieldAt r.cells [2, 0] = some .absent ∧
      (∃ answer, (scanAt accountCatalog (.text "51.5") r.cells [2, 0]).1 = some answer) ∧
      Source.ofRecord accountCatalog o r "home_lat" ≠ none ∧
      Source.ofRecord accountCatalog o r "home" = none := by
  intro o r
  have hrule : FieldMap.of accountCatalog ⟨0⟩ o.paramRule = FieldMap.build accountWalk ⟨0⟩ := rfl
  have hlat : (FieldMap.of accountCatalog ⟨0⟩ o.paramRule).path? "home_lat" = some [2, 0] := by
    rw [hrule, path?_account]
    decide
  have hhome : (FieldMap.of accountCatalog ⟨0⟩ o.paramRule).path? "home" = none := by
    rw [hrule, path?_account]
    decide
  have hr : r.Conforms accountCatalog := by
    refine ⟨(· = ⟨2⟩), ?_, .cons (.scalar _) (.cons (.record (.cons (.scalar _) .nil))
      (.cons (.absent rfl) (.cons (.hidden _) .nil)))⟩
    rintro _ rfl
    exact .cons (.scalar _) .nil
  obtain ⟨hpaths, hrecords⟩ := FieldMap.paths_work accountCatalog ⟨0⟩
  obtain ⟨-, -, -, hworks⟩ := hpaths _ _ _ hlat
  obtain ⟨-, hlooked⟩ := hrecords o r rfl hr
  refine ⟨rfl, (hworks r rfl hr).2 _, ?_, (hlooked "home").2.mpr hhome⟩
  rw [Ne, (hlooked "home_lat").2, hlat]
  exact Option.some_ne_none _

end Rowbind
