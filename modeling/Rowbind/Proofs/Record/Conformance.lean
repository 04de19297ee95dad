import Mathlib.Data.Finset.Card
import Mathlib.Logic.Relation
import Mathlib.Order.Monotone.Basic
import Rowbind.Proofs.Number.Widening
import Rowbind.Record.Declaration

/-!
# Records of their types

A record **fits** its declared type when each cell holds what its field is declared to hold, an
optional record possibly not being set (`CellsFit`). A catalog **declares** types when it describes
them as they are declared, and a new record fits its type wherever any record does
(`Catalog.Declares`).

A catalog made of declarations does so (`Catalog.ofDeclarations_declares`). Its new records are
built to the depth of the number of declarations, and that is deep enough: the types whose new
record fits at a depth become more with the depth, until they stay the same for good.

What a scalar holds is scanned back from its value, in so far as the value tells it
(`ScalarType.scan_toValue`).
-/

namespace Rowbind

/-! ## Scalars -/

/-- **Whether what a type holds has a value.** The numbers of 64 bits without a sign have none in
general: they go beyond the whole numbers that values are. -/
def ScalarType.HasValue : ScalarType → Prop
  | int f => f ≠ ⟨false, .w64⟩
  | optional t | boxed t => t.HasValue
  | _ => True

instance ScalarType.decidableHasValue : (t : ScalarType) → Decidable t.HasValue
  | int f => inferInstanceAs (Decidable (f ≠ ⟨false, .w64⟩))
  | optional t => decidableHasValue t
  | boxed t => decidableHasValue t
  | value | bool | binary32 | binary64 | text | bytes | instant | localTime | day => .isTrue trivial

/-- A number of any other range is one of 64 bits with a sign. -/
theorem IntFormat.Holds.toInt_ofInt {f : IntFormat} (hf : f ≠ ⟨false, .w64⟩) {i : Int}
    (h : f.Holds i) : (Int64.ofInt i).toInt = i := by
  have hrange : -2 ^ 63 ≤ i ∧ i < 2 ^ 63 := by
    obtain ⟨hleast, hgreatest⟩ := h
    rcases f with ⟨_ | _, _ | _ | _ | _⟩
    case false.w64 => exact absurd rfl hf
    all_goals
      simp only [IntFormat.least, IntFormat.greatest, Width.count, if_true, Bool.false_eq_true,
        if_false] at hleast hgreatest
      omega
  exact Int64.toInt_ofInt_of_le hrange.1 hrange.2

theorem ScalarType.scan_optional (t : ScalarType) {v : Value} (hv : v ≠ .null) :
    (optional t).scan v = (t.scan v).map some := by
  cases v with
  | null => exact absurd rfl hv
  | _ => rfl

/-- **A scalar is scanned back from its value**: it then holds something of the same value. -/
theorem ScalarType.scan_toValue {t : ScalarType} (ht : t.HasValue) (x : t.Content) :
    ∃ y, t.scan (t.toValue x) = .ok y ∧ t.toValue y = t.toValue x := by
  induction t with
  | int f =>
    have hback : (Int64.ofInt x.1).toInt = x.1 := x.2.toInt_ofInt ht
    have hholds : f.Holds (Int64.ofInt x.1).toInt := by
      rw [hback]
      exact x.2
    exact ⟨⟨_, hholds⟩, dif_pos hholds, congrArg (fun i => Value.int (Int64.ofInt i)) hback⟩
  | binary32 => exact ⟨_, rfl, by rw [toValue, toValue, Binary32.widen_narrow_widen]⟩
  | day => exact ⟨_, rfl, by rw [toValue, toValue, Day.day_midnight]⟩
  | optional t ih =>
    cases x with
    | none => exact ⟨none, rfl, rfl⟩
    | some x =>
      obtain ⟨y, hscan, hvalue⟩ := ih ht x
      by_cases hnull : t.toValue x = .null
      · refine ⟨none, ?_, hnull.symm⟩
        rw [toValue, hnull]
        rfl
      · refine ⟨some y, ?_, hvalue⟩
        rw [toValue, scan_optional t hnull, hscan]
        rfl
  | boxed t ih => exact ih ht x
  | _ => exact ⟨_, rfl, rfl⟩

/-! ## Records -/

mutual

/-- **Whether a cell holds what its field is declared to hold.** -/
def Cell.Fits (declared : TypeId → Declaration) : Cell → FieldContent → Prop
  | .scalar slot, .scalar t => slot.type = t
  | .record cells, .record t _ _ _ => CellsFit declared cells (declared t).fields
  | .absent t, .record u _ isOptional _ => isOptional = true ∧ t = u
  | .hidden _, .skip => True
  | _, _ => False

/-- Whether cells hold what fields are declared to hold, one by one. -/
def CellsFit (declared : TypeId → Declaration) : List Cell → List FieldDeclaration → Prop
  | [], [] => True
  | cell :: cells, f :: fs => cell.Fits declared f.content ∧ CellsFit declared cells fs
  | _, _ => False

end

/-- Whether a record fits its type. -/
def Record.Fits (declared : TypeId → Declaration) (r : Record) : Prop :=
  CellsFit declared r.cells (declared r.type).fields

/-- Whether a field is described as what it holds, and what it holds is told by its value. -/
def FieldContent.Faithful : FieldContent → Prop
  | .scalar t => t.HasValue
  | .skip => True
  | .record _ _ _ describedAsScalar => describedAsScalar = false

instance FieldContent.decidableFaithful : (content : FieldContent) → Decidable content.Faithful
  | .scalar t => t.decidableHasValue
  | .skip => .isTrue trivial
  | .record _ _ _ describedAsScalar => inferInstanceAs (Decidable (describedAsScalar = false))

/-- Whether records of a type may hold records of another. -/
def Nests (declared : TypeId → Declaration) (t u : TypeId) : Prop :=
  ∃ f ∈ (declared t).fields, ∃ embedded isOptional asScalar,
    f.content = .record u embedded isOptional asScalar

/-- **Whether a type's fields are described as what they hold**, and those of all records within. -/
def Faithful (declared : TypeId → Declaration) (t : TypeId) : Prop :=
  ∀ u, Relation.ReflTransGen (Nests declared) t u → ∀ f ∈ (declared u).fields, f.content.Faithful

/-- **Whether a catalog's record types are those declared.** -/
structure Catalog.Declares (c : Catalog) (declared : TypeId → Declaration) : Prop where
  schema : ∀ t, c.schema t = (declared t).schema
  /-- A new record fits its type, if any record does. -/
  fresh : ∀ t cells, CellsFit declared cells (declared t).fields →
    CellsFit declared (c.recordType t).fresh (declared t).fields

section Fitting

variable {declared : TypeId → Declaration} {cell : Cell} {cells : List Cell}
  {fs : List FieldDeclaration} {f : FieldDeclaration} {i : Nat}

theorem Faithful.content {t : TypeId} (h : Faithful declared t) (hf : f ∈ (declared t).fields) :
    f.content.Faithful :=
  h t .refl f hf

theorem Faithful.nested {t u : TypeId} {embedded isOptional asScalar : Bool}
    (h : Faithful declared t) (hf : f ∈ (declared t).fields)
    (hcontent : f.content = .record u embedded isOptional asScalar) : Faithful declared u :=
  fun _ hreach => h _ (.head ⟨f, hf, embedded, isOptional, asScalar, hcontent⟩ hreach)

/-- A field that is described as a scalar is one. -/
theorem FieldContent.Faithful.eq_scalar {content : FieldContent} (h : content.Faithful)
    (hkind : content.kind = .scalar) : ∃ t : ScalarType, content = .scalar t := by
  cases content with
  | scalar t => exact ⟨t, rfl⟩
  | skip => cases hkind
  | record u embedded isOptional asScalar =>
    obtain rfl : asScalar = false := h
    cases hkind

/-- A field that is described as a record is one. -/
theorem FieldContent.Faithful.eq_record {content : FieldContent} {embedded : Bool} {u : TypeId}
    (h : content.Faithful) (hkind : content.kind = .record embedded u) :
    ∃ isOptional, content = .record u embedded isOptional false := by
  cases content with
  | scalar t => cases hkind
  | skip => cases hkind
  | record u' embedded' isOptional asScalar =>
    obtain rfl : asScalar = false := h
    cases hkind
    exact ⟨isOptional, rfl⟩

theorem Cell.fits_scalar {t : ScalarType} :
    cell.Fits declared (.scalar t) ↔ ∃ x : t.Content, cell = .scalar ⟨t, x⟩ := by
  constructor
  · intro h
    cases cell with
    | scalar slot =>
      obtain ⟨t', x⟩ := slot
      obtain rfl : t' = t := h
      exact ⟨x, rfl⟩
    | _ => exact h.elim
  · rintro ⟨x, rfl⟩
    exact (rfl : t = t)

theorem Cell.fits_record {t : TypeId} {embedded isOptional asScalar : Bool} :
    cell.Fits declared (.record t embedded isOptional asScalar) ↔
      (∃ inner, cell = .record inner ∧ CellsFit declared inner (declared t).fields) ∨
        (isOptional = true ∧ cell = .absent t) := by
  constructor
  · intro h
    cases cell with
    | record inner => exact .inl ⟨inner, rfl, h⟩
    | absent u =>
      obtain ⟨hoptional, rfl⟩ := h
      exact .inr ⟨hoptional, rfl⟩
    | _ => exact h.elim
  · rintro (⟨inner, rfl, h⟩ | ⟨hoptional, rfl⟩)
    · exact h
    · exact ⟨hoptional, rfl⟩

/-- What a scalar's field is declared to hold. -/
theorem Cell.Fits.content_scalar {slot : Slot} {content : FieldContent}
    (h : (Cell.scalar slot).Fits declared content) : content = .scalar slot.type := by
  cases content with
  | scalar t => exact congrArg FieldContent.scalar (Eq.symm h)
  | _ => exact h.elim

/-- What a nested record's field is declared to hold. -/
theorem Cell.Fits.content_record {content : FieldContent}
    (h : (Cell.record cells).Fits declared content) :
    ∃ t embedded isOptional asScalar, content = .record t embedded isOptional asScalar := by
  cases content with
  | record t embedded isOptional asScalar => exact ⟨t, embedded, isOptional, asScalar, rfl⟩
  | _ => exact h.elim

/-- Where cells fit, there is a cell wherever there is a field. -/
theorem CellsFit.getElem? (h : CellsFit declared cells fs) (hf : fs[i]? = some f) :
    ∃ cell, cells[i]? = some cell ∧ cell.Fits declared f.content := by
  induction cells generalizing fs i with
  | nil =>
    cases fs with
    | nil => cases hf
    | cons g fs => exact h.elim
  | cons cell cells ih =>
    cases fs with
    | nil => exact h.elim
    | cons g fs =>
      cases i with
      | zero =>
        cases hf
        exact ⟨cell, rfl, h.1⟩
      | succ i => exact ih h.2 hf

/-- Where cells fit, there is a field wherever there is a cell. -/
theorem CellsFit.exists_field (h : CellsFit declared cells fs) (hcell : cells[i]? = some cell) :
    ∃ f, fs[i]? = some f ∧ cell.Fits declared f.content := by
  induction cells generalizing fs i with
  | nil => cases hcell
  | cons cell' cells ih =>
    cases fs with
    | nil => exact h.elim
    | cons g fs =>
      cases i with
      | zero =>
        cases hcell
        exact ⟨g, rfl, h.1⟩
      | succ i =>
        rw [List.getElem?_cons_succ] at hcell ⊢
        exact ih h.2 hcell

/-- Cells fit with another one that fits in its place. -/
theorem CellsFit.set (h : CellsFit declared cells fs) (hf : fs[i]? = some f)
    (hcell : cell.Fits declared f.content) : CellsFit declared (cells.set i cell) fs := by
  induction cells generalizing fs i with
  | nil => exact h
  | cons cell' cells ih =>
    cases fs with
    | nil => exact h.elim
    | cons g fs =>
      obtain ⟨hfirst, hrest⟩ := h
      cases i with
      | zero =>
        cases hf
        exact ⟨hcell, hrest⟩
      | succ i => exact ⟨hfirst, ih hrest hf⟩

theorem cellsFit_map {g : FieldDeclaration → Cell} :
    CellsFit declared (fs.map g) fs ↔ ∀ f ∈ fs, (g f).Fits declared f.content := by
  induction fs with
  | nil => exact iff_of_true trivial nofun
  | cons f fs ih => rw [List.map_cons, CellsFit, ih, List.forall_mem_cons]

end Fitting

/-! ## Catalogs of declarations -/

/-- The declaration of a type, among those given. -/
def declaredBy (types : Array Declaration) (t : TypeId) : Declaration :=
  (types[t.number]?).getD ⟨"", []⟩

/-- Where all declarations are faithful, every type is. -/
theorem faithful_of_declarations {types : Array Declaration}
    (h : ∀ d ∈ types.toList, ∀ f ∈ d.fields, f.content.Faithful) (t : TypeId) :
    Faithful (declaredBy types) t := by
  intro u _ f hf
  rw [declaredBy] at hf
  cases hu : types[u.number]? with
  | none => rw [hu] at hf; exact absurd hf List.not_mem_nil
  | some d =>
    rw [hu] at hf
    exact h d (Array.mem_toList_iff.mpr (Array.mem_of_getElem? hu)) f hf

/-- Whether a type's new record fits it, nested so deep. -/
def FreshFits (types : Array Declaration) (depth : Nat) (t : TypeId) : Prop :=
  CellsFit (declaredBy types) (freshCells types depth t) (declaredBy types t).fields

section Declarations

variable {types : Array Declaration} {depth : Nat} {t : TypeId}

theorem freshFits_zero : FreshFits types 0 t ↔ (declaredBy types t).fields = [] := by
  rw [FreshFits, freshCells]
  cases (declaredBy types t).fields with
  | nil => exact iff_of_true trivial rfl
  | cons f fs => exact iff_of_false id (List.cons_ne_nil f fs)

/-- **One level deeper**, a new record fits when the records that it cannot be without do. -/
theorem freshFits_succ : FreshFits types (depth + 1) t ↔
    ∀ f ∈ (declaredBy types t).fields, ∀ u embedded asScalar,
      f.content = .record u embedded false asScalar → FreshFits types depth u := by
  have hfields : (types[t.number]?).elim [] (·.fields) = (declaredBy types t).fields := by
    rw [declaredBy]
    cases types[t.number]? <;> rfl
  rw [FreshFits, freshCells, hfields, cellsFit_map]
  refine forall₂_congr fun f _ => ?_
  cases f.content with
  | scalar s => exact iff_of_true rfl nofun
  | skip => exact iff_of_true trivial nofun
  | record u embedded isOptional asScalar =>
    cases isOptional with
    | true => exact iff_of_true ⟨rfl, rfl⟩ nofun
    | false =>
      constructor
      · rintro h _ _ _ ⟨⟩
        exact h
      · exact fun h => h u embedded asScalar rfl

theorem FreshFits.succ (h : FreshFits types depth t) : FreshFits types (depth + 1) t := by
  induction depth generalizing t with
  | zero =>
    rw [freshFits_succ, freshFits_zero.mp h]
    exact nofun
  | succ depth ih =>
    rw [freshFits_succ] at h ⊢
    exact fun f hf u embedded asScalar hu => ih (h f hf u embedded asScalar hu)

theorem FreshFits.mono {depth' : Nat} (h : FreshFits types depth t) (hle : depth ≤ depth') :
    FreshFits types depth' t := by
  induction hle with
  | refl => exact h
  | step _ ih => exact ih.succ

/-- A type that is not among those declared has no fields. -/
theorem freshFits_of_size_le (ht : types.size ≤ t.number) (depth : Nat) :
    FreshFits types depth t := by
  refine FreshFits.mono (freshFits_zero.mpr ?_) (Nat.zero_le depth)
  rw [declaredBy, Array.getElem?_eq_none ht]
  rfl

open Classical in
/-- The declared types whose new record fits at a depth. -/
noncomputable def settledTypes (types : Array Declaration) (depth : Nat) : Finset Nat :=
  (Finset.range types.size).filter fun n => FreshFits types depth ⟨n⟩

theorem mem_settledTypes {n : Nat} :
    n ∈ settledTypes types depth ↔ n < types.size ∧ FreshFits types depth ⟨n⟩ := by
  simp only [settledTypes, Finset.mem_filter, Finset.mem_range]

theorem settledTypes_subset {depth' : Nat} (hle : depth ≤ depth') :
    settledTypes types depth ⊆ settledTypes types depth' := by
  intro n hn
  rw [mem_settledTypes] at hn ⊢
  exact ⟨hn.1, hn.2.mono hle⟩

/-- Where no further type fits at a greater depth, none does. -/
theorem freshFits_iff_of_card_eq {depth' : Nat} (hle : depth ≤ depth')
    (hcard : (settledTypes types depth).card = (settledTypes types depth').card) (t : TypeId) :
    FreshFits types depth t ↔ FreshFits types depth' t := by
  refine ⟨fun h => h.mono hle, fun h => ?_⟩
  rcases Nat.lt_or_ge t.number types.size with hlt | hge
  · have heq := Finset.eq_of_subset_of_card_le (settledTypes_subset hle) hcard.ge
    have hmem : t.number ∈ settledTypes types depth := by
      rw [heq, mem_settledTypes]
      exact ⟨hlt, h⟩
    exact (mem_settledTypes.mp hmem).2
  · exact freshFits_of_size_le hge depth

/-- **The number of declarations is depth enough.** There are no more types than that, so by then
the types that fit have stopped becoming more. -/
theorem FreshFits.size (h : FreshFits types depth t) : FreshFits types types.size t := by
  rcases Nat.le_total depth types.size with hle | hge
  · exact h.mono hle
  have hmono : Monotone fun d => (settledTypes types d).card :=
    fun _ _ hle => Finset.card_le_card (settledTypes_subset hle)
  have hbound : ∀ d, (settledTypes types d).card ≤ types.size := by
    intro d
    have hsub : settledTypes types d ⊆ Finset.range types.size :=
      fun n hn => Finset.mem_range.mpr (mem_settledTypes.mp hn).1
    exact (Finset.card_le_card hsub).trans (Finset.card_range types.size).le
  have hstops : ∀ d, (settledTypes types d).card = (settledTypes types (d + 1)).card →
      (settledTypes types (d + 1)).card = (settledTypes types (d + 2)).card := by
    intro d hcard
    have hsame := freshFits_iff_of_card_eq (Nat.le_succ d) hcard
    congr 1
    ext n
    rw [mem_settledTypes, mem_settledTypes, freshFits_succ, freshFits_succ]
    simp only [hsame]
  have hcard := Nat.stabilises_of_monotone hmono hbound hstops hge
  exact (freshFits_iff_of_card_eq hge hcard.symm t).mpr h

/-- What a new record cannot be without fits at some depth, by a record that has it. The induction
is on the record. -/
theorem CellsFit.exists_depth : (cells : List Cell) → {fs : List FieldDeclaration} →
    CellsFit (declaredBy types) cells fs → ∃ depth, ∀ f ∈ fs, ∀ u embedded asScalar,
      f.content = .record u embedded false asScalar → FreshFits types depth u
  | [], [], _ => ⟨0, nofun⟩
  | .record inner :: cells, f :: fs, ⟨hcell, hcells⟩ => by
    obtain ⟨depth, hdepth⟩ := CellsFit.exists_depth cells hcells
    cases hcontent : f.content with
    | record u embedded isOptional asScalar =>
      rw [hcontent] at hcell
      obtain ⟨depth', hdepth'⟩ := CellsFit.exists_depth inner hcell
      refine ⟨max depth (depth' + 1), ?_⟩
      intro g hg u' embedded' asScalar' hu'
      rcases List.mem_cons.mp hg with rfl | hg
      · rw [hcontent] at hu'
        cases hu'
        exact (freshFits_succ.mpr hdepth').mono (Nat.le_max_right _ _)
      · exact (hdepth g hg u' embedded' asScalar' hu').mono (Nat.le_max_left _ _)
    | _ =>
      rw [hcontent] at hcell
      exact hcell.elim
  | .scalar _ :: cells, f :: fs, ⟨hcell, hcells⟩
  | .absent _ :: cells, f :: fs, ⟨hcell, hcells⟩
  | .hidden _ :: cells, f :: fs, ⟨hcell, hcells⟩ => by
    obtain ⟨depth, hdepth⟩ := CellsFit.exists_depth cells hcells
    refine ⟨depth, ?_⟩
    intro g hg u embedded asScalar hu
    rcases List.mem_cons.mp hg with rfl | hg
    · rw [hu] at hcell
      first
        | exact hcell.elim
        | exact absurd hcell.1 Bool.false_ne_true
    · exact hdepth g hg u embedded asScalar hu

/-- **A catalog of declarations declares them.** -/
theorem Catalog.ofDeclarations_declares (types : Array Declaration)
    (mapper : MapperId → String → String) :
    (Catalog.ofDeclarations types mapper).Declares (declaredBy types) where
  schema t := by
    show (types[t.number]?).elim ⟨"", []⟩ Declaration.schema = _
    rw [declaredBy]
    cases types[t.number]? <;> rfl
  fresh t cells hcells := by
    obtain ⟨depth, hdepth⟩ := CellsFit.exists_depth cells hcells
    exact (freshFits_succ.mpr hdepth).size

end Declarations

end Rowbind
