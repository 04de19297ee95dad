import Rowbind.Proofs.Record.Hidden

/-!
# What storing along a path comes to

Storing a value along a path succeeds when the path leads into a record at every step but the last,
an optional record that is not set counting as a new one, and the last step leads to a scalar that
takes the value (`StoresAt`). The value then stands at the end of the path (`Holds`), and a value
that is stored along another path leaves it there.

So values that are stored along two paths can be stored the other way round, and leave the same
record (`StoresAt.swap`): where the paths part they change different cells, and the records before
that are set by the first of the two, whichever it is.
-/

namespace Rowbind

variable {c : Catalog} {cells cells₁ cells₂ cells' inner : List Cell} {i : Nat} {path p q : Path}
  {u v : Value}

/-! ## One path -/

/-- **The record that a step of a path leads into**: the one that stands there, or a new one where
an optional record is not set. -/
inductive Enters (c : Catalog) (cells : List Cell) (i : Nat) : List Cell → Prop
  | set {inner : List Cell} (hcell : cells[i]? = some (.record inner)) : Enters c cells i inner
  | unset {t : TypeId} (hcell : cells[i]? = some (.absent t)) :
    Enters c cells i (c.recordType t).fresh

/-- **What a value that is stored along a path leaves of the cells.** -/
inductive StoresAt (c : Catalog) (v : Value) : List Cell → Path → List Cell → Prop
  | scalar {cells : List Cell} {i : Nat} {slot : Slot} {content : slot.type.Content}
      (hcell : cells[i]? = some (.scalar slot)) (hscan : slot.type.scan v = .ok content) :
    StoresAt c v cells [i] (cells.set i (.scalar ⟨slot.type, content⟩))
  | within {cells inner inner' : List Cell} {i : Nat} {path : Path}
      (henters : Enters c cells i inner) (h : StoresAt c v inner path inner') :
    StoresAt c v cells (i :: path) (cells.set i (.record inner'))

theorem scanAt_of_enters (h : Enters c cells i inner) :
    scanAt c v cells (i :: path) =
      ((scanAt c v inner path).1, cells.set i (.record (scanAt c v inner path).2)) := by
  cases h with
  | set hcell => exact scanAt_record hcell
  | unset hcell => exact scanAt_absent hcell

/-- **A value is stored along a path exactly if it is taken at its end.** -/
theorem scanAt_eq_ok_iff :
    scanAt c v cells path = (some (.ok ()), cells') ↔ StoresAt c v cells path cells' := by
  constructor
  · intro h
    induction path generalizing cells cells' with
    | nil => cases h
    | cons i path ih =>
      have hwithin (inner : List Cell) (henters : Enters c cells i inner) :
          StoresAt c v cells (i :: path) cells' := by
        rw [scanAt_of_enters henters] at h
        obtain ⟨hanswer, rfl⟩ := Prod.mk.inj h
        exact .within henters (ih (Prod.ext hanswer rfl))
      cases hcell : cells[i]? with
      | none => simp [scanAt, hcell] at h
      | some cell =>
        cases cell with
        | record inner => exact hwithin inner (.set hcell)
        | absent t => exact hwithin _ (.unset hcell)
        | hidden content => simp [scanAt, hcell] at h
        | scalar slot =>
          cases path with
          | cons j path => simp [scanAt, hcell] at h
          | nil =>
            rw [scanAt_scalar hcell, Slot.scan] at h
            cases hscan : slot.type.scan v with
            | error e => simp [hscan] at h
            | ok content =>
              rw [hscan] at h
              obtain ⟨-, rfl⟩ := Prod.mk.inj h
              exact .scalar hcell hscan
  · intro h
    induction h with
    | scalar hcell hscan => simp [scanAt_scalar hcell, Slot.scan, hscan]
    | within henters _ ih => rw [scanAt_of_enters henters, ih]

/-! ## Where a value stands -/

/-- **Whether a value stands at the end of a path**: a scalar is there that holds what its type
makes of the value. -/
def Holds (cells : List Cell) (path : Path) (v : Value) : Prop :=
  ∃ slot : Slot, cellAt cells path = some (.scalar slot) ∧ slot.type.scan v = .ok slot.content

theorem StoresAt.ne_nil (h : StoresAt c v cells path cells') : path ≠ [] := by
  cases h <;> exact List.cons_ne_nil _ _

theorem Enters.lt_length (h : Enters c cells i inner) : i < cells.length := by
  cases h with
  | set hcell => exact (List.getElem?_eq_some_iff.mp hcell).1
  | unset hcell => exact (List.getElem?_eq_some_iff.mp hcell).1

/-- **A stored value stands at the end of its path.** -/
theorem StoresAt.holds (h : StoresAt c v cells path cells') : Holds cells' path v := by
  induction h with
  | scalar hcell hscan => exact ⟨_, getElem?_set_of_eq_some hcell, hscan⟩
  | within henters h ih =>
    obtain ⟨slot, hslot, hscan⟩ := ih
    refine ⟨slot, ?_, hscan⟩
    rw [cellAt_record (List.getElem?_set_self henters.lt_length) h.ne_nil]
    exact hslot

/-- A step leads into a record alone, and into one. -/
theorem Enters.eq_of_record (h : Enters c cells i inner) {inner₁ : List Cell}
    (hcell : cells[i]? = some (.record inner₁)) : inner = inner₁ := by
  cases h with
  | set hcell' =>
    cases hcell.symm.trans hcell'
    rfl
  | unset hcell' => cases hcell.symm.trans hcell'

theorem Enters.not_scalar (h : Enters c cells i inner) {slot : Slot} :
    cells[i]? ≠ some (.scalar slot) := by
  intro hscalar
  cases h with
  | set hcell => cases hscalar.symm.trans hcell
  | unset hcell => cases hscalar.symm.trans hcell

/-- No value is stored along a path that goes on behind a scalar. -/
theorem StoresAt.eq_of_prefix {slot : Slot} (h : StoresAt c v cells q cells')
    (hslot : cellAt cells p = some (.scalar slot)) (hwithin : p <+: q) : p = q := by
  induction h generalizing p with
  | scalar hcell hscan =>
    rcases List.prefix_cons_iff.mp hwithin with rfl | ⟨rest, rfl, hrest⟩
    · cases hslot
    · rw [List.prefix_nil.mp hrest]
  | within henters h ih =>
    rcases List.prefix_cons_iff.mp hwithin with rfl | ⟨rest, rfl, hrest⟩
    · cases hslot
    · by_cases hnil : rest = []
      · subst hnil
        exact absurd hslot henters.not_scalar
      · obtain ⟨within, hcell, hwithin⟩ := exists_record_of_cellAt hslot hnil
        rw [henters.eq_of_record hcell] at ih
        rw [ih hwithin hrest]

/-- **A value that is stored along another path leaves what stands.** -/
theorem StoresAt.keeps (h : StoresAt c u cells q cells') (hne : p ≠ q)
    (hholds : Holds cells p v) : Holds cells' p v := by
  obtain ⟨slot, hslot, hscan⟩ := hholds
  have hkept := cellAt_scanAt (c := c) (v := u) hslot
    fun hwithin => hne (h.eq_of_prefix hslot hwithin)
  rw [scanAt_eq_ok_iff.mpr h] at hkept
  exact ⟨slot, hkept, hscan⟩

/-! ## Two paths -/

/-- A step leads where it did when another cell is changed. -/
theorem Enters.of_set_ne {j : Nat} {cell : Cell} (hne : j ≠ i)
    (h : Enters c (cells.set i cell) j inner) : Enters c cells j inner := by
  cases h with
  | set hcell => exact .set (by rwa [List.getElem?_set_ne hne.symm] at hcell)
  | unset hcell => exact .unset (by rwa [List.getElem?_set_ne hne.symm] at hcell)

/-- **What is stored where one cell is changed is stored where it is not**, if the path does not
begin there; and the change can come after. -/
theorem StoresAt.of_set_ne {cell : Cell} (h : StoresAt c u (cells.set i cell) q cells₂)
    (hne : ∀ rest, q ≠ i :: rest) :
    ∃ cells', StoresAt c u cells q cells' ∧ cells₂ = cells'.set i cell ∧ cells'[i]? = cells[i]? := by
  cases h with
  | @scalar _ j slot content hcell hscan =>
    have hj : j ≠ i := fun hj => hne [] (by rw [hj])
    rw [List.getElem?_set_ne hj.symm] at hcell
    exact ⟨_, .scalar hcell hscan, List.set_comm _ _ hj.symm, List.getElem?_set_ne hj⟩
  | @within _ inner inner' j path henters h =>
    have hj : j ≠ i := fun hj => hne path (by rw [hj])
    exact ⟨_, .within (henters.of_set_ne hj) h, List.set_comm _ _ hj.symm, List.getElem?_set_ne hj⟩

/-- **Two values can be stored the other way round**, along paths that differ. The induction is on
the path of the first. -/
theorem StoresAt.swap (h : StoresAt c v cells p cells₁) (h' : StoresAt c u cells₁ q cells₂)
    (hne : p ≠ q) : ∃ cells', StoresAt c u cells q cells' ∧ StoresAt c v cells' p cells₂ := by
  induction h generalizing q cells₂ with
  | @scalar cells i slot content hcell hscan =>
    -- the second path begins with another step: behind this one there is a scalar
    have hother : ∀ rest, q ≠ i :: rest := by
      rintro rest rfl
      have hslot : cellAt (cells.set i (.scalar ⟨slot.type, content⟩)) [i] = _ :=
        getElem?_set_of_eq_some hcell
      exact hne (h'.eq_of_prefix hslot ⟨rest, rfl⟩)
    obtain ⟨cells', hstores, rfl, hsame⟩ := h'.of_set_ne hother
    exact ⟨cells', hstores, .scalar (hsame.trans hcell) hscan⟩
  | @within cells inner inner₁ i path henters h ih =>
    by_cases hother : ∀ rest, q ≠ i :: rest
    · obtain ⟨cells', hstores, rfl, hsame⟩ := h'.of_set_ne hother
      refine ⟨cells', hstores, .within ?_ h⟩
      cases henters with
      | set hcell => exact .set (hsame.trans hcell)
      | unset hcell => exact .unset (hsame.trans hcell)
    · simp only [not_forall, not_not] at hother
      obtain ⟨rest, rfl⟩ := hother
      -- both lead into one record, which is set by then
      have hstands := List.getElem?_set_self (a := Cell.record inner₁) henters.lt_length
      cases h' with
      | scalar hcell => cases hstands.symm.trans hcell
      | @within _ inner₂ inner₃ _ _ henters' h' =>
        rw [henters'.eq_of_record hstands] at h'
        obtain ⟨inner', hsecond, hfirst⟩ := ih h' fun heq => hne (congrArg (i :: ·) heq)
        refine ⟨_, .within henters hsecond, ?_⟩
        have hset := List.getElem?_set_self (a := Cell.record inner') henters.lt_length
        have hboth := StoresAt.within (Enters.set hset) hfirst
        rw [List.set_set] at hboth ⊢
        exact hboth

end Rowbind
