import Rowbind.Proofs.Scanner.Steps

/-!
# A scanner does not look behind its source

A scanner uses its source only as sources can be used. So where two sources step alike
(`RowSource.Alike`), a scanner of the one does what a scanner of the other does
(`ScannerUse.run_map`). And whatever a scanner is used for, one that is closed stays closed
(`ScannerUse.closed_run`).

What the rows are filled into goes by the values that they give. So the values may as well be
rewritten on the way (`RowSource.Rewrites`), if each row that a source can come to is stored
rewritten as it is stored without.
-/

namespace Rowbind

/-- **Whether a source steps as another does** that it stands for. -/
structure RowSource.Alike {ρ ρ' : Type} [RowSource ρ] [RowSource ρ'] (q : ρ → ρ') : Prop where
  columns : ∀ r, RowSource.columns (q r) = ((RowSource.columns r).1, q (RowSource.columns r).2)
  advance : ∀ r, RowSource.advance (q r) = ((RowSource.advance r).1, q (RowSource.advance r).2)
  take : ∀ r, RowSource.take (q r) = ((RowSource.take r).1, q (RowSource.take r).2)
  close : ∀ r, RowSource.close (q r) = ((RowSource.close r).1, q (RowSource.close r).2)

/-- **Whether a source gives the rows of another**, with their values rewritten. -/
structure RowSource.Rewrites {ρ ρ' : Type} [RowSource ρ] [RowSource ρ']
    (f : List Value → List Value) (q : ρ → ρ') : Prop where
  advance : ∀ r, RowSource.advance (q r) = ((RowSource.advance r).1, q (RowSource.advance r).2)
  take : ∀ r, RowSource.take (q r) = ((RowSource.take r).1.map f, q (RowSource.take r).2)

theorem RowSource.Alike.rewrites {ρ ρ' : Type} [RowSource ρ] [RowSource ρ'] {q : ρ → ρ'}
    (h : RowSource.Alike q) : RowSource.Rewrites id q where
  advance := h.advance
  take r := by rw [h.take, Except.map_id, id]

/-- **What a source can come to**, while its columns are asked for and its rows taken. -/
inductive RowSource.Reaches {ρ : Type} [RowSource ρ] : ρ → ρ → Prop
  | refl (rows : ρ) : Reaches rows rows
  | columns {rows left : ρ} (h : Reaches (RowSource.columns rows).2 left) : Reaches rows left
  | advance {rows left : ρ} (h : Reaches (RowSource.advance rows).2 left) : Reaches rows left
  | take {rows left : ρ} (h : Reaches (RowSource.take rows).2 left) : Reaches rows left

/-- **What a scanner can be used for.** -/
inductive ScannerUse
  | columns
  | advance
  | scan (d : Destination)
  | scanRow (d : Destination)
  | close

/-- What a use leaves of a scanner, whether it succeeds or fails. -/
def ScannerUse.run {ρ : Type} [RowSource ρ] (c : Catalog) (s : Scanner ρ) : ScannerUse → Scanner ρ
  | columns => s.columnNames.2
  | advance => s.advance.2
  | scan d => (Scanner.scan c (s, d)).2.1
  | scanRow d => (Scanner.scanRow c (s, d)).2.1
  | close => s.close.2

namespace Scanner

variable {ρ ρ' : Type}

/-- **A scanner of another source.** -/
def map (q : ρ → ρ') (s : Scanner ρ) : Scanner ρ' where
  rows := q s.rows
  options := s.options
  single := s.single
  mode := s.mode
  columns := s.columns
  hasRow := s.hasRow
  closed := s.closed

section Map

variable [RowSource ρ] [RowSource ρ'] {q : ρ → ρ'} (h : RowSource.Alike q)
include h

theorem columnNames_map (s : Scanner ρ) :
    (s.map q).columnNames = (s.columnNames.1, s.columnNames.2.map q) := by
  obtain ⟨rows, options, single, mode, columns, hasRow, closed⟩ := s
  simp only [columnNames, map]
  cases columns with
  | some columns => rfl
  | none =>
    simp only [h.columns]
    rcases RowSource.columns rows with ⟨e | columns, rows⟩
    · rfl
    · simp only
      cases columnFault? columns <;> rfl

theorem close_map (s : Scanner ρ) : (s.map q).close = (s.close.1, s.close.2.map q) := by
  obtain ⟨rows, options, single, mode, columns, hasRow, closed⟩ := s
  simp only [close, map, h.close]
  cases closed <;> rfl

omit h in
/-- What scanning into a list does with the next row. -/
theorem fillList_eq (c : Catalog) (plan : RowPlan) (columns : List String) (fresh : Destination)
    (rows : ρ) (items : List Destination) :
    fillList c plan columns fresh rows items =
      match RowSource.advance rows with
      | (.error e, rows) => (.error e, rows, items)
      | (.ok false, rows) => (.ok (), rows, items)
      | (.ok true, rows) =>
        match RowSource.take rows with
        | (.error e, rows) => (.error e, rows, items)
        | (.ok values, rows) =>
          match store c plan columns values fresh with
          | (.error e, _) => (.error e, rows, items)
          | (.ok (), item) => fillList c plan columns fresh rows (items ++ [item]) := by
  rw [fillList]
  split
  · rename_i ha
    simp only [ha]
  · rename_i ha
    simp only [ha]
  · rename_i ha
    simp only [ha]
    split
    · rename_i ht
      simp only [ht]
    · rename_i values rows₂ ht
      rcases hs : store c plan columns values fresh with ⟨e | _, item⟩
      · simp only [ht, hs]
      · simp only [ht, hs]

section Rewrites

variable {f : List Value → List Value} {c : Catalog} {plan plan' : RowPlan}
  {columns columns' : List String} {d : Destination}

omit h in
/-- **A list is filled from rewritten rows as from the rows**, where each is stored as without. The
induction is on the rows taken. -/
theorem fillList_rewrites (h : RowSource.Rewrites f q) (rows : ρ) (items : List Destination)
    (hstore : ∀ left values, RowSource.Reaches rows left → (RowSource.take left).1 = .ok values →
      store c plan' columns' (f values) d = store c plan columns values d) :
    fillList c plan' columns' d (q rows) items =
      ((fillList c plan columns d rows items).1, q (fillList c plan columns d rows items).2.1,
        (fillList c plan columns d rows items).2.2) := by
  fun_induction fillList c plan columns d rows items with
  | case1 rows items e rows₁ ha => rw [fillList_eq, h.advance, ha]
  | case2 rows items rows₁ ha => rw [fillList_eq, h.advance, ha]
  | case3 rows items rows₁ ha e rows₂ ht =>
    rw [fillList_eq, h.advance, ha]
    simp only [h.take, ht, Except.map]
  | case4 rows items rows₁ ha values rows₂ ht e d' hs =>
    rw [fillList_eq, h.advance, ha]
    have hrow := hstore rows₁ values (.advance (by rw [ha]; exact .refl _)) (by rw [ht])
    simp only [h.take, ht, Except.map, hrow, hs]
  | case5 rows items rows₁ ha values rows₂ ht item hs ih =>
    rw [fillList_eq, h.advance, ha]
    have hrow := hstore rows₁ values (.advance (by rw [ha]; exact .refl _)) (by rw [ht])
    simp only [h.take, ht, Except.map, hrow, hs]
    refine ih fun left values hleft => hstore left values (.advance (.take ?_))
    rw [ha, ht]
    exact hleft

omit h in
/-- **A single row is stored from rewritten rows as from the rows**, where it is stored as
without. -/
theorem fillOne_rewrites (h : RowSource.Rewrites f q) (rows : ρ)
    (hstore : ∀ left values, RowSource.Reaches rows left → (RowSource.take left).1 = .ok values →
      store c plan' columns' (f values) d = store c plan columns values d) :
    fillOne c plan' columns' (q rows) d =
      ((fillOne c plan columns rows d).1, q (fillOne c plan columns rows d).2.1,
        (fillOne c plan columns rows d).2.2) := by
  unfold fillOne
  rw [h.advance]
  rcases ha : RowSource.advance rows with ⟨e | found, rows₁⟩
  · rfl
  cases found with
  | false => rfl
  | true =>
    simp only [h.take]
    rcases ht : RowSource.take rows₁ with ⟨e | values, rows₂⟩
    · rfl
    have hrow := hstore rows₁ values (.advance (by rw [ha]; exact .refl _)) (by rw [ht])
    simp only [Except.map, hrow]
    rcases store c plan columns values d with ⟨e | _, d⟩
    · rfl
    simp only [h.advance]
    rcases RowSource.advance rows₂ with ⟨e | found, rows⟩
    · rfl
    cases found <;> rfl

end Rewrites

/-- Scanning all rows. -/
theorem scanRows_map (c : Catalog) (s : Scanner ρ) (d : Destination) :
    scanRows c (s.map q, d) =
      ((scanRows c (s, d)).1, (scanRows c (s, d)).2.1.map q, (scanRows c (s, d)).2.2) := by
  unfold scanRows
  simp only [columnNames_map h]
  rcases s.columnNames with ⟨e | columns, s⟩
  · rfl
  obtain ⟨rows, options, single, mode, read, hasRow, closed⟩ := s
  cases d with
  | list element fresh items =>
    cases single with
    | true => rfl
    | false =>
      simp only [map, Bool.false_eq_true, if_false]
      cases RowPlan.of c options columns element with
      | error e => rfl
      | ok plan =>
        simp only [fillList_rewrites h.rewrites rows items fun _ _ _ _ => rfl]
  | _ =>
    cases single with
    | false => rfl
    | true =>
      simp only [map, Bool.not_true, Bool.false_eq_true, if_false]
      split
      · rfl
      · simp only [fillOne_rewrites h.rewrites rows fun _ _ _ _ => rfl]

/-- Scanning the automatic way. -/
theorem scan_map (c : Catalog) (s : Scanner ρ) (d : Destination) :
    scan c (s.map q, d) = ((scan c (s, d)).1, (scan c (s, d)).2.1.map q, (scan c (s, d)).2.2) := by
  obtain ⟨rows, options, single, mode, read, hasRow, closed⟩ := s
  cases mode with
  | automatic => rfl
  | manual => rfl
  | fresh =>
    have hscanned := scanRows_map h c ⟨rows, options, single, .automatic, read, hasRow, closed⟩ d
    simp only [map] at hscanned
    simp only [scan, map, hscanned]
    have hclosed := close_map h
      (scanRows c (⟨rows, options, single, .automatic, read, hasRow, closed⟩, d)).2.1
    simp only [map] at hclosed
    simp only [hclosed]

/-- Going on to the next row. -/
theorem advance_map (s : Scanner ρ) : (s.map q).advance = (s.advance.1, s.advance.2.map q) := by
  obtain ⟨rows, options, single, mode, read, hasRow, closed⟩ := s
  cases mode with
  | automatic => rfl
  | _ =>
    cases closed with
    | true => rfl
    | false =>
      have hcolumns := columnNames_map h ⟨rows, options, single, .manual, read, hasRow, false⟩
      simp only [map] at hcolumns
      simp only [advance, map, Bool.false_eq_true, if_false, hcolumns]
      rcases columnNames ⟨rows, options, single, .manual, read, hasRow, false⟩ with ⟨e | _, s⟩
      · rfl
      simp only [h.advance]
      rcases RowSource.advance s.rows with ⟨e | found, rows⟩
      · rfl
      · rfl

/-- Scanning the current row. -/
theorem scanRow_map (c : Catalog) (s : Scanner ρ) (d : Destination) :
    scanRow c (s.map q, d) =
      ((scanRow c (s, d)).1, (scanRow c (s, d)).2.1.map q, (scanRow c (s, d)).2.2) := by
  obtain ⟨rows, options, single, mode, read, hasRow, closed⟩ := s
  have hcolumns := columnNames_map h ⟨rows, options, single, mode, read, hasRow, closed⟩
  simp only [map] at hcolumns
  simp only [scanRow, map, hcolumns]
  split
  · rfl
  split
  · rfl
  rcases columnNames ⟨rows, options, single, mode, read, hasRow, closed⟩ with ⟨e | columns, s⟩
  · rfl
  simp only
  split
  · rfl
  cases RowPlan.of c s.options columns d.shape with
  | error e => rfl
  | ok plan =>
    simp only [h.take]
    rcases RowSource.take s.rows with ⟨e | values, rows⟩
    · rfl
    · rfl

end Map

/-! ## What reading changes -/

section Frame

variable [RowSource ρ]

/-- Reading the column list changes the source and the list only. -/
theorem frame_columnNames (s : Scanner ρ) :
    ∃ rows columns, s.columnNames.2 = { s with rows := rows, columns := columns } := by
  rcases columnNames_cases s with ⟨e, rows, -, hread⟩ | ⟨columns, rows, hread⟩
  · exact ⟨rows, s.columns, by rw [hread]⟩
  · exact ⟨rows, some columns, by rw [hread]⟩

/-- **Scanning all rows changes the source and the column list only.** -/
theorem frame_scanRows (c : Catalog) (s : Scanner ρ) (d : Destination) :
    ∃ rows columns, (scanRows c (s, d)).2.1 = { s with rows := rows, columns := columns } := by
  obtain ⟨rows, columns, hread⟩ := frame_columnNames s
  unfold scanRows
  simp only
  generalize s.columnNames = read at hread ⊢
  obtain ⟨e | names, s₁⟩ := read
  · exact ⟨rows, columns, hread⟩
  obtain rfl : s₁ = { s with rows := rows, columns := columns } := hread
  cases d with
  | list element fresh items =>
    simp only
    split
    · exact ⟨_, _, rfl⟩
    split <;> exact ⟨_, _, rfl⟩
  | _ =>
    simp only
    split
    · exact ⟨_, _, rfl⟩
    split <;> exact ⟨_, _, rfl⟩

end Frame

/-! ## A closed scanner -/

section Closed

variable [RowSource ρ]

/-- Reading the columns closes nothing, and opens nothing. -/
theorem closed_columnNames (s : Scanner ρ) : s.columnNames.2.closed = s.closed := by
  obtain ⟨rows, columns, hread⟩ := frame_columnNames s
  rw [hread]

theorem closed_close (s : Scanner ρ) : s.close.2.closed = true := by
  unfold close
  split
  · assumption
  · rfl

theorem closed_advance (s : Scanner ρ) : s.advance.2.closed = s.closed := by
  have hadvance := s.advances
  generalize s.advance = result at hadvance ⊢
  cases hadvance <;> rfl

theorem closed_scanRow (c : Catalog) (s : Scanner ρ) (d : Destination) :
    (scanRow c (s, d)).2.1.closed = s.closed := by
  have hstores := storesRow c s d
  generalize scanRow c (s, d) = result at hstores ⊢
  cases hstores <;> rfl

end Closed

end Scanner

/-- **A scanner of another source is used alike.** -/
theorem ScannerUse.run_map {ρ ρ' : Type} [RowSource ρ] [RowSource ρ'] {q : ρ → ρ'}
    (h : RowSource.Alike q) (c : Catalog) (s : Scanner ρ) (u : ScannerUse) :
    u.run c (s.map q) = (u.run c s).map q := by
  cases u with
  | columns => exact congrArg Prod.snd (Scanner.columnNames_map h s)
  | advance => exact congrArg Prod.snd (Scanner.advance_map h s)
  | scan d => exact congrArg (fun r => r.2.1) (Scanner.scan_map h c s d)
  | scanRow d => exact congrArg (fun r => r.2.1) (Scanner.scanRow_map h c s d)
  | close => exact congrArg Prod.snd (Scanner.close_map h s)

/-- **No use opens a closed scanner.** -/
theorem ScannerUse.closed_run {ρ : Type} [RowSource ρ] (c : Catalog) (s : Scanner ρ)
    (u : ScannerUse) (h : s.closed = true) : (u.run c s).closed = true := by
  cases u with
  | columns => exact (Scanner.closed_columnNames s).trans h
  | advance => exact (Scanner.closed_advance s).trans h
  | scan d =>
    show (Scanner.scan c (s, d)).2.1.closed = true
    simp only [Scanner.scan]
    split
    · exact h
    · exact h
    · exact Scanner.closed_close _
  | scanRow d => exact (Scanner.closed_scanRow c s d).trans h
  | close => exact Scanner.closed_close s

end Rowbind
