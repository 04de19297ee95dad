import Mathlib.Data.List.Induction
import Rowbind.Proofs.Scanner.Closing

/-!
# What a scanner asks of a source that it has closed

A closed scanner is at rest where it asks its source for no row any more (`Recorded.AtRest`). Every
operation looks at the closed state in a way of its own: advancing checks it, storing a row finds no
current one, and asking for the columns is no use of the rows.

The automatic scan does not look. It is refused once the scanner has iterated, and a source may
refuse its columns once closed. But on a scanner that was closed before its first iteration, and
that can settle its columns and its plan, the scan goes on to the rows
(`Scanner.advances_scanRows`). So a run stays at rest exactly where no scan comes that far
(`ScannerUse.atRest_iff`).
-/

namespace Rowbind

namespace Recorded

variable {ρ : Type} {r r' : Recorded ρ}

/-- **Whether a source is let alone once it is closed**: no call for a row comes after a close. -/
def AtRest (r : Recorded ρ) : Prop :=
  r.calls.Pairwise fun earlier later => earlier.isClose = true → later.isRow = false

/-- A source never closed is at rest. -/
theorem AtRest.of_open (h : r.closings = 0) : r.AtRest :=
  List.pairwise_of_forall_mem_list fun call hcall _ _ hclose =>
    absurd hclose (List.countP_eq_zero.mp h call hcall)

/-- Calls for no row keep a source at rest. -/
theorem AtRest.of_asks (h : r.AtRest) (hasks : Asks (RowCall.isRow · = false) r r') :
    r'.AtRest := by
  obtain ⟨calls, hcalls, hrow⟩ := hasks
  rw [AtRest, hcalls, List.pairwise_append]
  refine ⟨h, ?_, fun _ _ later hlater _ => hrow later hlater⟩
  exact List.pairwise_of_forall_mem_list fun _ _ later hlater _ => hrow later hlater

/-- Calls of some kind are calls. -/
theorem Asks.any {P : RowCall → Prop} (h : Asks P r r') : Asks (fun _ => True) r r' :=
  h.mono fun _ _ => trivial

/-- Where a source was closed before, one at rest has been asked for no row since. -/
theorem AtRest.since (h : r'.AtRest) (hclosed : 0 < r.closings) {calls : List RowCall}
    (hcalls : r'.calls = r.calls ++ calls) : ∀ call ∈ calls, call.isRow = false := by
  obtain ⟨close, hmem, hclose⟩ := List.countP_pos_iff.mp hclosed
  rw [AtRest, hcalls, List.pairwise_append] at h
  exact fun call hcall => h.2.2 close hmem call hcall hclose

end Recorded

namespace Scanner

open Recorded

variable {ρ : Type} [RowSource ρ]

/-! ## How far a scan comes -/

/-- **What a scan settles before it turns to the rows**: the columns, that the destination is one
for as many rows as are asked for, and the plan. -/
def planFor (c : Catalog) (s : Scanner ρ) (d : Destination) : Except Error RowPlan :=
  match s.columnNames.1 with
  | .error e => .error e
  | .ok columns =>
    match d with
    | .list element _ _ =>
      if s.single then .error (.usage .singleRowIntoList)
      else RowPlan.of c s.options columns element
    | d =>
      if !s.single then .error (.usage .manyRowsIntoOne)
      else RowPlan.of c s.options columns d.shape

/-- What a scan settles does not hang on the mode. -/
theorem planFor_mode (c : Catalog) (s : Scanner ρ) (mode : ScanMode) (d : Destination) :
    ({ s with mode := mode } : Scanner ρ).planFor c d = s.planFor c d := by
  simp only [planFor, columnNames_mode]

/-- A scan that cannot settle its plan fails with the reason, and asks for the columns at most. -/
theorem scanRows_of_unplanned (c : Catalog) {s : Scanner ρ} {d : Destination} {e : Error}
    (h : s.planFor c d = .error e) : scanRows c (s, d) = (.error e, s.columnNames.2, d) := by
  obtain ⟨rows, read, hread⟩ := frame_columnNames s
  unfold planFor at h
  unfold scanRows
  simp only
  generalize s.columnNames = answer at h hread ⊢
  obtain ⟨e' | columns, s₁⟩ := answer
  · cases h
    rfl
  obtain rfl : s₁ = { s with rows := rows, columns := read } := hread
  cases d with
  | list element fresh items =>
    simp only at h ⊢
    split at h
    · cases h
      rw [if_pos ‹_›]
    · rw [if_neg ‹_›, h]
  | _ =>
    simp only at h ⊢
    split at h
    · cases h
      rw [if_pos ‹_›]
    · rw [if_neg ‹_›, h]

/-- A scan that cannot settle its plan fails, refused or not. -/
theorem scan_fails_of_unplanned (c : Catalog) {s : Scanner ρ} {d : Destination}
    (h : s.mode = .fresh → ∀ plan, s.planFor c d ≠ .ok plan) :
    ∃ e, (scan c (s, d)).1 = .error e := by
  cases hmode : s.mode with
  | automatic => exact ⟨.usage .alreadyConsumed, by simp only [scan, hmode]⟩
  | manual => exact ⟨.usage .automaticAfterManual, by simp only [scan, hmode]⟩
  | fresh =>
    cases hplan : s.planFor c d with
    | ok plan => exact absurd hplan (h hmode plan)
    | error e =>
      refine ⟨e, ?_⟩
      rw [scan_of_fresh c hmode d,
        scanRows_of_unplanned c ((planFor_mode c s .automatic d).trans hplan)]

/-- Scanning into a list begins with an advance. -/
theorem advances_fillList (c : Catalog) (plan : RowPlan) (columns : List String)
    (fresh : Destination) (rows : Recorded ρ) (items : List Destination) :
    Asks (fun _ => True) (RowSource.advance rows).2
      (fillList c plan columns fresh rows items).2.1 := by
  rw [fillList_eq]
  rcases RowSource.advance rows with ⟨e | found, rows₁⟩
  · exact .refl _
  cases found with
  | false => exact .refl _
  | true =>
    simp only
    rcases ht : RowSource.take rows₁ with ⟨e | values, rows₂⟩
    · exact (asks_take ht).any
    simp only
    rcases store c plan columns values fresh with ⟨e | _, item⟩
    · exact (asks_take ht).any
    · exact ((asks_take ht).trans (asks_fillList c plan columns fresh rows₂ _)).any

/-- Scanning a single row begins with an advance. -/
theorem advances_fillOne (c : Catalog) (plan : RowPlan) (columns : List String)
    (rows : Recorded ρ) (d : Destination) :
    Asks (fun _ => True) (RowSource.advance rows).2 (fillOne c plan columns rows d).2.1 := by
  unfold fillOne
  rcases RowSource.advance rows with ⟨e | found, rows₁⟩
  · exact .refl _
  cases found with
  | false => exact .refl _
  | true =>
    simp only
    rcases ht : RowSource.take rows₁ with ⟨e | values, rows₂⟩
    · exact (asks_take ht).any
    simp only
    rcases store c plan columns values d with ⟨e | _, d⟩
    · exact (asks_take ht).any
    simp only
    rcases ha : RowSource.advance rows₂ with ⟨e | found, rows₃⟩
    · exact ((asks_take ht).trans (asks_advance ha)).any
    · cases found <;> exact ((asks_take ht).trans (asks_advance ha)).any

/-- **A scan that can settle its plan goes on to the rows**, and never looks whether the scanner is
closed. -/
theorem advances_scanRows (c : Catalog) {s : Scanner (Recorded ρ)} {d : Destination}
    {plan : RowPlan} (h : s.planFor c d = .ok plan) :
    Asks (fun _ => True) (RowSource.advance s.columnNames.2.rows).2
      (scanRows c (s, d)).2.1.rows := by
  obtain ⟨rows, read, hread⟩ := frame_columnNames s
  unfold planFor at h
  unfold scanRows
  simp only
  generalize s.columnNames = answer at h hread ⊢
  obtain ⟨e' | columns, s₁⟩ := answer
  · cases h
  obtain rfl : s₁ = { s with rows := rows, columns := read } := hread
  cases d with
  | list element fresh items =>
    simp only at h ⊢
    split at h
    · cases h
    · rw [if_neg ‹_›, h]
      exact advances_fillList c plan columns fresh rows items
  | _ =>
    simp only at h ⊢
    split at h
    · cases h
    · rw [if_neg ‹_›, h]
      exact advances_fillOne c plan columns rows _

/-! ## What the closed state keeps -/

/-- **Whether a closed scanner has no current row.** -/
def Settled (s : Scanner ρ) : Prop := s.closed = true → s.hasRow = false

theorem Settled.columnNames {s : Scanner ρ} (h : s.Settled) : s.columnNames.2.Settled := by
  obtain ⟨rows, columns, hread⟩ := frame_columnNames s
  rw [hread]
  exact h

theorem Settled.scanRows {s : Scanner ρ} (h : s.Settled) (c : Catalog) (d : Destination) :
    (Scanner.scanRows c (s, d)).2.1.Settled := by
  obtain ⟨rows, columns, hscanned⟩ := frame_scanRows c s d
  rw [hscanned]
  exact h

theorem Settled.close {s : Scanner ρ} (h : s.Settled) : s.close.2.Settled := by
  unfold Scanner.close
  split
  · exact h
  · exact fun _ => rfl

/-- Advancing by hand puts the scanner into the manual way, or is refused. -/
theorem mode_advance (s : Scanner ρ) : s.advance.2.mode ≠ .fresh := by
  have hadvance := s.advances
  generalize s.advance = result at hadvance ⊢
  cases hadvance with
  | refused hmode =>
    rw [hmode]
    decide
  | _ => exact ScanMode.noConfusion

/-- A closed scanner goes on to no row, and asks for none. -/
theorem advance_of_closed {s : Scanner ρ} (h : s.closed = true) :
    s.advance.2.rows = s.rows ∧ s.advance.2.hasRow = s.hasRow := by
  unfold advance
  split
  · exact ⟨rfl, rfl⟩
  · simp only [h, if_true, and_self]

/-- Without a current row none is stored, and none is asked for. -/
theorem scanRow_of_noRow (c : Catalog) {s : Scanner ρ} (h : s.hasRow = false) (d : Destination) :
    (scanRow c (s, d)).2 = (s, d) := by
  unfold scanRow
  simp only [h, Bool.not_false, if_true]
  split <;> rfl

theorem Settled.run {s : Scanner ρ} (h : s.Settled) (c : Catalog) (u : ScannerUse) :
    (u.run c s).Settled := by
  cases u with
  | columns => exact h.columnNames
  | close => exact h.close
  | advance =>
    intro hclosed
    have hbefore : s.closed = true := (closed_advance s).symm.trans hclosed
    exact (advance_of_closed hbefore).2.trans (h hbefore)
  | scanRow d =>
    intro hclosed
    have hbefore : s.closed = true := (closed_scanRow c s d).symm.trans hclosed
    show (Scanner.scanRow c (s, d)).2.1.hasRow = false
    rw [scanRow_of_noRow c (h hbefore) d]
    exact h hbefore
  | scan d =>
    show (Scanner.scan c (s, d)).2.1.Settled
    by_cases hfresh : s.mode = .fresh
    · rw [scan_of_fresh c hfresh d]
      exact (Settled.scanRows (s := { s with mode := .automatic }) h c d).close
    · rw [scan_of_not_fresh c hfresh d]
      exact h

/-- Closing asks for no row. -/
theorem atRest_close {s : Scanner (Recorded ρ)} (h : s.rows.AtRest) : s.close.2.rows.AtRest := by
  refine h.of_asks ⟨_, calls_close s, ?_⟩
  split
  · exact fun _ hcall => absurd hcall List.not_mem_nil
  · intro call hcall
    rw [List.mem_singleton.mp hcall]
    rfl

/-- Asking for the columns is asking for no row. -/
theorem atRest_columnNames {s : Scanner (Recorded ρ)} (h : s.rows.AtRest) :
    s.columnNames.2.rows.AtRest :=
  h.of_asks ((asks_columnNames s).mono fun call hcall => by
    obtain ⟨answer, rfl⟩ := RowCall.eq_columns hcall
    rfl)

/-- **A scanner whose source is let alone once it is closed**, with what keeps it so. -/
structure Resting (s : Scanner (Recorded ρ)) : Prop where
  once : s.ClosedOnce
  settled : s.Settled
  atRest : s.rows.AtRest

omit [RowSource ρ] in
/-- The source of an open scanner is at rest, whatever it was asked. -/
theorem ClosedOnce.atRest {s : Scanner (Recorded ρ)} (h : s.ClosedOnce) (hopen : s.closed = false) :
    s.rows.AtRest := by
  rw [ClosedOnce, hopen, if_neg Bool.false_ne_true] at h
  exact .of_open h

/-- Whatever an open scanner is used for, it closes its source at the end if at all. -/
theorem Resting.atRest_of_open {s : Scanner (Recorded ρ)} (h : s.Resting) (c : Catalog)
    (u : ScannerUse) (hopen : s.closed = false) : (u.run c s).rows.AtRest := by
  have honce := h.once.run c u
  cases u with
  | columns => exact honce.atRest ((closed_columnNames s).trans hopen)
  | advance => exact honce.atRest ((closed_advance s).trans hopen)
  | scanRow d => exact honce.atRest ((closed_scanRow c s d).trans hopen)
  | close => exact atRest_close h.atRest
  | scan d =>
    show (Scanner.scan c (s, d)).2.1.rows.AtRest
    by_cases hfresh : s.mode = .fresh
    · rw [scan_of_fresh c hfresh d]
      have hscanned : ClosedOnce (scanRows c ({ s with mode := .automatic }, d)).2.1 :=
        ClosedOnce.scanRows (s := { s with mode := .automatic }) h.once c d
      exact atRest_close (hscanned.atRest ((closed_scanRows c _ d).trans hopen))
    · rw [scan_of_not_fresh c hfresh d]
      exact h.atRest

/-- A closed scanner asks for no row, but in a first scan that can settle its plan. -/
theorem Resting.atRest_of_closed {s : Scanner (Recorded ρ)} (h : s.Resting) (c : Catalog)
    {u : ScannerUse} (hclosed : s.closed = true)
    (hu : ∀ d, u = .scan d → s.mode = .fresh → ∀ plan, s.planFor c d ≠ .ok plan) :
    (u.run c s).rows.AtRest := by
  cases u with
  | columns => exact atRest_columnNames h.atRest
  | close => exact atRest_close h.atRest
  | advance =>
    show s.advance.2.rows.AtRest
    rw [(advance_of_closed hclosed).1]
    exact h.atRest
  | scanRow d =>
    show (Scanner.scanRow c (s, d)).2.1.rows.AtRest
    rw [scanRow_of_noRow c (h.settled hclosed) d]
    exact h.atRest
  | scan d =>
    show (Scanner.scan c (s, d)).2.1.rows.AtRest
    by_cases hfresh : s.mode = .fresh
    · cases hplan : s.planFor c d with
      | ok plan => exact absurd hplan (hu d rfl hfresh plan)
      | error e =>
        rw [scan_of_fresh c hfresh d,
          scanRows_of_unplanned c ((planFor_mode c s .automatic d).trans hplan)]
        exact atRest_close (atRest_columnNames (s := { s with mode := .automatic }) h.atRest)
    · rw [scan_of_not_fresh c hfresh d]
      exact h.atRest

/-- **A use keeps a scanner resting**, but a first scan after the close that can settle its plan. -/
theorem Resting.run {s : Scanner (Recorded ρ)} (h : s.Resting) (c : Catalog) {u : ScannerUse}
    (hu : ∀ d, u = .scan d → s.closed = true → s.mode = .fresh →
      ∀ plan, s.planFor c d ≠ .ok plan) : (u.run c s).Resting := by
  refine ⟨h.once.run c u, h.settled.run c u, ?_⟩
  cases hclosed : s.closed with
  | false => exact h.atRest_of_open c u hclosed
  | true => exact h.atRest_of_closed c hclosed fun d hd => hu d hd hclosed

/-- A first scan after the close that can settle its plan asks for a row. -/
theorem not_atRest_of_planned (c : Catalog) {s : Scanner (Recorded ρ)} {d : Destination}
    {plan : RowPlan} (honce : s.ClosedOnce) (hclosed : s.closed = true) (hfresh : s.mode = .fresh)
    (hplan : s.planFor c d = .ok plan) {r : Recorded ρ}
    (hafter : Asks (fun _ => True) (scan c (s, d)).2.1.rows r) : ¬ r.AtRest := by
  intro hrest
  have hcount : 0 < s.rows.closings := by
    rw [ClosedOnce, if_pos hclosed] at honce
    omega
  have hplan' := (planFor_mode c s .automatic d).trans hplan
  have hread := (asks_columnNames { s with mode := .automatic }).any
  have hscanned := advances_scanRows c hplan'
  generalize ({ s with mode := .automatic } : Scanner (Recorded ρ)).columnNames.2.rows = read
    at hread hscanned
  have hclose : Asks (fun _ => True) (scanRows c ({ s with mode := .automatic }, d)).2.1.rows
      (scan c (s, d)).2.1.rows := by
    rw [scan_of_fresh c hfresh d]
    exact ⟨_, calls_close _, fun _ _ => trivial⟩
  obtain ⟨before, hbefore, -⟩ := hread
  obtain ⟨later, hlater, -⟩ := (hscanned.trans hclose).trans hafter
  have hcalls : r.calls =
      s.rows.calls ++ (before ++ .advance (RowSource.advance read.rows).1 :: later) := by
    rw [hlater]
    show (read.calls ++ [.advance (RowSource.advance read.rows).1]) ++ later = _
    rw [hbefore]
    simp only [List.append_assoc, List.cons_append, List.nil_append]
  have hrow := hrest.since hcount hcalls (.advance (RowSource.advance read.rows).1)
    (List.mem_append_right _ List.mem_cons_self)
  cases hrow

end Scanner

namespace ScannerUse

open Scanner Recorded

variable {ρ : Type} [RowSource ρ]

/-- Every use adds to the record at its end. -/
theorem asks_run (c : Catalog) (s : Scanner (Recorded ρ)) (u : ScannerUse) :
    Asks (fun _ => True) s.rows (u.run c s).rows := by
  cases u with
  | columns => exact (asks_columnNames s).any
  | advance => exact (asks_advanceRow s).any
  | scanRow d => exact (asks_scanRow c s d).any
  | close => exact ⟨_, calls_close s, fun _ _ => trivial⟩
  | scan d =>
    show Asks _ s.rows (Scanner.scan c (s, d)).2.1.rows
    by_cases hfresh : s.mode = .fresh
    · rw [scan_of_fresh c hfresh d]
      exact (asks_scanRows c { s with mode := .automatic } d).any.trans
        ⟨_, calls_close _, fun _ _ => trivial⟩
    · rw [scan_of_not_fresh c hfresh d]
      exact .refl _

theorem asks_runAll (c : Catalog) (s : Scanner (Recorded ρ)) (uses : List ScannerUse) :
    Asks (fun _ => True) s.rows (runAll c s uses).rows := by
  induction uses generalizing s with
  | nil => exact .refl _
  | cons u uses ih => exact (asks_run c s u).trans (ih _)

theorem runAll_append (c : Catalog) (s : Scanner ρ) (before after : List ScannerUse) :
    runAll c s (before ++ after) = runAll c (runAll c s before) after :=
  List.foldl_append

/-! ## Fresh and closed -/

/-- No use makes a scanner fresh that is not, and one that iterates leaves none fresh. -/
theorem not_fresh_run (c : Catalog) {s : Scanner ρ} {u : ScannerUse}
    (h : s.mode ≠ .fresh ∨ u.iterates = true) : (u.run c s).mode ≠ .fresh := by
  cases u with
  | columns => exact (mode_columnNames s).symm ▸ h.resolve_right nofun
  | scanRow d => exact (mode_scanRow c s d).symm ▸ h.resolve_right nofun
  | close => exact (mode_close s).symm ▸ h.resolve_right nofun
  | advance => exact mode_advance s
  | scan d =>
    show (Scanner.scan c (s, d)).2.1.mode ≠ .fresh
    by_cases hfresh : s.mode = .fresh
    · obtain ⟨rows, columns, hscanned⟩ := frame_scanRows c { s with mode := .automatic } d
      rw [scan_of_fresh c hfresh d]
      show (Scanner.scanRows c ({ s with mode := .automatic }, d)).2.1.close.2.mode ≠ .fresh
      rw [mode_close, hscanned]
      exact nofun
    · rw [scan_of_not_fresh c hfresh d]
      exact hfresh

/-- A scanner that is still fresh was not iterated with. -/
theorem iterates_of_fresh (c : Catalog) {s : Scanner ρ} {uses : List ScannerUse}
    (h : (runAll c s uses).mode = .fresh) :
    s.mode = .fresh ∧ ∀ u ∈ uses, u.iterates = false := by
  induction uses generalizing s with
  | nil => exact ⟨h, fun _ hu => absurd hu List.not_mem_nil⟩
  | cons u uses ih =>
    obtain ⟨hfresh, huses⟩ := ih h
    by_cases hs : s.mode = .fresh
    · cases hu : u.iterates with
      | true => exact absurd hfresh (not_fresh_run c (.inr hu))
      | false => exact ⟨hs, List.forall_mem_cons.mpr ⟨hu, huses⟩⟩
    · exact absurd hfresh (not_fresh_run c (.inl hs))

/-- No run opens a closed scanner. -/
theorem closed_runAll (c : Catalog) {s : Scanner ρ} (uses : List ScannerUse)
    (h : s.closed = true) : (runAll c s uses).closed = true := by
  induction uses generalizing s with
  | nil => exact h
  | cons u uses ih => exact ih (closed_run c s u h)

/-- Before the first iteration, a scanner is closed by being told to. -/
theorem closed_iff_of_not_iterating (c : Catalog) {s : Scanner ρ} {uses : List ScannerUse}
    (hopen : s.closed = false) (huses : ∀ u ∈ uses, u.iterates = false) :
    (runAll c s uses).closed = true ↔ .close ∈ uses := by
  induction uses generalizing s with
  | nil => exact ⟨fun h => absurd (hopen.symm.trans h) nofun, nofun⟩
  | cons u uses ih =>
    obtain ⟨hu, huses⟩ := List.forall_mem_cons.mp huses
    -- Any use but a close leaves the scanner open, and the close has to come later.
    have hlater (hkept : (u.run c s).closed = s.closed) (hother : .close ≠ u) :
        (runAll c s (u :: uses)).closed = true ↔ .close ∈ u :: uses := by
      rw [List.mem_cons, or_iff_right hother]
      exact ih (hkept.trans hopen) huses
    cases u with
    | columns => exact hlater (closed_columnNames s) nofun
    | scanRow d => exact hlater (closed_scanRow c s d) nofun
    | close => exact ⟨fun _ => List.mem_cons_self, fun _ => closed_runAll c uses (closed_close s)⟩
    | advance => cases hu
    | scan d => cases hu

/-- A run keeps a scanner resting where no first scan after the close can settle its plan. The
induction is on the last use. -/
theorem resting_runAll (c : Catalog) {s : Scanner (Recorded ρ)} (h : s.Resting)
    {uses : List ScannerUse}
    (huses : ∀ before d after, uses = before ++ .scan d :: after →
      (runAll c s before).closed = true → (runAll c s before).mode = .fresh →
      ∀ plan, (runAll c s before).planFor c d ≠ .ok plan) : (runAll c s uses).Resting := by
  induction uses using List.reverseRecOn with
  | nil => exact h
  | append_singleton uses u ih =>
    rw [runAll_append]
    refine Resting.run (ih fun before d after hsplit => ?_) c fun d hu => ?_
    · exact huses before d (after ++ [u]) (by rw [hsplit, List.append_assoc, List.cons_append])
    · exact huses uses d [] (by rw [hu])

end ScannerUse

/-- **A scanner lets its source alone once it has closed it, but for a scan that nothing stops.**
For every source and every run of uses: no row is asked for after the close, and no scan of the
closed scanner succeeds, exactly where no scan comes after a close, before any other iteration, and
can settle its columns and its plan. -/
theorem ScannerUse.atRest_iff {ρ : Type} [RowSource ρ] (c : Catalog) (rows : ρ) (o : Options)
    (single : Bool) (uses : List ScannerUse) :
    ((ScannerUse.runAll c (Scanner.start rows o single) uses).rows.AtRest ∧
      ∀ before d after, uses = before ++ .scan d :: after →
        (ScannerUse.runAll c (Scanner.start rows o single) before).closed = true →
        (Scanner.scan c (ScannerUse.runAll c (Scanner.start rows o single) before, d)).1 ≠
          .ok ()) ↔
      ∀ before d after, uses = before ++ .scan d :: after → .close ∈ before →
        (∀ u ∈ before, u.iterates = false) →
        ∀ plan,
          (ScannerUse.runAll c (Scanner.start rows o single) before).planFor c d ≠ .ok plan := by
  have hstart : (Scanner.start rows o single).Resting := ⟨rfl, nofun, .nil⟩
  constructor
  · rintro ⟨hrest, -⟩ before d after rfl hclose hbefore plan hplan
    have honce := hstart.once.runAll c before
    have hfresh : (ScannerUse.runAll c (Scanner.start rows o single) before).mode = .fresh :=
      Scanner.mode_runAll c rfl hbefore
    have hclosed :=
      (ScannerUse.closed_iff_of_not_iterating (s := Scanner.start rows o single) c rfl
        hbefore).mpr hclose
    refine Scanner.not_atRest_of_planned c honce hclosed hfresh hplan ?_ hrest
    rw [ScannerUse.runAll_append]
    exact ScannerUse.asks_runAll c _ after
  · intro huses
    have hunplanned : ∀ before d after, uses = before ++ .scan d :: after →
        (ScannerUse.runAll c (Scanner.start rows o single) before).closed = true →
        (ScannerUse.runAll c (Scanner.start rows o single) before).mode = .fresh → ∀ plan,
          (ScannerUse.runAll c (Scanner.start rows o single) before).planFor c d ≠ .ok plan := by
      intro before d after hsplit hclosed hfresh
      have hbefore := (ScannerUse.iterates_of_fresh c hfresh).2
      have hclose := (ScannerUse.closed_iff_of_not_iterating c rfl hbefore).mp hclosed
      exact huses before d after hsplit hclose hbefore
    refine ⟨(ScannerUse.resting_runAll c hstart hunplanned).atRest, ?_⟩
    intro before d after hsplit hclosed
    obtain ⟨e, hfails⟩ :=
      Scanner.scan_fails_of_unplanned c (hunplanned before d after hsplit hclosed)
    rw [hfails]
    exact nofun

/-- Rows held in memory whose columns were read, and that were closed before the first iteration: a
scan into a list then asks for a row, finds none, and succeeds with an empty list. -/
theorem ScannerUse.scan_succeeds_after_close :
    let c := Catalog.ofDeclarations #[] fun _ name => name
    let rows : BufferedRows := { columns := ["id"], rows := [[.int 1], [.int 2]] }
    let number := Destination.scalar (.blank (.int ⟨true, .w64⟩))
    let s := ScannerUse.runAll c (Scanner.start rows {} false) [.columns, .close]
    s.closed = true ∧
      (Scanner.scan c (s, .listOf number)).1 = .ok () ∧
      (Scanner.scan c (s, .listOf number)).2.2 = .listOf number ∧
      ¬ (ScannerUse.runAll c (Scanner.start rows {} false)
        [.columns, .close, .scan (.listOf number)]).rows.AtRest := by
  intro c rows number s
  have honce : s.ClosedOnce := rfl
  have hplan : s.planFor c (.listOf number) = .ok .scalar := rfl
  have hfill : Scanner.fillList c .scalar ["id"] number s.rows [] =
      (.ok (), (RowSource.advance s.rows).2, []) := by
    rw [Scanner.fillList_eq]
    rfl
  have hscanned : Scanner.scanRows c ({ s with mode := .automatic }, .listOf number) =
      (.ok (), { s with mode := .automatic, rows := (RowSource.advance s.rows).2 },
        .listOf number) :=
    congrArg (fun filled => (filled.1, { s with mode := .automatic, rows := filled.2.1 },
      Destination.list number.shape number filled.2.2)) hfill
  have hscan := Scanner.scan_of_fresh c (s := s) rfl (.listOf number)
  simp only [hscanned] at hscan
  have hclosed : (Scanner.scan c (s, .listOf number)).1 = .ok () := by
    rw [hscan]
    rfl
  refine ⟨rfl, hclosed, ?_, Scanner.not_atRest_of_planned c honce rfl rfl hplan (.refl _)⟩
  rw [hscan]

end Rowbind
