import Rowbind.Proofs.Scanner.Calls
import Rowbind.Record.Declaration
import Rowbind.Rows.Faulty

/-!
# A scanner closes its source once

Whatever a scanner is used for, it calls its source's close at most once, and has called it exactly
if it says that it is closed (`ClosedOnce`). A scan leaves the source closed, wherever it was given
up: all its early ends are inside `scanRows`, which closes nothing, and the close comes after it. Of
the two things that can fail, the scanning has the say; a failure to close is reported only where
the scanning succeeded (`ScannerUse.closing_discipline`).

Whether a scan is accepted hangs on the earlier uses alone: it is the first use that iterates.
-/

namespace Rowbind

/-- **Whether a use iterates over the rows**, in the automatic or in the manual way. -/
def ScannerUse.iterates : ScannerUse → Bool
  | advance | scan _ => true
  | _ => false

namespace Scanner

open Recorded

variable {ρ : Type} [RowSource ρ]

/-! ## The mode -/

theorem mode_columnNames (s : Scanner ρ) : s.columnNames.2.mode = s.mode := by
  obtain ⟨rows, columns, hread⟩ := frame_columnNames s
  rw [hread]

theorem mode_close (s : Scanner ρ) : s.close.2.mode = s.mode := by
  unfold close
  split <;> rfl

theorem mode_scanRow (c : Catalog) (s : Scanner ρ) (d : Destination) :
    (scanRow c (s, d)).2.1.mode = s.mode := by
  have hstores := storesRow c s d
  generalize scanRow c (s, d) = result at hstores ⊢
  cases hstores <;> rfl

/-- A use that does not iterate leaves a fresh scanner fresh. -/
theorem mode_run {s : Scanner ρ} {u : ScannerUse} (c : Catalog) (hfresh : s.mode = .fresh)
    (hu : u.iterates = false) : (u.run c s).mode = .fresh := by
  cases u with
  | columns => exact (mode_columnNames s).trans hfresh
  | scanRow d => exact (mode_scanRow c s d).trans hfresh
  | close => exact (mode_close s).trans hfresh
  | advance => cases hu
  | scan d => cases hu

/-- A scanner that no use has iterated with is fresh. -/
theorem mode_runAll (c : Catalog) {s : Scanner ρ} {uses : List ScannerUse}
    (hfresh : s.mode = .fresh) (huses : ∀ u ∈ uses, u.iterates = false) :
    (ScannerUse.runAll c s uses).mode = .fresh := by
  induction uses generalizing s with
  | nil => exact hfresh
  | cons u uses ih =>
    exact ih (mode_run c hfresh (huses u List.mem_cons_self))
      fun u' hu' => huses u' (List.mem_cons_of_mem u hu')

/-! ## Closing -/

/-- Scanning all rows closes nothing, and opens nothing. -/
theorem closed_scanRows (c : Catalog) (s : Scanner ρ) (d : Destination) :
    (scanRows c (s, d)).2.1.closed = s.closed := by
  obtain ⟨rows, columns, hscanned⟩ := frame_scanRows c s d
  rw [hscanned]

/-- An accepted scan scans all rows, then closes. -/
theorem scan_of_fresh (c : Catalog) {s : Scanner ρ} (hfresh : s.mode = .fresh)
    (d : Destination) :
    let scanned := scanRows c ({ s with mode := .automatic }, d)
    scan c (s, d) =
      (match scanned.1 with
        | .ok () => scanned.2.1.close.1
        | .error e => .error e, (scanned.2.1.close.2, scanned.2.2)) := by
  obtain ⟨rows, o, single, mode, columns, hasRow, closed⟩ := s
  obtain rfl : mode = .fresh := hfresh
  rfl

/-- A scanner that is not fresh refuses to scan, and is left as it is. -/
theorem scan_of_not_fresh (c : Catalog) {s : Scanner ρ} (hused : s.mode ≠ .fresh)
    (d : Destination) : (scan c (s, d)).2 = (s, d) := by
  unfold scan
  cases hmode : s.mode with
  | fresh => exact absurd hmode hused
  | automatic => simp only [hmode]
  | manual => simp only [hmode]

/-- **What closing asks**: nothing of a closed source, and of an open one its close. -/
theorem calls_close (s : Scanner (Recorded ρ)) :
    s.close.2.rows.calls =
      s.rows.calls ++ if s.closed then [] else [.close s.close.1] := by
  unfold close
  cases s.closed with
  | true => exact (List.append_nil _).symm
  | false => rfl

/-- Closing a closed scanner succeeds. -/
theorem close_of_closed {s : Scanner ρ} (h : s.closed = true) : s.close.1 = .ok () := by
  rw [close, if_pos h]

/-- **Whether the source was closed as often as the scanner says**: once, or not at all. -/
def ClosedOnce (s : Scanner (Recorded ρ)) : Prop :=
  s.rows.closings = if s.closed then 1 else 0

omit [RowSource ρ] in
/-- An operation that closes nothing keeps the count. -/
theorem ClosedOnce.of_asks {s s' : Scanner (Recorded ρ)} (h : s.ClosedOnce)
    (hclosed : s'.closed = s.closed)
    (hasks : Asks (RowCall.isClose · = false) s.rows s'.rows) : s'.ClosedOnce := by
  rw [ClosedOnce, hclosed, hasks.closings_eq]
  exact h

/-- After closing, the source was closed once. -/
theorem ClosedOnce.close {s : Scanner (Recorded ρ)} (h : s.ClosedOnce) :
    s.close.2.rows.closings = 1 := by
  rw [ClosedOnce] at h
  rw [closings, calls_close, List.countP_append, ← closings, h]
  cases s.closed with
  | true => rfl
  | false => rfl

/-- Scanning all rows keeps the count, whatever the mode says. -/
theorem ClosedOnce.scanRows {s : Scanner (Recorded ρ)} (h : s.ClosedOnce) (c : Catalog)
    (d : Destination) : (Scanner.scanRows c (s, d)).2.1.ClosedOnce :=
  h.of_asks (closed_scanRows c s d) (asks_scanRows c s d)

/-- **Every use keeps the count.** -/
theorem ClosedOnce.run {s : Scanner (Recorded ρ)} (h : s.ClosedOnce) (c : Catalog)
    (u : ScannerUse) : (u.run c s).ClosedOnce := by
  cases u with
  | columns => exact h.of_asks (closed_columnNames s) (asks_columnNames s).of_columns
  | advance => exact h.of_asks (closed_advance s) (asks_advanceRow s)
  | scanRow d => exact h.of_asks (closed_scanRow c s d) (asks_scanRow c s d)
  | close =>
    show s.close.2.ClosedOnce
    rw [ClosedOnce, h.close, closed_close, if_pos rfl]
  | scan d =>
    show (Scanner.scan c (s, d)).2.1.ClosedOnce
    by_cases hfresh : s.mode = .fresh
    · have hscanned : (Scanner.scanRows c ({ s with mode := .automatic }, d)).2.1.ClosedOnce :=
        ClosedOnce.scanRows (s := { s with mode := .automatic }) h c d
      rw [scan_of_fresh c hfresh d, ClosedOnce, hscanned.close, closed_close, if_pos rfl]
    · rw [scan_of_not_fresh c hfresh d]
      exact h

/-- **Every run of uses keeps the count.** -/
theorem ClosedOnce.runAll {s : Scanner (Recorded ρ)} (h : s.ClosedOnce) (c : Catalog)
    (uses : List ScannerUse) : (ScannerUse.runAll c s uses).ClosedOnce := by
  induction uses generalizing s with
  | nil => exact h
  | cons u uses ih => exact ih (h.run c u)

/-- **A scan that is accepted closes its source**, whatever comes of the scanning, and reports the
scanning's error, else that of the close it asked for. -/
theorem ClosedOnce.scan {s : Scanner (Recorded ρ)} (h : s.ClosedOnce) (c : Catalog)
    (hfresh : s.mode = .fresh) (d : Destination) {scanned : Except Error Unit}
    {s₁ : Scanner (Recorded ρ)} {d₁ : Destination}
    (hscanned : Scanner.scanRows c ({ s with mode := .automatic }, d) = (scanned, s₁, d₁)) :
    ∃ answer s₂, Scanner.scan c (s, d) = (answer, s₂, d₁) ∧ s₂.closed = true ∧
      s₂.rows.closings = 1 ∧ (∀ e, scanned = .error e → answer = .error e) ∧
      (scanned = .ok () → ∀ e, answer = .error e ↔
        .close (.error e) ∈ s₂.rows.calls.drop s₁.rows.calls.length) := by
  have honce : s₁.ClosedOnce := by
    have := ClosedOnce.scanRows (s := { s with mode := .automatic }) h c d
    rwa [hscanned] at this
  have hscan := scan_of_fresh c hfresh d
  simp only [hscanned] at hscan
  refine ⟨_, _, hscan, closed_close s₁, honce.close, ?_, ?_⟩
  · rintro e rfl
    rfl
  · rintro rfl e
    rw [calls_close, List.drop_left]
    cases hclosed : s₁.closed with
    | true =>
      rw [close_of_closed hclosed]
      exact ⟨nofun, nofun⟩
    | false =>
      rw [if_neg Bool.false_ne_true, List.mem_singleton, RowCall.close.injEq]
      exact eq_comm

end Scanner

/-- **A scanner closes its source once, and says so.** For every run of uses, on every source: the
close was called once if the scanner is closed, and else not at all. A scan that is the first use to
iterate leaves the source closed, whatever comes of it; what it scans closes nothing; and it reports
the error of the scanning, or where there is none the error of the close that it asked for. -/
theorem ScannerUse.closing_discipline {ρ : Type} [RowSource ρ] (c : Catalog) (rows : ρ)
    (o : Options) (single : Bool) (uses : List ScannerUse) :
    let s := ScannerUse.runAll c (Scanner.start rows o single) uses
    s.map Recorded.rows =
        ScannerUse.runAll c { rows := rows, options := o, single := single } uses ∧
      s.rows.closings = (if s.closed then 1 else 0) ∧
      ((∀ u ∈ uses, u.iterates = false) → ∀ d, ∃ scanned s₁ d₁ answer s₂,
        Scanner.scanRows c ({ s with mode := .automatic }, d) = (scanned, s₁, d₁) ∧
        s₁.rows.closings = s.rows.closings ∧
        Scanner.scan c (s, d) = (answer, s₂, d₁) ∧ s₂.closed = true ∧ s₂.rows.closings = 1 ∧
        (∀ e, scanned = .error e → answer = .error e) ∧
        (scanned = .ok () → ∀ e, answer = .error e ↔
          .close (.error e) ∈ s₂.rows.calls.drop s₁.rows.calls.length)) := by
  intro s
  have honce : s.ClosedOnce := by
    have hstart : (Scanner.start rows o single).ClosedOnce := rfl
    exact hstart.runAll c uses
  refine ⟨ScannerUse.runAll_recorded c _ uses, honce, fun huses d => ?_⟩
  have hfresh : s.mode = .fresh := Scanner.mode_runAll c rfl huses
  have hasks := Scanner.asks_scanRows c { s with mode := .automatic } d
  rcases hscanned : Scanner.scanRows c ({ s with mode := .automatic }, d) with ⟨scanned, s₁, d₁⟩
  rw [hscanned] at hasks
  obtain ⟨answer, s₂, hscan, hclosed, hclosings, herror, hclose⟩ :=
    honce.scan c hfresh d hscanned
  exact ⟨scanned, s₁, d₁, answer, s₂, rfl, hasks.closings_eq, hscan, hclosed, hclosings, herror,
    hclose⟩

/-- A source that fails to close: asked for its columns first, then scanned. The row is stored, the
source was closed once, and the failure to close is reported. -/
theorem ScannerUse.closing_discipline_of_faulty :
    let c := Catalog.ofDeclarations #[] fun _ name => name
    let rows : FaultyRows :=
      { rows := ⟨["id"], [[.int 1]], none, false⟩, faults := { close := some (.driver "broken") } }
    let s := ScannerUse.runAll c (Scanner.start rows {} true) [.columns]
    ∃ s₂, Scanner.scan c (s, .map []) =
        (.error (.driver "broken"), s₂, .map [("id", .int 1)]) ∧
      s.rows.closings = 0 ∧ s₂.closed = true ∧ s₂.rows.closings = 1 := by
  intro c rows s
  obtain ⟨-, hcount, hscan⟩ := ScannerUse.closing_discipline c rows {} true [.columns]
  obtain ⟨scanned, s₁, d₁, answer, s₂, -, -, hanswer, hclosed, hclosings, -⟩ :=
    hscan (by decide) (.map [])
  have hbroken : (Scanner.scan c (s, .map [])).1 = .error (.driver "broken") := rfl
  have hstored : (Scanner.scan c (s, .map [])).2.2 = .map [("id", .int 1)] := rfl
  rw [hanswer] at hbroken hstored
  exact ⟨s₂, hbroken ▸ hstored ▸ hanswer, hcount.trans rfl, hclosed, hclosings⟩

end Rowbind
