import Rowbind.Proofs.Scanner.AfterClose
import Rowbind.Proofs.Scanner.Steps

/-!
# What a scanner's flag says about its history

What a run of uses has come to is told by the uses alone, and by what each of them called and
answered (`ScannerUse.calls`). That one use came, and that all uses since were of some kind, is said
with `ScannerUse.Since`.

A scanner keeps a flag for its current row. The flag is set exactly if some advance found a row, and
since then no row was taken, no advance found the end, and the scanner was not closed
(`ScannerUse.hasRow_iff_since`). An advance that fails is none of these: it leaves the flag as it
was.
-/

namespace Rowbind

open Recorded

namespace RowCall

/-- Whether a call asks for the next row. -/
def isAdvance : RowCall → Bool
  | advance _ => true
  | _ => false

/-- Whether a call asks for the values of a row. -/
def isTake : RowCall → Bool
  | take _ => true
  | _ => false

/-- The error that a call was answered with. -/
def error? : RowCall → Option Error
  | columns (.error e) | advance (.error e) | take (.error e) | close (.error e) => some e
  | _ => none

end RowCall

namespace Recorded

variable {ρ : Type} [RowSource ρ] {rows rows' : Recorded ρ}

omit [RowSource ρ] in
/-- What stands behind the earlier calls is what was asked for. -/
theorem Asks.drop {P : RowCall → Prop} (h : Asks P rows rows') :
    ∀ call ∈ rows'.calls.drop rows.calls.length, P call := by
  obtain ⟨made, hmade, hP⟩ := h
  rwa [hmade, List.drop_left]

/-- Columns are written down as they were answered. -/
theorem calls_columns {answer : Except Error (List String)}
    (h : RowSource.columns rows = (answer, rows')) :
    rows'.calls = rows.calls ++ [.columns answer] := by
  obtain ⟨rfl, rfl⟩ := Prod.mk.inj h
  rfl

/-- An advance is written down with its answer. -/
theorem calls_advance {answer : Except Error Bool}
    (h : RowSource.advance rows = (answer, rows')) :
    rows'.calls = rows.calls ++ [.advance answer] := by
  obtain ⟨rfl, rfl⟩ := Prod.mk.inj h
  rfl

/-- A taking of values is written down with its answer. -/
theorem calls_take {answer : Except Error (List Value)}
    (h : RowSource.take rows = (answer, rows')) : rows'.calls = rows.calls ++ [.take answer] := by
  obtain ⟨rfl, rfl⟩ := Prod.mk.inj h
  rfl

omit [RowSource ρ] in
/-- **Behind calls without an error, an error is the last call's.** -/
theorem Asks.error?_last {rows₁ : Recorded ρ} {call last : RowCall} {e : Error}
    (h : Asks (RowCall.error? · = none) rows rows₁) (hlast : rows'.calls = rows₁.calls ++ [last])
    (hcall : call ∈ rows'.calls.drop rows.calls.length) (herror : call.error? = some e) :
    last.error? = some e := by
  obtain ⟨made, hmade, hquiet⟩ := h
  rw [hlast, hmade, List.append_assoc, List.drop_left, List.mem_append, List.mem_singleton] at hcall
  rcases hcall with hcall | rfl
  · cases (hquiet call hcall).symm.trans herror
  · exact herror

end Recorded

namespace ScannerUse

variable {ρ : Type} [RowSource ρ] {c : Catalog}

/-! ## The calls of a use -/

/-- **The calls that a use makes.** -/
def calls (c : Catalog) (s : Scanner (Recorded ρ)) (u : ScannerUse) : List RowCall :=
  (u.run c s).rows.calls.drop s.rows.calls.length

/-- What is behind the earlier calls, the use has made. -/
theorem calls_eq {s : Scanner (Recorded ρ)} {u : ScannerUse} {made : List RowCall}
    (h : (u.run c s).rows.calls = s.rows.calls ++ made) : u.calls c s = made := by
  rw [calls, h, List.drop_left]

/-! ## Since -/

/-- **Whether a use of one kind came, and all uses since were of another.** Both kinds are said of
the scanner that the use found, and of the use. -/
def Since (c : Catalog) (P Q : Scanner ρ → ScannerUse → Prop) (s : Scanner ρ)
    (uses : List ScannerUse) : Prop :=
  ∃ before u after, uses = before ++ u :: after ∧ P (runAll c s before) u ∧
    ∀ mid v rest, after = mid ++ v :: rest → Q (runAll c s (before ++ u :: mid)) v

variable {P Q : Scanner ρ → ScannerUse → Prop} {s : Scanner ρ} {uses : List ScannerUse}
  {u : ScannerUse}

theorem not_since_nil : ¬ Since c P Q s [] := by
  rintro ⟨before, u, after, h, -⟩
  exact absurd h.symm (by simp)

/-- The last use is the one that came, or it came before and the last is of the other kind. -/
theorem since_concat :
    Since c P Q s (uses ++ [u]) ↔
      P (runAll c s uses) u ∨ Since c P Q s uses ∧ Q (runAll c s uses) u := by
  constructor
  · rintro ⟨before, v, after, hsplit, hP, hQ⟩
    rcases List.eq_nil_or_concat after with rfl | ⟨after, w, rfl⟩
    · obtain ⟨rfl, hlast⟩ := List.append_inj' hsplit rfl
      cases hlast
      exact .inl hP
    · rw [List.concat_eq_append, ← List.cons_append, ← List.append_assoc] at hsplit
      obtain ⟨rfl, hlast⟩ := List.append_inj' hsplit rfl
      cases hlast
      refine .inr ⟨⟨before, v, after, rfl, hP, fun mid v' rest hmid => ?_⟩, ?_⟩
      · exact hQ mid v' (rest ++ [u]) (by simp [hmid])
      · exact hQ after u [] (by simp)
  · rintro (hP | ⟨⟨before, v, after, rfl, hP, hQ⟩, hlast⟩)
    · exact ⟨uses, u, [], rfl, hP, fun mid v rest h => absurd h.symm (by simp)⟩
    · refine ⟨before, v, after ++ [u], by simp, hP, fun mid v' rest hmid => ?_⟩
      rcases List.eq_nil_or_concat rest with rfl | ⟨rest, w, rfl⟩
      · obtain ⟨rfl, heq⟩ := List.append_inj' hmid rfl
        cases heq
        exact hlast
      · rw [List.concat_eq_append, ← List.cons_append, ← List.append_assoc] at hmid
        obtain ⟨rfl, -⟩ := List.append_inj' hmid rfl
        exact hQ mid v' rest rfl

/-! ## The current row -/

/-- **Whether a use goes on to the next row and finds one.** -/
def FindsRow (s : Scanner ρ) (u : ScannerUse) : Prop := u = .advance ∧ s.advance.1 = .ok true

/-- **Whether a use takes a row**: it asks for the values and is given them. -/
def TakesRow (c : Catalog) (s : Scanner (Recorded ρ)) (u : ScannerUse) : Prop :=
  ∃ values, .take (.ok values) ∈ u.calls c s

/-- **Whether a use leaves the current row**: it does not take it, does not find the end behind it,
and does not close the scanner. -/
structure LeavesRow (c : Catalog) (s : Scanner (Recorded ρ)) (u : ScannerUse) : Prop where
  untaken : ¬ u.TakesRow c s
  notPast : u = .advance → s.advance.1 ≠ .ok false
  stillOpen : (u.run c s).closed = false

end ScannerUse

namespace Scanner

variable {ρ : Type} [RowSource ρ]

/-- **Whether a current row is one that was gone to by hand**, and not closed since. -/
def RowByHand (s : Scanner ρ) : Prop :=
  s.hasRow = true → s.mode = .manual ∧ s.closed = false

/-- An accepted scan leaves no current row. -/
theorem hasRow_scan (c : Catalog) {s : Scanner ρ} (h : s.RowByHand) (hfresh : s.mode = .fresh)
    (d : Destination) : (scan c (s, d)).2.1.hasRow = false := by
  have hnone : s.hasRow = false := by
    rw [Bool.eq_false_iff]
    intro hrow
    exact absurd ((h hrow).1.symm.trans hfresh) nofun
  obtain ⟨rows, columns, hscanned⟩ := frame_scanRows c { s with mode := .automatic } d
  rw [scan_of_fresh c hfresh d]
  show (scanRows c ({ s with mode := .automatic }, d)).2.1.close.2.hasRow = false
  rw [hscanned, close]
  split
  · exact hnone
  · rfl

theorem hasRow_close {s : Scanner ρ} (h : s.RowByHand) : s.close.2.hasRow = false := by
  rw [close]
  split
  · rename_i hclosed
    rw [Bool.eq_false_iff]
    intro hrow
    exact Bool.false_ne_true ((h hrow).2.symm.trans hclosed)
  · rfl

theorem RowByHand.run {s : Scanner ρ} (h : s.RowByHand) (c : Catalog) (u : ScannerUse) :
    (u.run c s).RowByHand := by
  cases u with
  | columns =>
    obtain ⟨rows, columns, hread⟩ := frame_columnNames s
    show s.columnNames.2.RowByHand
    rw [hread]
    exact h
  | advance =>
    show s.advance.2.RowByHand
    have hadvance := s.advances
    generalize s.advance = result at hadvance ⊢
    cases hadvance with
    | refused => exact h
    | closed _ hclosed => exact fun hrow => absurd ((h hrow).2.symm.trans hclosed) nofun
    | unread _ hopen => exact fun _ => ⟨rfl, hopen⟩
    | failed _ hopen => exact fun _ => ⟨rfl, hopen⟩
    | went _ hopen => exact fun _ => ⟨rfl, hopen⟩
  | scan d =>
    show (Scanner.scan c (s, d)).2.1.RowByHand
    by_cases hfresh : s.mode = .fresh
    · exact fun hrow => absurd ((hasRow_scan c h hfresh d).symm.trans hrow) nofun
    · rw [scan_of_not_fresh c hfresh d]
      exact h
  | scanRow d =>
    show (Scanner.scanRow c (s, d)).2.1.RowByHand
    have hstores := storesRow c s d
    generalize Scanner.scanRow c (s, d) = result at hstores ⊢
    cases hstores with
    | refused => exact h
    | unread => exact h
    | unmapped => exact h
    | failed => exact h
    | stored => exact nofun
  | close => exact fun hrow => absurd ((hasRow_close h).symm.trans hrow) nofun

theorem RowByHand.runAll {s : Scanner ρ} (h : s.RowByHand) (c : Catalog)
    (uses : List ScannerUse) : (ScannerUse.runAll c s uses).RowByHand := by
  induction uses generalizing s with
  | nil => exact h
  | cons u uses ih => exact ih (h.run c u)

/-! ## What becomes of the flag -/

/-- Going on to the next row takes no row. -/
theorem asks_advance_untaken (s : Scanner (Recorded ρ)) :
    Asks (RowCall.isTake · = false) s.rows s.advance.2.rows := by
  have hcolumns : ∀ call : RowCall, call.isColumns = true → call.isTake = false := by
    intro call hcall
    obtain ⟨answer, rfl⟩ := RowCall.eq_columns hcall
    rfl
  have hadvance := s.advances
  generalize s.advance = result at hadvance ⊢
  cases hadvance with
  | refused => exact .refl _
  | closed => exact .refl _
  | unread _ _ _ hread => exact (asks_of_columnNames hread).mono hcolumns
  | failed _ _ hread hadvance =>
    exact ((asks_of_columnNames hread).mono hcolumns).trans (asks_record hadvance rfl)
  | went _ _ hread hadvance =>
    exact ((asks_of_columnNames hread).mono hcolumns).trans (asks_record hadvance rfl)

omit [RowSource ρ] in
/-- Columns are no values. -/
theorem take_notMem_of_columns {rows rows' : Recorded ρ} (h : Asks (RowCall.isColumns ·) rows rows')
    (answer : Except Error (List Value)) : .take answer ∉ rows'.calls.drop rows.calls.length :=
  fun hmem => absurd (h.drop _ hmem) nofun

/-- Values that are asked for behind the columns. -/
theorem take_mem_of_columns {rows rows₁ rows' : Recorded ρ} {answer : Except Error (List Value)}
    (h : Asks (RowCall.isColumns ·) rows rows₁) (htake : RowSource.take rows₁ = (answer, rows'))
    (answer' : Except Error (List Value)) :
    .take answer' ∈ rows'.calls.drop rows.calls.length ↔ answer' = answer := by
  obtain ⟨made, hmade, hcolumns⟩ := h
  rw [calls_take htake, hmade, List.append_assoc, List.drop_left, List.mem_append,
    List.mem_singleton, RowCall.take.injEq]
  exact or_iff_right fun hmem => absurd (hcolumns _ hmem) nofun

/-- **When the values of the current row are asked for**: when the scanner is used by hand and has a
current row, and its columns are mapped to the destination. -/
theorem asksValues_scanRow_iff (c : Catalog) (s : Scanner (Recorded ρ)) (d : Destination) :
    (∃ answer, .take answer ∈ (ScannerUse.scanRow d).calls c s) ↔
      s.mode = .manual ∧ s.hasRow = true ∧ ∃ columns plan, s.Mapped c d columns plan := by
  have hstores := storesRow c s d
  simp only [ScannerUse.calls, ScannerUse.run]
  generalize scanRow c (s, d) = result at hstores ⊢
  cases hstores with
  | refused hnone =>
    refine iff_of_false ?_ ?_
    · rintro ⟨answer, hmem⟩
      exact take_notMem_of_columns (.refl _) answer hmem
    · rintro ⟨hmode, hrow, -⟩
      rcases hnone with hnone | hnone
      · exact hnone hmode
      · exact absurd (hnone.symm.trans hrow) nofun
  | unread hmode hrow hunread hcolumns =>
    refine iff_of_false ?_ ?_
    · rintro ⟨answer, hmem⟩
      exact take_notMem_of_columns (asks_of_columnNames hcolumns) answer hmem
    · rintro ⟨-, -, columns, plan, hmapped⟩
      have hread := columnNames_eq_ok_iff.mpr hmapped.hasColumns
      rw [hcolumns] at hread
      cases hread
  | unmapped hmode hrow hcolumns hplan =>
    refine iff_of_false ?_ ?_
    · rintro ⟨answer, hmem⟩
      exact take_notMem_of_columns (asks_of_columnNames hcolumns) answer hmem
    · rintro ⟨-, -, columns, plan, hmapped⟩
      have hread := columnNames_eq_ok_iff.mpr hmapped.hasColumns
      rw [hcolumns] at hread
      cases hread
      exact hplan plan hmapped.plan_eq
  | failed hmode hrow hcolumns hplan htake =>
    have hread := columnNames_eq_ok_iff.mp (congrArg Prod.fst hcolumns)
    exact iff_of_true
      ⟨_, (take_mem_of_columns (asks_of_columnNames hcolumns) htake _).mpr rfl⟩
      ⟨hmode, hrow, _, _, hread, hplan⟩
  | stored hmode hrow hcolumns hplan htake =>
    have hread := columnNames_eq_ok_iff.mp (congrArg Prod.fst hcolumns)
    exact iff_of_true
      ⟨_, (take_mem_of_columns (asks_of_columnNames hcolumns) htake _).mpr rfl⟩
      ⟨hmode, hrow, _, _, hread, hplan⟩

/-- **Storing the current row clears the flag exactly if it takes the row.** -/
theorem hasRow_scanRow (c : Catalog) (s : Scanner (Recorded ρ)) (d : Destination) :
    ((ScannerUse.scanRow d).TakesRow c s ∧ (scanRow c (s, d)).2.1.hasRow = false) ∨
      (¬ (ScannerUse.scanRow d).TakesRow c s ∧ (scanRow c (s, d)).2.1.hasRow = s.hasRow) := by
  have hstores := storesRow c s d
  simp only [ScannerUse.TakesRow, ScannerUse.calls, ScannerUse.run]
  generalize scanRow c (s, d) = result at hstores ⊢
  cases hstores with
  | refused =>
    exact .inr ⟨fun ⟨values, hmem⟩ => take_notMem_of_columns (.refl _) _ hmem, rfl⟩
  | unread _ _ _ hcolumns =>
    refine .inr ⟨fun ⟨values, hmem⟩ => ?_, rfl⟩
    exact take_notMem_of_columns (asks_of_columnNames hcolumns) _ hmem
  | unmapped _ _ hcolumns =>
    refine .inr ⟨fun ⟨values, hmem⟩ => ?_, rfl⟩
    exact take_notMem_of_columns (asks_of_columnNames hcolumns) _ hmem
  | failed _ _ hcolumns _ htake =>
    refine .inr ⟨fun ⟨values, hmem⟩ => ?_, rfl⟩
    cases (take_mem_of_columns (asks_of_columnNames hcolumns) htake _).mp hmem
  | stored _ _ hcolumns _ htake =>
    exact .inl ⟨⟨_, (take_mem_of_columns (asks_of_columnNames hcolumns) htake _).mpr rfl⟩, rfl⟩

variable {c : Catalog} {s : Scanner (Recorded ρ)} {u : ScannerUse}

/-- A use that takes no row, and keeps the flag and what is closed, leaves the row. -/
theorem hasRow_iff_of_kept (h : s.RowByHand) (hnot : u ≠ .advance)
    (hrow : (u.run c s).hasRow = s.hasRow) (hclosed : (u.run c s).closed = s.closed)
    (huntaken : ¬ u.TakesRow c s) :
    (u.run c s).hasRow = true ↔ u.FindsRow s ∨ s.hasRow = true ∧ u.LeavesRow c s := by
  constructor
  · intro hafter
    have hbefore := hrow.symm.trans hafter
    exact .inr ⟨hbefore, huntaken, fun hadvance => absurd hadvance hnot,
      hclosed.trans (h hbefore).2⟩
  · rintro (⟨hadvance, -⟩ | ⟨hbefore, -⟩)
    · exact absurd hadvance hnot
    · exact hrow.trans hbefore

/-- A use that lets go of the row leaves none. -/
theorem hasRow_iff_of_lost (hnot : u ≠ .advance) (hrow : (u.run c s).hasRow = false)
    (hlost : ¬ u.LeavesRow c s) :
    (u.run c s).hasRow = true ↔ u.FindsRow s ∨ s.hasRow = true ∧ u.LeavesRow c s := by
  rw [hrow]
  exact ⟨nofun, fun h => h.elim (fun hfinds => absurd hfinds.1 hnot) fun h => absurd h.2 hlost⟩

/-- **What one use makes of the flag**: it is set after the use exactly if the use finds a row, or
if it was set before and the use leaves the row. -/
theorem hasRow_run_iff (h : s.RowByHand) :
    (u.run c s).hasRow = true ↔ u.FindsRow s ∨ s.hasRow = true ∧ u.LeavesRow c s := by
  cases u with
  | columns =>
    obtain ⟨rows, columns, hread⟩ := frame_columnNames s
    have hrun : ScannerUse.columns.run c s = { s with rows := rows, columns := columns } := hread
    refine hasRow_iff_of_kept h nofun (by rw [hrun]) (by rw [hrun]) ?_
    exact fun ⟨values, hmem⟩ => take_notMem_of_columns (asks_columnNames s) _ hmem
  | close =>
    refine hasRow_iff_of_lost nofun (hasRow_close h) fun hleaves => ?_
    exact absurd ((closed_close s).symm.trans hleaves.stillOpen) nofun
  | scan d =>
    by_cases hfresh : s.mode = .fresh
    · refine hasRow_iff_of_lost nofun (hasRow_scan c h hfresh d) fun hleaves => ?_
      have hopen := hleaves.stillOpen
      rw [ScannerUse.run, scan_of_fresh c hfresh d] at hopen
      exact absurd ((closed_close _).symm.trans hopen) nofun
    · have hrun : (ScannerUse.scan d).run c s = s := by
        rw [ScannerUse.run, scan_of_not_fresh c hfresh d]
      refine hasRow_iff_of_kept h nofun (by rw [hrun]) (by rw [hrun]) fun ⟨values, hmem⟩ => ?_
      rw [ScannerUse.calls, hrun, List.drop_length] at hmem
      exact absurd hmem List.not_mem_nil
  | scanRow d =>
    rcases hasRow_scanRow c s d with ⟨htakes, hrow⟩ | ⟨htakes, hrow⟩
    · exact hasRow_iff_of_lost nofun hrow fun hleaves => hleaves.untaken htakes
    · exact hasRow_iff_of_kept h nofun hrow (closed_scanRow c s d) htakes
  | advance =>
    have huntaken : ¬ ScannerUse.advance.TakesRow c s :=
      fun ⟨values, hmem⟩ => absurd ((asks_advance_untaken s).drop _ hmem) nofun
    have hclosed : (ScannerUse.advance.run c s).closed = s.closed := closed_advance s
    -- Of what is asked of an advance, only its answer is left to look at.
    have hfinds : ScannerUse.advance.FindsRow s ↔ s.advance.1 = .ok true := and_iff_right rfl
    have hleaves : s.hasRow = true →
        (ScannerUse.advance.LeavesRow c s ↔ s.advance.1 ≠ .ok false) := fun hrow =>
      ⟨fun hleaves => hleaves.notPast rfl,
        fun hnot => ⟨huntaken, fun _ => hnot, hclosed.trans (h hrow).2⟩⟩
    rw [hfinds, and_congr_right hleaves]
    have hadvance := s.advances
    show s.advance.2.hasRow = true ↔ _
    generalize s.advance = result at hadvance ⊢
    cases hadvance with
    | refused => simp
    | closed _ hclosed =>
      have hnone : s.hasRow ≠ true := fun hrow => absurd ((h hrow).2.symm.trans hclosed) nofun
      simp [hnone]
    | unread => simp
    | failed => simp
    | @went _ found => cases found <;> simp

end Scanner

/-- **The flag tells the history.** A scanner newly made has a current row after a run of uses
exactly if some advance found a row, and since then no row was taken, no advance found the end, and
the scanner was not closed. The induction is on the last use. -/
theorem ScannerUse.hasRow_iff_since {ρ : Type} [RowSource ρ] (c : Catalog) (rows : ρ)
    (o : Options) (single : Bool) (uses : List ScannerUse) :
    (runAll c (Scanner.start rows o single) uses).hasRow = true ↔
      Since c FindsRow (LeavesRow c) (Scanner.start rows o single) uses := by
  have hstart : (Scanner.start rows o single).RowByHand := nofun
  induction uses using List.reverseRecOn with
  | nil => exact iff_of_false nofun not_since_nil
  | append_singleton uses u ih =>
    rw [since_concat, runAll_append]
    exact (Scanner.hasRow_run_iff (hstart.runAll c uses)).trans
      (or_congr_right (and_congr_left' ih))

end Rowbind
