import Rowbind.Proofs.Scanner.History

/-!
# The two ways of a scanner exclude each other

A scanner is iterated with in the automatic way or by hand. A use of the other way is refused: it
fails with a usage error, calls nothing and changes nothing (`Scanner.Refuses`). What is refused
hangs on the mode and on the flag for the current row, and these tell what the scanner was used for
before: the mode is fresh as long as no use has iterated, it stays automatic once a scan was
accepted, and the flag is set exactly while there is a row to store
(`ScannerUse.ways_exclude`).
-/

namespace Rowbind

namespace Scanner

variable {ρ : Type} [RowSource ρ]

/-- **Whether a use is refused**: it fails with a usage error and leaves the scanner as it is, its
source and the calls written down by it included, and the destination too. Columns can be asked for
and scanners closed at any time. -/
def Refuses (c : Catalog) (s : Scanner ρ) : ScannerUse → Prop
  | .advance => ∃ fault, s.advance = (.error (.usage fault), s)
  | .scan d => ∃ fault, scan c (s, d) = (.error (.usage fault), s, d)
  | .scanRow d => ∃ fault, scanRow c (s, d) = (.error (.usage fault), s, d)
  | .columns | .close => False

variable {c : Catalog} {s : Scanner ρ}

/-! ## What is refused -/

theorem refuses_advance (h : s.mode = .automatic) : s.Refuses c .advance :=
  ⟨.manualAfterAutomatic, by simp only [advance, h]⟩

/-- Without a current row gone to by hand, none is stored. -/
theorem refuses_scanRow (h : s.mode ≠ .manual ∨ s.hasRow = false) (d : Destination) :
    s.Refuses c (.scanRow d) := by
  by_cases hmode : s.mode = .manual
  · have hrow : s.hasRow = false := h.resolve_left fun hnot => hnot hmode
    exact ⟨.noCurrentRow, by simp [scanRow, hmode, hrow]⟩
  · exact ⟨.rowBeforeAdvance, by simp [scanRow, hmode]⟩

/-- An accepted scan leaves the scanner in the automatic way. -/
theorem mode_scan (c : Catalog) (hfresh : s.mode = .fresh) (d : Destination) :
    (scan c (s, d)).2.1.mode = .automatic := by
  obtain ⟨rows, columns, hscanned⟩ := frame_scanRows c { s with mode := .automatic } d
  rw [scan_of_fresh c hfresh d]
  show (scanRows c ({ s with mode := .automatic }, d)).2.1.close.2.mode = .automatic
  rw [mode_close, hscanned]

/-- **A scan is refused by every scanner that is not fresh**, and by no other: a fresh one it
leaves in the automatic way, whatever comes of it. -/
theorem refuses_scan_iff {d : Destination} : s.Refuses c (.scan d) ↔ s.mode ≠ .fresh := by
  constructor
  · rintro ⟨fault, hrefused⟩ hfresh
    have hmode := mode_scan c hfresh d
    rw [hrefused] at hmode
    exact absurd (hfresh.symm.trans hmode) nofun
  · intro hused
    cases hmode : s.mode with
    | fresh => exact absurd hmode hused
    | automatic => exact ⟨.alreadyConsumed, by simp only [scan, hmode]⟩
    | manual => exact ⟨.automaticAfterManual, by simp only [scan, hmode]⟩

/-! ## The automatic way is kept -/

/-- No use leads out of the automatic way. -/
theorem mode_run_automatic (h : s.mode = .automatic) (u : ScannerUse) :
    (u.run c s).mode = .automatic := by
  cases u with
  | columns => exact (mode_columnNames s).trans h
  | close => exact (mode_close s).trans h
  | scanRow d => exact (mode_scanRow c s d).trans h
  | advance =>
    obtain ⟨fault, hrefused⟩ := refuses_advance (c := c) h
    rw [ScannerUse.run, hrefused]
    exact h
  | scan d =>
    have hused : s.mode ≠ .fresh := by
      rw [h]
      decide
    rw [ScannerUse.run, scan_of_not_fresh c hused d]
    exact h

theorem mode_runAll_automatic (h : s.mode = .automatic) (uses : List ScannerUse) :
    (ScannerUse.runAll c s uses).mode = .automatic := by
  induction uses generalizing s with
  | nil => exact h
  | cons u uses ih => exact ih (mode_run_automatic h u)

end Scanner

/-- **The two ways of a scanner exclude each other, without side effects.** For every source and
every run of uses of a scanner newly made:

* a scan is refused exactly if a use has iterated before, an advance whatever came of it or a scan;
* once a scan was accepted, every scan, every advance and every storing of a row is refused;
* a storing of a row is refused, unless some advance found a row, and since then no row was taken,
  no advance found the end, and the scanner was not closed.

What is refused fails with a usage error, calls nothing of the source, and changes neither the
scanner nor the destination. -/
theorem ScannerUse.ways_exclude {ρ : Type} [RowSource ρ] (c : Catalog) (rows : ρ) (o : Options)
    (single : Bool) (uses : List ScannerUse) :
    let start := Scanner.start rows o single
    let s := runAll c start uses
    (∀ d, s.Refuses c (.scan d) ↔ ∃ u ∈ uses, u.iterates = true) ∧
      (∀ before d after, uses = before ++ .scan d :: after →
        ¬ (runAll c start before).Refuses c (.scan d) →
        s.Refuses c .advance ∧ ∀ d', s.Refuses c (.scan d') ∧ s.Refuses c (.scanRow d')) ∧
      ∀ d, s.Refuses c (.scanRow d) ∨ Since c FindsRow (LeavesRow c) start uses := by
  intro start s
  refine ⟨fun d => ?_, ?_, fun d => ?_⟩
  · rw [Scanner.refuses_scan_iff]
    constructor
    · intro hused
      by_contra hnone
      exact hused (Scanner.mode_runAll c rfl fun u hu =>
        Bool.eq_false_iff.mpr fun hiterates => hnone ⟨u, hu, hiterates⟩)
    · rintro ⟨u, hu, hiterates⟩ hfresh
      have hnone := (iterates_of_fresh c hfresh).2 u hu
      exact absurd (hnone.symm.trans hiterates) nofun
  · rintro before d after hsplit haccepted
    have hfresh : (runAll c start before).mode = .fresh := by
      by_contra hused
      exact haccepted (Scanner.refuses_scan_iff.mpr hused)
    have hrun : s = runAll c ((ScannerUse.scan d).run c (runAll c start before)) after := by
      show runAll c start uses = _
      rw [hsplit, runAll_append]
      rfl
    have hmode : s.mode = .automatic := by
      rw [hrun]
      exact Scanner.mode_runAll_automatic (Scanner.mode_scan c hfresh d) after
    refine ⟨Scanner.refuses_advance hmode, fun d' => ⟨?_, ?_⟩⟩
    · exact Scanner.refuses_scan_iff.mpr (hmode ▸ nofun)
    · exact Scanner.refuses_scanRow (.inl (hmode ▸ nofun)) d'
  · cases hrow : s.hasRow with
    | false => exact .inl (Scanner.refuses_scanRow (.inr hrow) d)
    | true => exact .inr ((hasRow_iff_since c rows o single uses).mp hrow)

/-- Two rows. After an advance a scan is refused and the row can be stored, for it was found and is
there still. After a scan, even one that fails for want of a list, an advance is refused. -/
theorem ScannerUse.ways_exclude_of_two :
    let c := Catalog.ofDeclarations #[] fun _ name => name
    let rows : BufferedRows := { columns := ["id"], rows := [[.int 1], [.int 2]] }
    let start := Scanner.start rows {} false
    let s := runAll c start [.advance]
    s.Refuses c (.scan (.map [])) ∧ ¬ s.Refuses c (.scanRow (.map [])) ∧
      Since c FindsRow (LeavesRow c) start [.advance] ∧
      (runAll c start [.scan (.map [])]).Refuses c .advance := by
  intro c rows start s
  obtain ⟨hscan, -, hrow⟩ := ScannerUse.ways_exclude c rows {} false [.advance]
  obtain ⟨-, hafter, -⟩ := ScannerUse.ways_exclude c rows {} false [.scan (.map [])]
  have hstored : (Scanner.scanRow c (s, .map [])).1 = .ok () := rfl
  have haccepted : ¬ s.Refuses c (.scanRow (.map [])) := by
    rintro ⟨fault, hrefused⟩
    rw [hrefused] at hstored
    cases hstored
  refine ⟨(hscan _).mpr ⟨.advance, List.mem_cons_self, rfl⟩, haccepted, ?_, ?_⟩
  · exact (hrow (.map [])).resolve_left haccepted
  · exact (hafter [] (.map []) [] rfl fun h => Scanner.refuses_scan_iff.mp h rfl).1

end Rowbind
